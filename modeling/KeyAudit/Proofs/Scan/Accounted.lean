/-
Every collected file is accounted for once.

A file that was collected holds a text or cannot be read (`Host.Holds`, `Host.Refuses`), and
the outcomes of a walk fall apart the same way: the texts give the keys, and each file
without one gives a warning that names it (`Walk.forall₂_blames`). The files may be read in
any order and by any number of readers. `Slots` are the files in the order of their paths
with what reading them gave so far, and a `Slots.Step` reads any file whose slot is vacant;
so every run fills them alike (`Slots.outcomes_of_steps`).

* `every_source_accounted_for` — **no file is lost or counted twice, whichever fail and in
  whatever order they are read.**
-/

import Mathlib.Logic.Relation
import KeyAudit.Proofs.Scan.Collected
import KeyAudit.Scan.Select

namespace KeyAudit

open Relation

namespace Host

variable {host : Host Id} {file : Path}

/-! ### Files that cannot be read -/

/-- The text of a file cannot be had, and why: the system refuses it, or what it gives is the
UTF-8 of no text. -/
inductive Refuses (host : Host Id) (file : Path) : ReadFailure → Prop where
  | system {reason : OsError} : (host.read file).run = .error reason →
      Refuses host file (.system reason)
  | notText {bytes : ByteArray} : (host.read file).run = .ok bytes →
      (∀ text : String, bytes ≠ text.toUTF8) → Refuses host file .notText

theorem decode?_eq_none_iff {bytes : ByteArray} :
    Text.Utf8.decode? bytes = none ↔ ∀ text : String, bytes ≠ text.toUTF8 := by
  rw [Option.eq_none_iff_forall_ne_some]
  exact forall_congr' fun text => not_congr Text.Utf8.decode?_eq_some_iff

theorem refuses_iff {reason : ReadFailure} :
    host.Refuses file reason ↔
      (∃ error, (host.read file).run = .error error ∧ reason = .system error) ∨
      (∃ bytes, (host.read file).run = .ok bytes ∧ Text.Utf8.decode? bytes = none ∧
        reason = .notText) := by
  constructor
  · rintro (hread | ⟨hread, hnone⟩)
    · exact .inl ⟨_, hread, rfl⟩
    · exact .inr ⟨_, hread, decode?_eq_none_iff.mpr hnone, rfl⟩
  · rintro (⟨error, hread, rfl⟩ | ⟨bytes, hread, hnone, rfl⟩)
    · exact .system hread
    · exact .notText hread (decode?_eq_none_iff.mp hnone)

theorem readText_eq_error_iff {reason : ReadFailure} :
    (host.readText file).run = .error reason ↔ host.Refuses file reason := by
  rw [refuses_iff]
  unfold readText
  simp only [Id.run_bind]
  cases (host.read file).run with
  | error error => simp [eq_comm]
  | ok bytes =>
      cases hdecode : Text.Utf8.decode? bytes <;> simp [hdecode, eq_comm]

theorem Holds.not_refuses {text : String} {reason : ReadFailure} (h : host.Holds file text) :
    ¬ host.Refuses file reason := by
  intro hrefuses
  rw [← readText_eq_error_iff, readText_eq_ok_iff.mpr h] at hrefuses
  cases hrefuses

/-- The warning is about this file and says why it cannot be read. -/
def Blames (host : Host Id) (file : Path) (warning : SourceWarning) : Prop :=
  warning.file = file.text ∧ ∃ reason, host.Refuses file reason ∧
    warning.reason = (Problem.sourceUnreadable file reason).message

/-- Can the text of the file be had? -/
def canRead (host : Host Id) (file : Path) : Bool := (host.readText file).run.isOk

theorem canRead_eq_true_iff : host.canRead file = true ↔ ∃ text, host.Holds file text := by
  simp only [← readText_eq_ok_iff, canRead]
  cases (host.readText file).run <;> simp [Except.isOk, Except.toBool]

theorem canRead_eq_false_iff : host.canRead file = false ↔ ∃ reason, host.Refuses file reason := by
  simp only [← readText_eq_error_iff, canRead]
  cases (host.readText file).run <;> simp [Except.isOk, Except.toBool]

/-- What reading each of the files gives. -/
def outcomesOf (host : Host Id) (files : List Path) : List Walk.Outcome :=
  files.map fun file => (file, (host.readText file).run)

end Host

/-! ### Keys and warnings of the outcomes -/

namespace Walk

variable {host : Host Id} {files : List Path} {collected : Collected}

/-- The keys of the files that can be read. -/
theorem mem_keys_scanOf_outcomesOf_iff {key : String} :
    key ∈ (scanOf collected (host.outcomesOf files)).keys ↔
      ∃ file ∈ files, ∃ text, host.Holds file text ∧ key ∈ referencedKeys text := by
  rw [mem_keys_scanOf_iff]
  constructor
  · rintro ⟨file, text, hmem, hkey⟩
    obtain ⟨file', hfile, he⟩ := List.mem_map.mp hmem
    obtain ⟨rfl, hread⟩ := Prod.mk.inj he
    exact ⟨file', hfile, text, Host.readText_eq_ok_iff.mp hread, hkey⟩
  · rintro ⟨file, hfile, text, hholds, hkey⟩
    refine ⟨file, text, List.mem_map.mpr ⟨file, hfile, ?_⟩, hkey⟩
    rw [Host.readText_eq_ok_iff.mpr hholds]

/-- **One warning for each file that cannot be read, in the order of the files.** -/
theorem forall₂_blames : List.Forall₂ host.Blames (files.filter fun file => !host.canRead file)
    ((host.outcomesOf files).filterMap Outcome.warning?) := by
  induction files with
  | nil => exact .nil
  | cons file files ih =>
      rw [Host.outcomesOf, List.map_cons, ← Host.outcomesOf]
      cases hread : (host.readText file).run with
      | ok text =>
          have hcan : host.canRead file = true :=
            Host.canRead_eq_true_iff.mpr ⟨text, Host.readText_eq_ok_iff.mp hread⟩
          rw [List.filter_cons_of_neg (by simp [hcan]), List.filterMap_cons_none rfl]
          exact ih
      | error reason =>
          have hrefuses := Host.readText_eq_error_iff.mp hread
          have hcan : host.canRead file = false := Host.canRead_eq_false_iff.mpr ⟨reason, hrefuses⟩
          rw [List.filter_cons_of_pos (by simp [hcan])]
          exact .cons ⟨rfl, reason, hrefuses, rfl⟩ ih

/-- The files are collected in strictly ascending order. -/
theorem pairwise_collect {root : Path} {surveyed : Except OsError SourceTree}
    (named : ∀ tree, surveyed = .ok tree → tree.Distinct ∧ tree.WellNamed) :
    (collect root surveyed).files.Pairwise Path.Before := by
  cases surveyed with
  | error reason => exact .nil
  | ok tree =>
      obtain ⟨hdistinct, hnamed⟩ := named tree rfl
      exact Path.pairwise_before_mergeSort (nodup_components_filesOf hdistinct hnamed)

end Walk

/-! ### Readers that take turns -/

/-- Files in their order, each with what reading it gave once it has been read. -/
abbrev Slots := List (Path × Option (Except ReadFailure String))

namespace Slots

variable {host : Host Id} {slots slots' : Slots}

/-- The slots before any file has been read. -/
def vacant (files : List Path) : Slots := files.map fun file => (file, none)

/-- Some file that has not been read yet is read, whichever is next. -/
inductive Step (host : Host Id) : Slots → Slots → Prop where
  | read {before after : Slots} {file : Path} :
      Step host (before ++ (file, none) :: after)
        (before ++ (file, some (host.readText file).run) :: after)

/-- The outcomes in the order of the slots, once all files have been read. -/
def outcomes? : Slots → Option (List Walk.Outcome)
  | [] => some []
  | (file, some result) :: slots => (outcomes? slots).map ((file, result) :: ·)
  | (_, none) :: _ => none

/-- The slots are those of the files, and what has been read is what the host gives. -/
structure Faithful (host : Host Id) (files : List Path) (slots : Slots) : Prop where
  files : slots.map Prod.fst = files
  results : ∀ slot ∈ slots, ∀ result, slot.2 = some result → result = (host.readText slot.1).run

variable {files : List Path}

theorem faithful_vacant (host : Host Id) (files : List Path) : Faithful host files (vacant files) where
  files := by
    rw [vacant, List.map_map]
    exact List.map_id files
  results := by
    intro slot hslot result hresult
    obtain ⟨file, -, rfl⟩ := List.mem_map.mp hslot
    cases hresult

/-- Reading one file keeps the slots faithful. -/
theorem Step.faithful (step : Step host slots slots') (h : Faithful host files slots) :
    Faithful host files slots' := by
  cases step with
  | @read before after file =>
      refine ⟨?_, ?_⟩
      · rw [← h.files, List.map_append, List.map_append, List.map_cons, List.map_cons]
      · intro slot hslot result hresult
        rcases List.mem_append.mp hslot with hslot | hslot
        · exact h.results slot (List.mem_append_left _ hslot) result hresult
        · rcases List.mem_cons.mp hslot with rfl | hslot
          · exact (Option.some.inj hresult).symm
          · exact h.results slot (List.mem_append_right _ (List.mem_cons_of_mem _ hslot)) result
              hresult

/-- So does a whole run. -/
theorem faithful_of_steps (steps : ReflTransGen (Step host) (vacant files) slots) :
    Faithful host files slots := by
  induction steps with
  | refl => exact faithful_vacant host files
  | tail _ step ih => exact step.faithful ih

theorem Faithful.outcomes {outcomes : List Walk.Outcome} (h : Faithful host files slots)
    (full : slots.outcomes? = some outcomes) : outcomes = host.outcomesOf files := by
  obtain ⟨rfl, hresults⟩ := h
  induction slots generalizing outcomes with
  | nil =>
      cases full
      rfl
  | cons slot slots ih =>
      obtain ⟨file, _ | result⟩ := slot
      · cases full
      · obtain ⟨rest, hrest, rfl⟩ := Option.map_eq_some_iff.mp full
        have hresult := hresults (file, some result) List.mem_cons_self result rfl
        rw [ih hrest fun slot hslot => hresults slot (List.mem_cons_of_mem _ hslot), hresult]
        rfl

/-- **The order in which the files are read does not show.** -/
theorem outcomes_of_steps {outcomes : List Walk.Outcome}
    (steps : ReflTransGen (Step host) (vacant files) slots)
    (full : slots.outcomes? = some outcomes) : outcomes = host.outcomesOf files :=
  (faithful_of_steps steps).outcomes full

/-- Reading goes on behind a slot. -/
theorem Step.cons (slot : Path × Option (Except ReadFailure String)) (step : Step host slots slots') :
    Step host (slot :: slots) (slot :: slots') := by
  cases step with
  | @read before after file => exact @Step.read host (slot :: before) after file

/-- **Every run can be brought to its end.** -/
theorem exists_full (host : Host Id) (slots : Slots) :
    ∃ last outcomes, ReflTransGen (Step host) slots last ∧ last.outcomes? = some outcomes := by
  induction slots with
  | nil => exact ⟨[], [], .refl, rfl⟩
  | cons slot slots ih =>
      obtain ⟨file, result⟩ := slot
      obtain ⟨last, outcomes, steps, full⟩ := ih
      have behind (slot : Path × Option (Except ReadFailure String)) :
          ReflTransGen (Step host) (slot :: slots) (slot :: last) :=
        steps.lift (slot :: ·) fun _ _ step => step.cons slot
      cases result with
      | some result =>
          exact ⟨_, (file, result) :: outcomes, behind (file, some result), by
            rw [outcomes?, full, Option.map_some]⟩
      | none =>
          refine ⟨_, (file, (host.readText file).run) :: outcomes,
            .head (@Step.read host [] slots file) (behind (file, some (host.readText file).run)), ?_⟩
          rw [outcomes?, full, Option.map_some]

end Slots

/-! ### The account -/

namespace Host

variable {host : Host Id} {root : Path}

theorem run_scanByWalk_eq : (host.scanByWalk root).run =
    Walk.scanOf (host.collectSources root).run
      (host.outcomesOf (host.collectSources root).run.files) := by
  rw [outcomesOf, ← run_readAll]
  rfl

/-- The files fall into those that can be read and those that cannot, each in strictly ascending
order. -/
structure Parts (host : Host Id) (files readable unreadable : List Path) : Prop where
  files : (readable ++ unreadable).Perm files
  ordered : readable.Pairwise Path.Before ∧ unreadable.Pairwise Path.Before
  holds : ∀ file ∈ readable, ∃ text, host.Holds file text
  refuses : ∀ file ∈ unreadable, ∃ reason, host.Refuses file reason

section Parts

variable {files readable unreadable readable' unreadable' : List Path}

theorem Parts.mem_readable_iff (h : host.Parts files readable unreadable) {file : Path} :
    file ∈ readable ↔ file ∈ files ∧ ∃ text, host.Holds file text := by
  rw [← h.files.mem_iff, List.mem_append]
  constructor
  · intro hfile
    exact ⟨.inl hfile, h.holds file hfile⟩
  · rintro ⟨hfile, text, htext⟩
    apply hfile.resolve_right
    intro hrefused
    obtain ⟨reason, hreason⟩ := h.refuses file hrefused
    exact htext.not_refuses hreason

theorem Parts.mem_unreadable_iff (h : host.Parts files readable unreadable) {file : Path} :
    file ∈ unreadable ↔ file ∈ files ∧ ∃ reason, host.Refuses file reason := by
  rw [← h.files.mem_iff, List.mem_append]
  constructor
  · intro hfile
    exact ⟨.inr hfile, h.refuses file hfile⟩
  · rintro ⟨hfile, reason, hreason⟩
    apply hfile.resolve_left
    intro hread
    obtain ⟨text, htext⟩ := h.holds file hread
    exact htext.not_refuses hreason

/-- **The files fall apart in one way.** -/
theorem Parts.unique (h : host.Parts files readable unreadable)
    (h' : host.Parts files readable' unreadable') :
    readable = readable' ∧ unreadable = unreadable' := by
  constructor
  · apply Path.eq_of_pairwise_before h.ordered.1 h'.ordered.1
    intro file
    rw [h.mem_readable_iff, h'.mem_readable_iff]
  · apply Path.eq_of_pairwise_before h.ordered.2 h'.ordered.2
    intro file
    rw [h.mem_unreadable_iff, h'.mem_unreadable_iff]

theorem parts_filter (ordered : files.Pairwise Path.Before) :
    host.Parts files (files.filter host.canRead) (files.filter fun file => !host.canRead file) where
  files := List.filter_append_perm host.canRead files
  ordered := ⟨ordered.filter _, ordered.filter _⟩
  holds := fun _ hfile => canRead_eq_true_iff.mp (List.mem_filter.mp hfile).2
  refuses := fun _ hfile =>
    canRead_eq_false_iff.mp (by simpa using (List.mem_filter.mp hfile).2)

end Parts

/-- The keys of a scan are those that the readable files reference; its warnings are those of
the walk and then one for each unreadable file, in their order; and the number of files is that
of the readable ones and of these warnings. -/
structure Accounts (host : Host Id) (collected : Walk.Collected) (scan : SourceScan)
    (readable unreadable : List Path) (blames : List SourceWarning) : Prop where
  parts : host.Parts collected.files readable unreadable
  keys : ∀ key, key ∈ scan.keys ↔
    ∃ file ∈ readable, ∃ text, host.Holds file text ∧ key ∈ referencedKeys text
  warnings : scan.warnings = collected.warnings ++ blames
  blamed : List.Forall₂ host.Blames unreadable blames
  count : scan.files = some (readable.length + blames.length)

theorem accounts_scanOf {collected : Walk.Collected}
    (ordered : collected.files.Pairwise Path.Before) :
    host.Accounts collected (Walk.scanOf collected (host.outcomesOf collected.files))
      (collected.files.filter host.canRead)
      (collected.files.filter fun file => !host.canRead file)
      ((host.outcomesOf collected.files).filterMap Walk.Outcome.warning?) where
  parts := parts_filter ordered
  keys := by
    intro key
    rw [Walk.mem_keys_scanOf_outcomesOf_iff]
    constructor
    · rintro ⟨file, hfile, text, hholds, hkey⟩
      have hreadable := (parts_filter ordered).mem_readable_iff.mpr ⟨hfile, text, hholds⟩
      exact ⟨file, hreadable, text, hholds, hkey⟩
    · rintro ⟨file, hreadable, text, hholds, hkey⟩
      exact ⟨file, ((parts_filter ordered).mem_readable_iff.mp hreadable).1, text, hholds, hkey⟩
  warnings := rfl
  blamed := Walk.forall₂_blames
  count := by
    rw [← Walk.forall₂_blames.length_eq, ← List.length_append,
      (List.filter_append_perm host.canRead collected.files).length_eq]
    rfl

/-- **Every collected file is accounted for once.** A walk always gives a scan. Each collected
file that can be read gives its keys, each other one a single warning that names it, in
ascending order and behind those of the walk, and both together are counted. Whatever becomes
of one file, the keys of the others stay; and in whatever order the files are read, they can
all be read, and then the scan is the same. -/
theorem every_source_accounted_for
    (named : ∀ tree, (host.survey root).run = .ok tree → tree.Distinct ∧ tree.WellNamed)
    (program : Path) :
    ∃ scan readable unreadable blames,
      (host.scanWith .walk program root).run = .ok scan ∧
      host.Accounts (host.collectSources root).run scan readable unreadable blames ∧
      (∀ (host' : Host Id) (failing : Path), (host'.survey root).run = (host.survey root).run →
        (∀ file ∈ readable, file ≠ failing → (host'.read file).run = (host.read file).run) →
        ∀ file ∈ readable, file ≠ failing → ∀ text, host.Holds file text →
          ∀ key ∈ referencedKeys text, key ∈ (host'.scanByWalk root).run.keys) ∧
      (∀ slots outcomes,
        ReflTransGen (Slots.Step host) (.vacant (host.collectSources root).run.files) slots →
        slots.outcomes? = some outcomes →
        Walk.scanOf (host.collectSources root).run outcomes = scan) ∧
      ∀ slots, ∃ last outcomes, ReflTransGen (Slots.Step host) slots last ∧
        last.outcomes? = some outcomes := by
  have ordered : (host.collectSources root).run.files.Pairwise Path.Before :=
    Walk.pairwise_collect named
  refine ⟨_, _, _, _, rfl, run_scanByWalk_eq ▸ accounts_scanOf ordered, ?_, ?_,
    Slots.exists_full host⟩
  · intro host' failing survey same file hfile hne text hholds key hkey
    have hcollected : (host'.collectSources root).run = (host.collectSources root).run :=
      congrArg (Walk.collect root) survey
    have hholds' : host'.Holds file text := (same file hfile hne).trans hholds
    rw [run_scanByWalk_eq, hcollected, Walk.mem_keys_scanOf_outcomesOf_iff]
    exact ⟨file, (List.mem_filter.mp hfile).1, text, hholds', hkey⟩
  · intro slots outcomes steps full
    rw [Slots.outcomes_of_steps steps full]
    exact run_scanByWalk_eq.symm

end Host

/-! ### A text, a file that is none, and one that is closed -/

namespace Accounted

/-- Three sources, listed out of order, and a directory that cannot be listed. -/
def sampleTree : SourceTree :=
  .directory [("c.ts", .file), ("locked", .closed .permissionDenied), ("a.ts", .file),
    ("b.ts", .file)]

/-- A host on which `a.ts` holds a text, `b.ts` holds none, and `c.ts` cannot be opened. -/
def sampleHost : Host Id where
  present _ := true
  isDirectory _ := true
  read p :=
    if p = ⟨"src/a.ts"⟩ then .ok "t('a')".toUTF8
    else if p = ⟨"src/b.ts"⟩ then .ok ⟨#[0xff]⟩
    else .error .permissionDenied
  survey _ := .ok sampleTree
  write _ _ := .error .permissionDenied
  run _ _ := .error .notFound
  workingDirectory := .ok ⟨"/"⟩
  now := ""

theorem named_sampleTree : sampleTree.Distinct ∧ sampleTree.WellNamed := by
  constructor
  · refine .directory (by decide) ?_
    simp only [List.forall_mem_cons]
    exact ⟨.file, .closed, .file, .file, by simp⟩
  · have hclosed : (SourceTree.closed .permissionDenied).WellNamed := by
      rintro names ⟨⟩
    apply SourceTree.wellNamed_directory
    simp only [List.forall_mem_cons]
    exact ⟨⟨by decide, SourceTree.wellNamed_file⟩, ⟨by decide, hclosed⟩,
      ⟨by decide, SourceTree.wellNamed_file⟩, ⟨by decide, SourceTree.wellNamed_file⟩, by simp⟩

theorem collected_sampleTree : (sampleHost.collectSources ⟨"src"⟩).run.warnings =
      [Walk.accessWarning ⟨"src/locked"⟩ .permissionDenied] ∧
    (sampleHost.collectSources ⟨"src"⟩).run.files.Perm
      [⟨"src/a.ts"⟩, ⟨"src/b.ts"⟩, ⟨"src/c.ts"⟩] := by
  refine ⟨by decide, ?_⟩
  have hfiles : (Walk.filesOf ⟨"src"⟩ sampleTree).Perm
      [⟨"src/a.ts"⟩, ⟨"src/b.ts"⟩, ⟨"src/c.ts"⟩] := by decide
  exact (List.mergeSort_perm _ _).trans hfiles

theorem read_sampleHost : sampleHost.Holds ⟨"src/a.ts"⟩ "t('a')" ∧
    sampleHost.Refuses ⟨"src/b.ts"⟩ .notText ∧
    sampleHost.Refuses ⟨"src/c.ts"⟩ (.system .permissionDenied) := by
  refine ⟨rfl, .notText rfl ?_, .system rfl⟩
  intro text htext
  have hnone : Text.Utf8.decode? ⟨#[0xff]⟩ = none := by decide +kernel
  rw [Text.Utf8.decode?_eq_some_iff.mpr htext] at hnone
  cases hnone

/-- All three sources are counted; the last two are blamed, in their order and behind the
directory, and the first keeps its key. -/
theorem accounted_for_in_sampleTree :
    (∀ tree, (sampleHost.survey ⟨"src"⟩).run = .ok tree → tree.Distinct ∧ tree.WellNamed) ∧
      ∃ scan blames, (sampleHost.scanWith .walk ⟨"rg"⟩ ⟨"src"⟩).run = .ok scan ∧
        scan.files = some 3 ∧
        scan.warnings = Walk.accessWarning ⟨"src/locked"⟩ .permissionDenied :: blames ∧
        List.Forall₂ sampleHost.Blames [⟨"src/b.ts"⟩, ⟨"src/c.ts"⟩] blames ∧
        ∀ key, key ∈ scan.keys ↔ key ∈ referencedKeys "t('a')" := by
  have named : ∀ tree, (sampleHost.survey ⟨"src"⟩).run = .ok tree →
      tree.Distinct ∧ tree.WellNamed := by
    rintro tree ⟨⟩
    exact named_sampleTree
  obtain ⟨scan, readable, unreadable, blames, hrun, accounts, -⟩ :=
    Host.every_source_accounted_for named ⟨"rg"⟩
  obtain ⟨hwarnings, hfiles⟩ := collected_sampleTree
  obtain ⟨holds, refuses, refuses'⟩ := read_sampleHost
  have hparts : sampleHost.Parts (sampleHost.collectSources ⟨"src"⟩).run.files [⟨"src/a.ts"⟩]
      [⟨"src/b.ts"⟩, ⟨"src/c.ts"⟩] :=
    { files := hfiles.symm
      ordered := by decide
      holds := List.forall_mem_singleton.mpr ⟨_, holds⟩
      refuses := List.forall_mem_cons.mpr
        ⟨⟨_, refuses⟩, List.forall_mem_singleton.mpr ⟨_, refuses'⟩⟩ }
  obtain ⟨rfl, rfl⟩ := accounts.parts.unique hparts
  refine ⟨named, scan, blames, hrun, ?_, accounts.warnings.trans (by rw [hwarnings]; rfl),
    accounts.blamed, ?_⟩
  · rw [accounts.count, ← accounts.blamed.length_eq]
    rfl
  · intro key
    rw [accounts.keys]
    constructor
    · rintro ⟨file, hfile, text, htext, hkey⟩
      cases List.mem_singleton.mp hfile
      rwa [htext.unique holds] at hkey
    · intro hkey
      exact ⟨_, List.mem_singleton_self _, _, holds, hkey⟩

end Accounted

end KeyAudit
