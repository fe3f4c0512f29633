/-
What becomes of one search, whatever the program says and however it ends.

`Host.SearchEnds` has a case for each way a search ends, and every search whose program was
run ends in one of them (`search_ends`). The code 2 alone does not tell whether the search
failed: it did not if every error line names a file, nor if anything was printed.

* `search_classified` — **when a search fails, and what it gives where it does not.**
-/

import KeyAudit.Proofs.Audit.Parts
import KeyAudit.Proofs.Ripgrep.ErrorLines

namespace KeyAudit

theorem Ripgrep.mem_printedKeys_iff_exists_line {stdout : List Char} {key : String} :
    key ∈ printedKeys stdout ↔
      ∃ line ∈ Text.lines stdout, Text.trim line = key.toList ∧ key ≠ "" := by
  rw [printedKeys, KeySet.mem_ofList, List.mem_map]
  simp only [Text.filledLines, List.mem_filter, List.mem_map]
  constructor
  · rintro ⟨_, ⟨⟨line, hline, rfl⟩, hfilled⟩, rfl⟩
    refine ⟨line, hline, String.toList_ofList.symm, ?_⟩
    intro hempty
    rw [String.ofList_eq_empty_iff] at hempty
    simp [hempty] at hfilled
  · rintro ⟨line, hline, htrim, hne⟩
    refine ⟨key.toList, ⟨⟨line, hline, htrim⟩, ?_⟩, String.ofList_toList⟩
    simpa using hne

namespace Host

variable {host : Host Id} {program root : Path} {closing : Reference.Closing} {done : Finished}
  {stdout stderr : List Char}

/-! ### The ways a search ends -/

/-- There are error lines, and each of them names a file. -/
def AllAttributed (host : Host Id) (lines : List (List Char)) : Prop :=
  lines ≠ [] ∧ ∀ line ∈ lines, ∃ w, host.Attributes line w

/-- A search ends with this result when its program has ended with a status and has written
these texts. -/
inductive SearchEnds (host : Host Id) (program root : Path) (stdout stderr : List Char) :
    ProcessStatus → Except Problem Ripgrep.Search → Prop where
  | quiet {code : Nat} : code = 0 ∨ code = 1 →
      SearchEnds host program root stdout stderr (.exited code)
        (.ok ⟨Ripgrep.printedKeys stdout, []⟩)
  | attributed {ws : List SourceWarning} : host.AllAttributed (Text.filledLines stderr) →
      List.Forall₂ host.Attributes (Text.filledLines stderr) ws →
      SearchEnds host program root stdout stderr (.exited 2)
        (.ok ⟨Ripgrep.printedKeys stdout, ws⟩)
  | unattributed : ¬ host.AllAttributed (Text.filledLines stderr) →
      (∃ c ∈ stdout, Text.isBlank c = false) →
      SearchEnds host program root stdout stderr (.exited 2)
        (.ok ⟨Ripgrep.printedKeys stdout, [⟨root.text, String.ofList (Text.trim stderr)⟩]⟩)
  | silent : ¬ host.AllAttributed (Text.filledLines stderr) →
      (∀ c ∈ stdout, Text.isBlank c = true) →
      SearchEnds host program root stdout stderr (.exited 2)
        (.error (.programFailed program (.exited 2) (String.ofList (Text.trim stderr))))
  | stray {code : Nat} : code ∉ [0, 1, 2] →
      SearchEnds host program root stdout stderr (.exited code)
        (.error (.programFailed program (.exited code) (String.ofList (Text.trim stderr))))
  | killed {signal : Nat} {dumped : Bool} :
      SearchEnds host program root stdout stderr (.killed signal dumped)
        (.error (.programFailed program (.killed signal dumped)
          (String.ofList (Text.trim stderr))))

theorem allAttributed_iff {lines : List (List Char)} :
    host.AllAttributed lines ↔
      ∃ w ws, (host.namedFiles lines).run = some (w :: ws) := by
  rw [AllAttributed, ← exists_attributed_iff]
  constructor
  · rintro ⟨hne, ws, hws⟩
    cases ws with
    | nil =>
        have hnil := List.forall₂_nil_right_iff.mp (run_namedFiles_eq_some_iff.mp hws)
        exact absurd hnil hne
    | cons w ws => exact ⟨w, ws, hws⟩
  · rintro ⟨w, ws, hws⟩
    refine ⟨?_, _, hws⟩
    rintro rfl
    cases hws

theorem not_allAttributed_iff {lines : List (List Char)} :
    ¬ host.AllAttributed lines ↔
      lines = [] ∨ ∃ line ∈ lines, ∀ w, ¬ host.Attributes line w := by
  simp only [AllAttributed, not_and_or, not_not, not_forall, not_exists, exists_prop]

theorem run_search_eq (ran : (host.run program (Ripgrep.arguments closing root)).run = .ok done) :
    (host.search program root closing).run =
      Ripgrep.classify program root done.status (Text.Utf8.decodeLossy done.stdout)
        (Text.Utf8.decodeLossy done.stderr)
        (host.namedFiles (Text.filledLines (Text.Utf8.decodeLossy done.stderr))).run := by
  unfold search
  simp only [Id.run_bind, ran, Id.run_pure]

/-- The code 2 by itself decides nothing. -/
theorem searchEnds_two : host.SearchEnds program root stdout stderr (.exited 2)
    (Ripgrep.classify program root (.exited 2) stdout stderr
      (host.namedFiles (Text.filledLines stderr)).run) := by
  by_cases hall : host.AllAttributed (Text.filledLines stderr)
  · obtain ⟨w, ws, hws⟩ := allAttributed_iff.mp hall
    rw [hws]
    exact .attributed hall (run_namedFiles_eq_some_iff.mp hws)
  · have hclassify : Ripgrep.classify program root (.exited 2) stdout stderr
        (host.namedFiles (Text.filledLines stderr)).run =
        if (Text.trim stdout).isEmpty then
          .error (.programFailed program (.exited 2) (String.ofList (Text.trim stderr)))
        else .ok ⟨Ripgrep.printedKeys stdout,
          [⟨root.text, String.ofList (Text.trim stderr)⟩]⟩ := by
      rcases hnamed : (host.namedFiles (Text.filledLines stderr)).run with _ | _ | ⟨w, ws⟩
      · rfl
      · rfl
      · exact absurd (allAttributed_iff.mpr ⟨w, ws, hnamed⟩) hall
    rw [hclassify]
    split
    · rename_i hempty
      exact .silent hall (Text.trim_eq_nil_iff.mp (List.isEmpty_iff.mp hempty))
    · rename_i hprinted
      refine .unattributed hall ?_
      simpa [Text.trim_eq_nil_iff] using hprinted

/-- **Every search ends in one of the ways.** -/
theorem search_ends (ran : (host.run program (Ripgrep.arguments closing root)).run = .ok done) :
    host.SearchEnds program root (Text.Utf8.decodeLossy done.stdout)
      (Text.Utf8.decodeLossy done.stderr) done.status (host.search program root closing).run := by
  rw [run_search_eq ran]
  match done.status with
  | .killed signal dumped => exact .killed
  | .exited 0 => exact .quiet (.inl rfl)
  | .exited 1 => exact .quiet (.inr rfl)
  | .exited 2 => exact searchEnds_two
  | .exited (code + 3) => exact .stray (by simp)

/-! ### When a search fails, and what it gives otherwise -/

/-- Some program runs are no search: one that was ended by a signal, one that ended with a code
of no meaning, and one that ended with 2, printed nothing but blanks, and wrote no error line
or one that names no file. -/
inductive SearchFails (host : Host Id) (stdout stderr : List Char) : ProcessStatus → Prop where
  | killed {signal : Nat} {dumped : Bool} :
      SearchFails host stdout stderr (.killed signal dumped)
  | stray {code : Nat} : code ∉ [0, 1, 2] → SearchFails host stdout stderr (.exited code)
  | silent : (∀ c ∈ stdout, Text.isBlank c = true) →
      (Text.filledLines stderr = [] ∨
        ∃ line ∈ Text.filledLines stderr, ∀ w, ¬ host.Attributes line w) →
      SearchFails host stdout stderr (.exited 2)

theorem searchFails_two_iff : host.SearchFails stdout stderr (.exited 2) ↔
    (∀ c ∈ stdout, Text.isBlank c = true) ∧
      (Text.filledLines stderr = [] ∨
        ∃ line ∈ Text.filledLines stderr, ∀ w, ¬ host.Attributes line w) := by
  constructor
  · intro h
    cases h with
    | stray hcode => simp at hcode
    | silent hblank hnone => exact ⟨hblank, hnone⟩
  · rintro ⟨hblank, hnone⟩
    exact .silent hblank hnone

namespace SearchEnds

variable {status : ProcessStatus} {result : Except Problem Ripgrep.Search}
  {found : Ripgrep.Search}

theorem error_iff (h : host.SearchEnds program root stdout stderr status result) :
    (∃ problem, result = .error problem) ↔ host.SearchFails stdout stderr status := by
  constructor
  · rintro ⟨problem, rfl⟩
    cases h with
    | silent hnone hblank => exact .silent hblank (not_allAttributed_iff.mp hnone)
    | stray hcode => exact .stray hcode
    | killed => exact .killed
  · intro hfails
    cases h with
    | quiet hcode =>
        cases hfails with
        | stray hstray => rcases hcode with rfl | rfl <;> simp at hstray
        | silent => simp at hcode
    | attributed hall =>
        have hnone := (searchFails_two_iff.mp hfails).2
        exact absurd hall (not_allAttributed_iff.mpr hnone)
    | unattributed _ hprinted =>
        obtain ⟨c, hc, hfilled⟩ := hprinted
        rw [(searchFails_two_iff.mp hfails).1 c hc] at hfilled
        cases hfilled
    | silent => exact ⟨_, rfl⟩
    | stray => exact ⟨_, rfl⟩
    | killed => exact ⟨_, rfl⟩

/-- Nothing that was printed is lost. -/
theorem keys_eq (h : host.SearchEnds program root stdout stderr status (.ok found)) :
    found.keys = Ripgrep.printedKeys stdout := by
  cases h <;> rfl

theorem warnings_of_quiet (h : host.SearchEnds program root stdout stderr status (.ok found))
    (quiet : status = .exited 0 ∨ status = .exited 1) : found.warnings = [] := by
  cases h with
  | quiet => rfl
  | attributed => simp at quiet
  | unattributed => simp at quiet

theorem warnings_of_attributed
    (h : host.SearchEnds program root stdout stderr (.exited 2) (.ok found))
    (hall : host.AllAttributed (Text.filledLines stderr)) :
    List.Forall₂ host.Attributes (Text.filledLines stderr) found.warnings := by
  cases h with
  | quiet hcode => simp at hcode
  | attributed _ hws => exact hws
  | unattributed hnone => exact absurd hall hnone

theorem warnings_of_unattributed
    (h : host.SearchEnds program root stdout stderr (.exited 2) (.ok found))
    (hnone : ¬ host.AllAttributed (Text.filledLines stderr)) :
    found.warnings = [⟨root.text, String.ofList (Text.trim stderr)⟩] := by
  cases h with
  | quiet hcode => simp at hcode
  | attributed hall => exact absurd hall hnone
  | unattributed => rfl

/-- Lines that name files are warned of as they stand. -/
theorem eq_of_attributed {ws : List SourceWarning}
    (h : host.SearchEnds program root stdout stderr (.exited 2) result) (hne : ws ≠ [])
    (hws : List.Forall₂ host.Attributes (Text.filledLines stderr) ws) :
    result = .ok ⟨Ripgrep.printedKeys stdout, ws⟩ := by
  have hnamed := run_namedFiles_eq_some_iff.mpr hws
  have hall : host.AllAttributed (Text.filledLines stderr) := by
    obtain ⟨w, rest, rfl⟩ := List.exists_cons_of_ne_nil hne
    exact allAttributed_iff.mpr ⟨w, rest, hnamed⟩
  cases h with
  | quiet hcode => simp at hcode
  | attributed _ hws' =>
      rw [run_namedFiles_eq_some_iff.mpr hws'] at hnamed
      cases hnamed
      rfl
  | unattributed hnone => exact absurd hall hnone
  | silent hnone => exact absurd hall hnone
  | stray hcode => simp at hcode

/-- The code 2 is never passed over in silence. -/
theorem warnings_ne_nil
    (h : host.SearchEnds program root stdout stderr (.exited 2) (.ok found)) :
    found.warnings ≠ [] := by
  intro hnil
  by_cases hall : host.AllAttributed (Text.filledLines stderr)
  · have hws := h.warnings_of_attributed hall
    rw [hnil] at hws
    exact hall.1 (List.forall₂_nil_right_iff.mp hws)
  · rw [h.warnings_of_unattributed hall] at hnil
    cases hnil

end SearchEnds

/-- **When a search fails, and what it gives where it does not.** It fails exactly in the cases
of `SearchFails`. Else its keys are the lines printed, trimmed, where they hold something.
It warns of nothing after the codes 0 and 1, and of something after 2: of each error line's
file, in their order, if there are error lines and each names one, and else of the root, with
all that was written. -/
theorem search_classified
    (ran : (host.run program (Ripgrep.arguments closing root)).run = .ok done)
    (out : Text.Utf8.decodeLossy done.stdout = stdout)
    (err : Text.Utf8.decodeLossy done.stderr = stderr) :
    ((∃ problem, (host.search program root closing).run = .error problem) ↔
      host.SearchFails stdout stderr done.status) ∧
    ∀ found, (host.search program root closing).run = .ok found →
      (∀ key, key ∈ found.keys ↔
        ∃ line ∈ Text.lines stdout, Text.trim line = key.toList ∧ key ≠ "") ∧
      (done.status = .exited 0 ∨ done.status = .exited 1 → found.warnings = []) ∧
      (done.status = .exited 2 → found.warnings ≠ [] ∧
        (host.AllAttributed (Text.filledLines stderr) →
          List.Forall₂ host.Attributes (Text.filledLines stderr) found.warnings) ∧
        (¬ host.AllAttributed (Text.filledLines stderr) →
          found.warnings = [⟨root.text, String.ofList (Text.trim stderr)⟩])) := by
  have ends := search_ends ran
  rw [out, err] at ends
  refine ⟨ends.error_iff, ?_⟩
  intro found hfound
  rw [hfound] at ends
  refine ⟨?_, ends.warnings_of_quiet, ?_⟩
  · intro key
    rw [ends.keys_eq]
    exact Ripgrep.mem_printedKeys_iff_exists_line
  · intro status
    rw [status] at ends
    exact ⟨ends.warnings_ne_nil, ends.warnings_of_attributed, ends.warnings_of_unattributed⟩

end Host

/-! ### One line that names no file -/

namespace SearchOutcome

/-- The program has printed a key and complained twice, but only one complaint names a file. -/
def sampleDone : Finished :=
  ⟨.exited 2, "nav.home\n".toUTF8.data.toList,
    "rg: src/app.ts: Permission denied (os error 13)\nrg: stopped early\n".toUTF8.data.toList⟩

def sampleWorld : Snapshot where
  texts := [(⟨"src/app.ts"⟩, "")]
  trees := [(⟨"src"⟩, .directory [("app.ts", .file)])]
  answer _ _ := .ok sampleDone

/-- The key is kept, and both complaints stand in one warning. -/
theorem search_classified_of_sampleDone :
    ((sampleWorld.host.run ⟨"rg"⟩ (Ripgrep.arguments .mark ⟨"src"⟩)).run = .ok sampleDone ∧
      Text.Utf8.decodeLossy sampleDone.stdout = "nav.home\n".toList ∧
      Text.Utf8.decodeLossy sampleDone.stderr =
        "rg: src/app.ts: Permission denied (os error 13)\nrg: stopped early\n".toList) ∧
    ∃ found, (sampleWorld.host.search ⟨"rg"⟩ ⟨"src"⟩ .mark).run = .ok found ∧
      "nav.home" ∈ found.keys ∧ found.warnings =
        [⟨"src", "rg: src/app.ts: Permission denied (os error 13)\nrg: stopped early"⟩] := by
  have ran : (sampleWorld.host.run ⟨"rg"⟩ (Ripgrep.arguments .mark ⟨"src"⟩)).run =
      .ok sampleDone := rfl
  have out : Text.Utf8.decodeLossy sampleDone.stdout = "nav.home\n".toList := by decide
  have err : Text.Utf8.decodeLossy sampleDone.stderr =
      "rg: src/app.ts: Permission denied (os error 13)\nrg: stopped early\n".toList := by decide
  obtain ⟨herror, hfound⟩ := Host.search_classified ran out err
  refine ⟨⟨ran, out, err⟩, ?_⟩
  have hnone : ¬ sampleWorld.host.AllAttributed (Text.filledLines
      "rg: src/app.ts: Permission denied (os error 13)\nrg: stopped early\n".toList) := by
    have hnamed : (sampleWorld.host.namedFiles (Text.filledLines
        "rg: src/app.ts: Permission denied (os error 13)\nrg: stopped early\n".toList)).run =
        none := by rfl
    rw [Host.allAttributed_iff, hnamed]
    rintro ⟨_, _, ⟨⟩⟩
  cases hresult : (sampleWorld.host.search ⟨"rg"⟩ ⟨"src"⟩ .mark).run with
  | error problem =>
      have hfails := herror.mp ⟨problem, hresult⟩
      cases hfails with
      | stray hcode => exact absurd (by decide) hcode
      | silent hblank => exact absurd (hblank 'n' (by decide)) (by decide)
  | ok found =>
      obtain ⟨hkeys, -, htwo⟩ := hfound found hresult
      refine ⟨found, rfl, (hkeys _).mpr ⟨"nav.home".toList, by decide, by decide, by decide⟩, ?_⟩
      exact (htwo rfl).2.2 hnone

end SearchOutcome

end KeyAudit
