/-
What an audit makes of a source tree before and after it was worked on, the locale files
being the same.

`Host.AddsCode` says that no source file lost anything: files may have come, and lines may
have been added behind what a file held. Then every key that was used still is
(`Host.AddsCode.references`), because what stood at the end of a file stands at the end of
a line now. `Host.SameSources` says that the source files are the same; all other files,
declarations among them, may have come, changed or gone. `Audit.adding_code_never_unuses`
draws both together.
-/

import Mathlib.Data.List.Perm.Subperm
import KeyAudit.Proofs.Audit.Parts
import KeyAudit.Proofs.Scan.SourceFiles

namespace KeyAudit

/-! ### Fewer keys -/

/-- A set of keys that lies in another is no larger. -/
theorem KeySet.size_le_of_subset {s t : KeySet} (h : ∀ k ∈ s, k ∈ t) : s.size ≤ t.size := by
  have hnodup : s.keys.Nodup := s.ascending.imp String.ne_of_lt
  exact (hnodup.subperm h).length_le

namespace Analysis

variable {a b : Analysis}

/-- What is used more is unused less. -/
theorem unused_subset (en : b.en = a.en) (tr : b.tr = a.tr) (used : ∀ k ∈ a.used, k ∈ b.used) :
    ∀ k ∈ b.unused, k ∈ a.unused := by
  intro k hk
  rw [mem_unused, en, tr] at hk
  exact mem_unused.mpr ⟨hk.1, fun hused => hk.2 (used k hused)⟩

theorem usedDefined_le (en : b.en = a.en) (tr : b.tr = a.tr) (used : ∀ k ∈ a.used, k ∈ b.used) :
    a.usedDefined ≤ b.usedDefined := by
  have hall : b.all = a.all := by rw [all, all, en, tr]
  have hunused := KeySet.size_le_of_subset (unused_subset en tr used)
  rw [usedDefined, usedDefined, hall]
  omega

end Analysis

/-! ### A key referenced on a line of its own -/

/-- Lines that are added behind a text destroy no reference of it. -/
theorem Reference.References.append_lines {text key : List Char} (h : References text key)
    (more : List Char) : References (text ++ '\n' :: more) key := by
  obtain ⟨closing, hoccurs⟩ := h
  exact ⟨closing, occurs_newline_iff.mpr (.inl hoccurs)⟩

namespace Host

variable {host host' : Host Id} {root : Path}

/-! ### What does not change with the sources -/

theorem run_readText_congr {file : Path}
    (h : (host'.read file).run = (host.read file).run) :
    (host'.readText file).run = (host.readText file).run := by
  unfold readText
  rw [Id.run_bind, Id.run_bind, h]

/-- A locale is loaded from its file alone. -/
theorem run_loadLocale_congr {locale : Locale} {file : Path}
    (h : (host'.read file).run = (host.read file).run) :
    (host'.loadLocale locale file).run = (host.loadLocale locale file).run := by
  unfold loadLocale readMessages
  simp only [Id.run_bind, run_readText_congr h]

/-! ### Worlds in which the sources were worked on -/

/-- The root is a directory, which can be surveyed, and in every directory of it the
names differ and are those of entries. -/
structure Sources (host : Host Id) (root : Path) (entries : List (String × SourceTree)) :
    Prop where
  isDirectory : (host.isDirectory root).run = true
  survey : (host.survey root).run = .ok (.directory entries)
  named : (SourceTree.directory entries).WellNamed
  distinct : (SourceTree.directory entries).Distinct

/-- A directory of nothing but files. -/
theorem Sources.of_names {names : List String}
    (isDirectory : (host.isDirectory root).run = true)
    (survey : (host.survey root).run =
      .ok (.directory (names.map fun name => (name, SourceTree.file))))
    (named : ∀ name ∈ names, IsEntryName name) (distinct : names.Nodup) :
    host.Sources root (names.map fun name => (name, SourceTree.file)) where
  isDirectory := isDirectory
  survey := survey
  named := by
    apply SourceTree.wellNamed_directory
    intro entry hentry
    obtain ⟨name, hname, rfl⟩ := List.mem_map.mp hentry
    exact ⟨named name hname, SourceTree.wellNamed_file⟩
  distinct := by
    have hnames : (names.map fun name => (name, SourceTree.file)).map Prod.fst = names := by
      rw [List.map_map]
      exact List.map_id names
    refine .directory (hnames.symm ▸ distinct) ?_
    intro entry hentry
    obtain ⟨name, -, rfl⟩ := List.mem_map.mp hentry
    exact .file

/-- Each text that a source file held is still there, alone or with lines behind it.
What else there is may be new. -/
def AddsCode (host host' : Host Id) (root : Path) (tree tree' : SourceTree) : Prop :=
  ∀ file text, tree.SourceAt root file → host.Holds file text →
    tree'.SourceAt root file ∧
      (host'.Holds file text ∨ ∃ more, host'.Holds file (text ++ "\n" ++ more))

/-- The source files are the same, and so is what they hold. -/
def SameSources (host host' : Host Id) (root : Path) (tree tree' : SourceTree) : Prop :=
  ∀ file, (tree'.SourceAt root file ↔ tree.SourceAt root file) ∧
    (tree.SourceAt root file → (host'.read file).run = (host.read file).run)

/-- **A key that was referenced still is where code was added.** -/
theorem AddsCode.references {tree tree' : SourceTree} {key : String}
    (h : AddsCode host host' root tree tree') (href : host.ReferencesBelow root tree key) :
    host'.ReferencesBelow root tree' key := by
  obtain ⟨file, text, hat, hholds, hkey⟩ := href
  obtain ⟨hat', hholds' | ⟨more, hholds'⟩⟩ := h file text hat hholds
  · exact ⟨file, text, hat', hholds', hkey⟩
  · refine ⟨file, _, hat', hholds', ?_⟩
    have hlines := hkey.append_lines more.toList
    simpa using hlines

theorem SameSources.references_iff {tree tree' : SourceTree} {key : String}
    (h : SameSources host host' root tree tree') :
    host'.ReferencesBelow root tree' key ↔ host.ReferencesBelow root tree key := by
  constructor
  · rintro ⟨file, text, hat', hholds', hkey⟩
    have hat := (h file).1.mp hat'
    exact ⟨file, text, hat, ((h file).2 hat).symm.trans hholds', hkey⟩
  · rintro ⟨file, text, hat, hholds, hkey⟩
    exact ⟨file, text, (h file).1.mpr hat, ((h file).2 hat).trans hholds, hkey⟩

/-! ### Scans of such worlds -/

variable {entries entries' : List (String × SourceTree)}

theorem files_scanByWalk (sources : host.Sources root entries) :
    (host.scanByWalk root).run.files =
      some (Walk.filesOf root (.directory entries)).length := by
  rw [run_scanByWalk sources.survey]
  exact congrArg some (List.length_mergeSort _)

/-- **Where code was added, a walk finds what it found before.** -/
theorem keys_scanByWalk_subset (before : host.Sources root entries)
    (after : host'.Sources root entries')
    (h : AddsCode host host' root (.directory entries) (.directory entries')) :
    ∀ key ∈ (host.scanByWalk root).run.keys, key ∈ (host'.scanByWalk root).run.keys := by
  intro key hkey
  rw [mem_keys_scanByWalk_iff before.survey before.named] at hkey
  rw [mem_keys_scanByWalk_iff after.survey after.named]
  exact h.references hkey

/-- **Where the source files are the same, so are the keys and the number of files.** -/
theorem scanByWalk_of_sameSources (before : host.Sources root entries)
    (after : host'.Sources root entries')
    (h : SameSources host host' root (.directory entries) (.directory entries')) :
    (host'.scanByWalk root).run.keys = (host.scanByWalk root).run.keys ∧
      (host'.scanByWalk root).run.files = (host.scanByWalk root).run.files := by
  constructor
  · apply KeySet.ext_mem
    intro key
    rw [mem_keys_scanByWalk_iff before.survey before.named,
      mem_keys_scanByWalk_iff after.survey after.named]
    exact h.references_iff
  · rw [files_scanByWalk before, files_scanByWalk after]
    exact congrArg some (Walk.length_filesOf_eq before.distinct after.distinct before.named
      after.named fun file => (h file).1)

end Host

namespace Audit

variable {host host' : Host Id} {paths : AuditPaths} {program : Path}
  {entries entries' : List (String × SourceTree)}

/-- **Adding code never makes a key unused.** With the locale files the same, the keys
defined are the same; where code was added, what was used still is, and no key is unused
that was used; and no file but a source file makes any difference. -/
theorem adding_code_never_unuses (before : host.Sources paths.sourceRoot entries)
    (after : host'.Sources paths.sourceRoot entries')
    (english : (host'.read paths.enMessages).run = (host.read paths.enMessages).run)
    (turkish : (host'.read paths.trMessages).run = (host.read paths.trMessages).run) :
    ∃ a b, (host.audit paths .walk program).run = .ok a ∧
      (host'.audit paths .walk program).run = .ok b ∧
      (b.analysis.en = a.analysis.en ∧ b.analysis.tr = a.analysis.tr ∧
        b.analysis.all = a.analysis.all ∧ b.analysis.enOnly = a.analysis.enOnly ∧
        b.analysis.trOnly = a.analysis.trOnly) ∧
      (host.AddsCode host' paths.sourceRoot (.directory entries) (.directory entries') →
        (∀ key ∈ a.analysis.used, key ∈ b.analysis.used) ∧
        (∀ key ∈ b.analysis.unused, key ∈ a.analysis.unused) ∧
        a.analysis.usedDefined ≤ b.analysis.usedDefined) ∧
      (host.SameSources host' paths.sourceRoot (.directory entries) (.directory entries') →
        b.analysis = a.analysis ∧ b.filesScanned = a.filesScanned) := by
  have hafter : (host'.audit paths .walk program).run = _ := Host.run_audit_walk after.isDirectory
  rw [Host.run_loadLocale_congr english, Host.run_loadLocale_congr turkish] at hafter
  refine ⟨_, _, Host.run_audit_walk before.isDirectory, hafter, ⟨rfl, rfl, rfl, rfl, rfl⟩, ?_, ?_⟩
  · intro adds
    have hused := Host.keys_scanByWalk_subset before after adds
    exact ⟨hused, Analysis.unused_subset rfl rfl hused, Analysis.usedDefined_le rfl rfl hused⟩
  · intro same
    obtain ⟨hkeys, hfiles⟩ := Host.scanByWalk_of_sameSources before after same
    exact ⟨congrArg (Analysis.mk _ _) hkeys, hfiles⟩

/-! ### Work on a small project -/

/-- One source file and one declaration. -/
def sketchEntries : List (String × SourceTree) := [("app.ts", .file), ("api.d.ts", .file)]

/-- The source file ends within a call. -/
def sketch : Snapshot where
  texts := [(⟨"en.json"⟩, "\x7b\"a\": 1, \"b\": 2\x7d"), (⟨"tr.json"⟩, "[]"),
    (⟨"src/app.ts"⟩, "t('a'"), (⟨"src/api.d.ts"⟩, "t('b')")]
  trees := [(⟨"src"⟩, .directory sketchEntries)]
  answer _ _ := .error .notFound

/-- A directory more, and another order. -/
def extendedEntries : List (String × SourceTree) :=
  [("lib", .directory [("more.js", .file)]), ("api.d.ts", .file), ("app.ts", .file)]

/-- The sketch with a second source file, and with a second line in the first. -/
def extended : Snapshot where
  texts := [(⟨"en.json"⟩, "\x7b\"a\": 1, \"b\": 2\x7d"), (⟨"tr.json"⟩, "[]"),
    (⟨"src/app.ts"⟩, "t('a'\nt('b')"), (⟨"src/api.d.ts"⟩, "t('b')"), (⟨"src/lib/more.js"⟩, "")]
  trees := [(⟨"src"⟩, .directory extendedEntries)]
  answer _ _ := .error .notFound

/-- Notes in the place of the declaration. -/
def annotatedEntries : List (String × SourceTree) := [("notes.md", .file), ("app.ts", .file)]

/-- The sketch with notes in the place of its declaration. -/
def annotated : Snapshot where
  texts := [(⟨"en.json"⟩, "\x7b\"a\": 1, \"b\": 2\x7d"), (⟨"tr.json"⟩, "[]"),
    (⟨"src/app.ts"⟩, "t('a'"), (⟨"src/notes.md"⟩, "t('b')")]
  trees := [(⟨"src"⟩, .directory annotatedEntries)]
  answer _ _ := .error .notFound

theorem sources_sketch : sketch.host.Sources ⟨"src"⟩ sketchEntries :=
  @Host.Sources.of_names _ _ ["app.ts", "api.d.ts"] rfl rfl (by decide) (by decide)

theorem sources_extended : extended.host.Sources ⟨"src"⟩ extendedEntries where
  isDirectory := rfl
  survey := rfl
  named := SourceTree.wellNamed_directory (List.forall_mem_cons.mpr
    ⟨⟨by decide, SourceTree.wellNamed_directory (List.forall_mem_singleton.mpr
        ⟨by decide, SourceTree.wellNamed_file⟩)⟩,
      List.forall_mem_cons.mpr ⟨⟨by decide, SourceTree.wellNamed_file⟩,
        List.forall_mem_singleton.mpr ⟨by decide, SourceTree.wellNamed_file⟩⟩⟩)
  distinct := .directory (by decide) (List.forall_mem_cons.mpr
    ⟨.directory (by decide) (List.forall_mem_singleton.mpr .file),
      List.forall_mem_cons.mpr ⟨.file, List.forall_mem_singleton.mpr .file⟩⟩)

theorem sources_annotated : annotated.host.Sources ⟨"src"⟩ annotatedEntries :=
  @Host.Sources.of_names _ _ ["notes.md", "app.ts"] rfl rfl (by decide) (by decide)

/-- The sketch has one source file. -/
theorem sourceAt_sketch_iff {file : Path} :
    (SourceTree.directory sketchEntries).SourceAt ⟨"src"⟩ file ↔ file = ⟨"src/app.ts"⟩ := by
  have hfiles : Walk.filesOf ⟨"src"⟩ (.directory sketchEntries) = [⟨"src/app.ts"⟩] := by decide
  rw [← Walk.mem_filesOf_directory_iff sources_sketch.named, hfiles, List.mem_singleton]

theorem addsCode_sketch_extended : sketch.host.AddsCode extended.host ⟨"src"⟩
    (.directory sketchEntries) (.directory extendedEntries) := by
  intro file text hat hholds
  cases sourceAt_sketch_iff.mp hat
  have htext : text = "t('a'" := hholds.unique rfl
  cases htext
  refine ⟨?_, .inr ⟨"t('b')", rfl⟩⟩
  rw [← Walk.mem_filesOf_directory_iff sources_extended.named]
  decide

theorem sameSources_sketch_annotated : sketch.host.SameSources annotated.host ⟨"src"⟩
    (.directory sketchEntries) (.directory annotatedEntries) := by
  intro file
  have hfiles : Walk.filesOf ⟨"src"⟩ (.directory annotatedEntries) = [⟨"src/app.ts"⟩] := by decide
  rw [← Walk.mem_filesOf_directory_iff sources_annotated.named, hfiles, List.mem_singleton,
    sourceAt_sketch_iff]
  refine ⟨Iff.rfl, ?_⟩
  rintro rfl
  rfl

theorem adding_code_to_sketch :
    (∃ a b, (sketch.host.audit .sample .walk ⟨"rg"⟩).run = .ok a ∧
      (extended.host.audit .sample .walk ⟨"rg"⟩).run = .ok b ∧
      (∀ key ∈ a.analysis.used, key ∈ b.analysis.used) ∧
      (∀ key ∈ b.analysis.unused, key ∈ a.analysis.unused) ∧
      a.analysis.usedDefined ≤ b.analysis.usedDefined) ∧
    ∃ a b, (sketch.host.audit .sample .walk ⟨"rg"⟩).run = .ok a ∧
      (annotated.host.audit .sample .walk ⟨"rg"⟩).run = .ok b ∧
      b.analysis = a.analysis ∧ b.filesScanned = a.filesScanned := by
  constructor
  · obtain ⟨a, b, ha, hb, -, adds, -⟩ := @adding_code_never_unuses sketch.host
      extended.host .sample ⟨"rg"⟩ _ _ sources_sketch sources_extended rfl rfl
    exact ⟨a, b, ha, hb, adds addsCode_sketch_extended⟩
  · obtain ⟨a, b, ha, hb, -, -, same⟩ := @adding_code_never_unuses sketch.host
      annotated.host .sample ⟨"rg"⟩ _ _ sources_sketch sources_annotated rfl rfl
    exact ⟨a, b, ha, hb, same sameSources_sketch_annotated⟩

end Audit

end KeyAudit
