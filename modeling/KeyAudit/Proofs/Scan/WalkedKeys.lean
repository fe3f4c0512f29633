/-
Which files a walk reads, and which keys it finds in them.

`SourceTree.FileAt` says where regular files lie in a tree: at a list of names, through
directories alone. A walk of the tree collects exactly the source files among them
(`Walk.mem_filesOf_directory_iff`), so the keys of a walk are those that some readable source
file references (`mem_keys_scanByWalk_iff`).

The hosts here answer from one state of the world (`Host Id`), which nothing changes
while it is looked at.
-/

import KeyAudit.Proofs.Path.Child
import KeyAudit.Proofs.Reference.Occurrence
import KeyAudit.Scan.Walk

namespace KeyAudit

/-! ### Files of a tree -/

/-- A regular file lies at these names, which lead to it through directories. -/
inductive SourceTree.FileAt : SourceTree → List String → Prop where
  | here : FileAt .file []
  | inside {entries : List (String × SourceTree)} {name : String} {tree : SourceTree}
      {names : List String} : (name, tree) ∈ entries → FileAt tree names →
      FileAt (.directory entries) (name :: names)

/-- Every name on the way to a file can be that of an entry. -/
def SourceTree.WellNamed (tree : SourceTree) : Prop :=
  ∀ names, tree.FileAt names → ∀ name ∈ names, IsEntryName name

theorem SourceTree.wellNamed_file : SourceTree.file.WellNamed := by
  rintro names ⟨⟩ name hname
  cases hname

theorem SourceTree.wellNamed_other : SourceTree.other.WellNamed := by
  rintro names ⟨⟩

theorem SourceTree.wellNamed_directory {entries : List (String × SourceTree)}
    (h : ∀ entry ∈ entries, IsEntryName entry.1 ∧ entry.2.WellNamed) :
    (SourceTree.directory entries).WellNamed := by
  intro names hat name hname
  cases hat with
  | inside hmem hat =>
      rcases List.mem_cons.mp hname with rfl | hname
      · exact (h _ hmem).1
      · exact (h _ hmem).2 _ hat name hname

/-- The path at these names below a path. -/
def Path.below (p : Path) (names : List String) : Path := names.foldl Path.child p

/-- A name that ends as that of a source file does, and not as that of a declaration. -/
def IsSourceName (name : String) : Prop :=
  (∃ ending ∈ [".ts", ".tsx", ".js", ".jsx"], ending.toList <:+ name.toList) ∧
    ¬ ".d.ts".toList <:+ name.toList

/-- A source file lies at this path, reached through directories below the root. -/
def SourceTree.SourceAt (tree : SourceTree) (root file : Path) : Prop :=
  ∃ names name, tree.FileAt (names ++ [name]) ∧ IsSourceName name ∧
    file = root.below (names ++ [name])

theorem isSourceName_iff_isSourceName {name : String} :
    isSourceName name = true ↔ IsSourceName name := by
  rw [isSourceName_iff]
  simp only [sourceExtensions, List.mem_cons, List.not_mem_nil, or_false, exists_eq_or_imp,
    exists_eq_left, IsSourceName]
  exact Iff.rfl

namespace Walk

mutual

theorem mem_filesOf_iff (path file : Path) : ∀ tree : SourceTree,
    file ∈ filesOf path tree ↔
      ∃ names, tree.FileAt names ∧ file = path.below names ∧ file.isSource = true
  | .file => by
      simp only [filesOf]
      constructor
      · intro h
        split at h
        · rename_i hsource
          cases List.mem_singleton.mp h
          exact ⟨[], .here, rfl, hsource⟩
        · cases h
      · rintro ⟨names, hat, rfl, hsource⟩
        cases hat
        exact (if_pos hsource).symm ▸ List.mem_singleton.mpr rfl
  | .directory entries => by
      rw [filesOf, mem_filesOfEntries_iff path file entries]
      constructor
      · rintro ⟨name, tree, names, hmem, hat, hfile⟩
        exact ⟨name :: names, .inside hmem hat, hfile⟩
      · rintro ⟨names, hat, hfile⟩
        cases hat with
        | inside hmem hat => exact ⟨_, _, _, hmem, hat, hfile⟩
  | .closed reason => by
      simp only [filesOf, List.not_mem_nil, false_iff]
      rintro ⟨names, hat, -⟩
      cases hat
  | .other => by
      simp only [filesOf, List.not_mem_nil, false_iff]
      rintro ⟨names, hat, -⟩
      cases hat

theorem mem_filesOfEntries_iff (path file : Path) : ∀ entries : List (String × SourceTree),
    file ∈ filesOfEntries path entries ↔
      ∃ name tree names, (name, tree) ∈ entries ∧ tree.FileAt names ∧
        file = path.below (name :: names) ∧ file.isSource = true
  | [] => by simp [filesOfEntries]
  | (name, tree) :: entries => by
      rw [filesOfEntries, List.mem_append, mem_filesOf_iff (path.child name) file tree,
        mem_filesOfEntries_iff path file entries]
      constructor
      · rintro (⟨names, hat, hfile⟩ | ⟨name', tree', names, hmem, hat, hfile⟩)
        · exact ⟨name, tree, names, List.mem_cons_self, hat, hfile⟩
        · exact ⟨name', tree', names, List.mem_cons_of_mem _ hmem, hat, hfile⟩
      · rintro ⟨name', tree', names, hmem, hat, hfile⟩
        rcases List.mem_cons.mp hmem with he | hmem
        · cases he
          exact .inl ⟨names, hat, hfile⟩
        · exact .inr ⟨name', tree', names, hmem, hat, hfile⟩

end

theorem below_concat {p : Path} {names : List String} {name : String} :
    p.below (names ++ [name]) = (p.below names).child name := by
  rw [Path.below, List.foldl_append]
  rfl

/-- **Below a directory, a walk collects exactly the source files.** -/
theorem mem_filesOf_directory_iff {root file : Path} {entries : List (String × SourceTree)}
    (named : (SourceTree.directory entries).WellNamed) :
    file ∈ filesOf root (.directory entries) ↔
      (SourceTree.directory entries).SourceAt root file := by
  rw [mem_filesOf_iff]
  constructor
  · rintro ⟨names, hat, rfl, hsource⟩
    obtain ⟨init, name, rfl⟩ : ∃ init name, names = init ++ [name] := by
      cases hat with
      | inside hmem hat => exact ⟨_, _, (List.dropLast_concat_getLast (List.cons_ne_nil _ _)).symm⟩
    have hname := named _ hat name (by simp)
    rw [below_concat, Path.isSource_child hname] at hsource
    exact ⟨init, name, hat, isSourceName_iff_isSourceName.mp hsource, rfl⟩
  · rintro ⟨init, name, hat, hsource, rfl⟩
    have hname := named _ hat name (by simp)
    refine ⟨init ++ [name], hat, rfl, ?_⟩
    rw [below_concat, Path.isSource_child hname]
    exact isSourceName_iff_isSourceName.mpr hsource

theorem mem_files_collect_iff {root file : Path} {tree : SourceTree} :
    file ∈ (collect root (.ok tree)).files ↔ file ∈ filesOf root tree :=
  List.mem_mergeSort

/-! ### Keys of the files -/

/-- A scan has the keys of each file that was read. -/
theorem mem_keys_scanOf_iff {collected : Collected} {outcomes : List Outcome} {key : String} :
    key ∈ (scanOf collected outcomes).keys ↔
      ∃ file text, (file, .ok text) ∈ outcomes ∧ key ∈ referencedKeys text := by
  rw [scanOf, KeySet.mem_foldl_union]
  simp only [KeySet.not_mem_empty, false_or]
  constructor
  · rintro ⟨⟨file, result⟩, hmem, hkey⟩
    cases result with
    | ok text => exact ⟨file, text, hmem, hkey⟩
    | error reason => exact absurd hkey KeySet.not_mem_empty
  · rintro ⟨file, text, hmem, hkey⟩
    exact ⟨_, hmem, hkey⟩

end Walk

/-! ### Trees without warnings -/

/-- Every directory can be listed. -/
inductive SourceTree.Enumerable : SourceTree → Prop where
  | file : Enumerable .file
  | other : Enumerable .other
  | directory {entries : List (String × SourceTree)} :
      (∀ name tree, (name, tree) ∈ entries → Enumerable tree) → Enumerable (.directory entries)

namespace Walk

theorem warningsOfEntries_eq_nil {path : Path} {entries : List (String × SourceTree)}
    (h : ∀ name tree, (name, tree) ∈ entries → ∀ path, warningsOf path tree = []) :
    warningsOfEntries path entries = [] := by
  induction entries with
  | nil => rfl
  | cons entry entries ih =>
      obtain ⟨name, tree⟩ := entry
      rw [warningsOfEntries, h name tree List.mem_cons_self,
        ih fun name tree hmem => h name tree (List.mem_cons_of_mem _ hmem)]
      rfl

theorem warningsOf_of_enumerable {tree : SourceTree} (h : tree.Enumerable) :
    ∀ path, warningsOf path tree = [] := by
  induction h with
  | file =>
      intro path
      rfl
  | other =>
      intro path
      rfl
  | directory _ ih =>
      intro path
      exact warningsOfEntries_eq_nil ih

end Walk

/-! ### Texts of files -/

theorem Text.Utf8.decode?_eq_some_iff {bytes : ByteArray} {text : String} :
    Text.Utf8.decode? bytes = some text ↔ bytes = text.toUTF8 := by
  unfold Text.Utf8.decode? String.fromUTF8?
  constructor
  · intro h
    split at h
    · cases h
      rfl
    · cases h
  · rintro rfl
    exact dif_pos text.isValidUTF8

namespace Host

variable {host : Host Id} {root : Path}

/-- The file is there and holds this text as UTF-8. -/
def Holds (host : Host Id) (file : Path) (text : String) : Prop :=
  (host.read file).run = .ok text.toUTF8

/-- A file holds one text. -/
theorem Holds.unique {file : Path} {text text' : String} (h : host.Holds file text)
    (h' : host.Holds file text') : text = text' := by
  unfold Holds at h h'
  rw [h] at h'
  exact String.toByteArray_inj.mp (Except.ok.inj h')

theorem readText_eq_ok_iff {file : Path} {text : String} :
    (host.readText file).run = .ok text ↔ host.Holds file text := by
  unfold readText Holds
  simp only [Id.run_bind]
  cases (host.read file).run with
  | error reason => simp
  | ok bytes =>
      simp only [Except.ok.injEq, ← Text.Utf8.decode?_eq_some_iff]
      cases Text.Utf8.decode? bytes <;> simp

theorem run_readAll {files : List Path} :
    (host.readAll files).run = files.map fun file => (file, (host.readText file).run) := by
  induction files with
  | nil => rfl
  | cons file files ih =>
      rw [List.map_cons, ← ih]
      rfl

theorem run_scanByWalk {tree : SourceTree} (survey : (host.survey root).run = .ok tree) :
    (host.scanByWalk root).run =
      Walk.scanOf (Walk.collect root (.ok tree))
        ((Walk.collect root (.ok tree)).files.map fun file =>
          (file, (host.readText file).run)) := by
  rw [← survey, ← run_readAll]
  rfl

/-- **A walk finds the keys that some readable source file references.** -/
theorem mem_keys_scanByWalk_iff {entries : List (String × SourceTree)} {key : String}
    (survey : (host.survey root).run = .ok (.directory entries))
    (named : (SourceTree.directory entries).WellNamed) :
    key ∈ (host.scanByWalk root).run.keys ↔
      ∃ file text, (SourceTree.directory entries).SourceAt root file ∧ host.Holds file text ∧
        Reference.References text.toList key.toList := by
  rw [run_scanByWalk survey, Walk.mem_keys_scanOf_iff]
  constructor
  · rintro ⟨file, text, hmem, hkey⟩
    obtain ⟨file', hfile, he⟩ := List.mem_map.mp hmem
    obtain ⟨rfl, hread⟩ := Prod.mk.inj he
    exact ⟨file', text,
      (Walk.mem_filesOf_directory_iff named).mp (Walk.mem_files_collect_iff.mp hfile),
      readText_eq_ok_iff.mp hread, mem_referencedKeys_iff.mp hkey⟩
  · rintro ⟨file, text, hat, hholds, hkey⟩
    have hfile := Walk.mem_files_collect_iff.mpr ((Walk.mem_filesOf_directory_iff named).mpr hat)
    refine ⟨file, text, List.mem_map.mpr ⟨file, hfile, ?_⟩, mem_referencedKeys_iff.mpr hkey⟩
    rw [readText_eq_ok_iff.mpr hholds]

end Host

end KeyAudit
