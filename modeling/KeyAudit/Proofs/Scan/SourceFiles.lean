/-
How many files a walk reads.

Where the names in every directory differ, different names lead to different paths, and
so no file is collected twice (`Walk.nodup_filesOf`). Two trees with the same source
files then give the same number of files, whatever else they hold and in whatever order
their entries come (`Walk.length_filesOf_eq`).
-/

import KeyAudit.Proofs.Path.Components
import KeyAudit.Proofs.Scan.WalkedKeys

namespace KeyAudit

/-- The names in every directory differ. -/
inductive SourceTree.Distinct : SourceTree → Prop where
  | file : Distinct .file
  | other : Distinct .other
  | closed {reason : OsError} : Distinct (.closed reason)
  | directory {entries : List (String × SourceTree)} : (entries.map Prod.fst).Nodup →
      (∀ entry ∈ entries, Distinct entry.2) → Distinct (.directory entries)

theorem SourceTree.WellNamed.entry {entries : List (String × SourceTree)} {name : String}
    {tree : SourceTree} (h : (SourceTree.directory entries).WellNamed)
    (hmem : (name, tree) ∈ entries) : tree.WellNamed :=
  fun names hat n hn => h (name :: names) (.inside hmem hat) n (List.mem_cons_of_mem _ hn)

namespace Path

/-- The components of a path below another are those of the other and the names. -/
theorem components_below {p : Path} {names : List String} (h : ∀ n ∈ names, IsEntryName n) :
    (p.below names).components = p.components ++ names.map fun n => .name n.toList := by
  induction names generalizing p with
  | nil => exact (List.append_nil _).symm
  | cons name names ih =>
      have hname := h name List.mem_cons_self
      rw [below, List.foldl_cons]
      change ((p.child name).below names).components = _
      rw [ih fun n hn => h n (List.mem_cons_of_mem _ hn), components_child hname, List.map_cons,
        List.append_assoc, List.singleton_append]

/-- **Different names lead to different components.** -/
theorem names_eq_of_components {p : Path} {names names' : List String}
    (h : ∀ n ∈ names, IsEntryName n) (h' : ∀ n ∈ names', IsEntryName n)
    (he : (p.below names).components = (p.below names').components) : names = names' := by
  rw [components_below h, components_below h'] at he
  have hmap := List.append_cancel_left he
  have hinjective : ∀ n n' : String, Component.name n.toList = Component.name n'.toList → n = n' :=
    fun n n' hn => String.toList_inj.mp (Component.name.inj hn)
  exact (List.map_inj_right hinjective).mp hmap

theorem below_injective {p : Path} {names names' : List String}
    (h : ∀ n ∈ names, IsEntryName n) (h' : ∀ n ∈ names', IsEntryName n)
    (he : p.below names = p.below names') : names = names' :=
  names_eq_of_components h h' (congrArg components he)

end Path

namespace Walk

/-- A path that is collected in a directory lies below one of its entries. -/
theorem exists_names_of_mem_filesOfEntries {path file : Path}
    {entries : List (String × SourceTree)} (named : (SourceTree.directory entries).WellNamed)
    (h : file ∈ filesOfEntries path entries) :
    ∃ name names, name ∈ entries.map Prod.fst ∧ (∀ n ∈ name :: names, IsEntryName n) ∧
      file = path.below (name :: names) := by
  obtain ⟨name, tree, names, hmem, hat, hfile, -⟩ := (mem_filesOfEntries_iff path file entries).mp h
  exact ⟨name, names, List.mem_map.mpr ⟨_, hmem, rfl⟩, named _ (.inside hmem hat), hfile⟩

theorem nodup_filesOfEntries {path : Path} {entries : List (String × SourceTree)}
    (named : (SourceTree.directory entries).WellNamed) (distinct : (entries.map Prod.fst).Nodup)
    (h : ∀ name tree, (name, tree) ∈ entries → ∀ path, (filesOf path tree).Nodup) :
    (filesOfEntries path entries).Nodup := by
  induction entries with
  | nil => exact List.nodup_nil
  | cons entry entries ih =>
      obtain ⟨name, tree⟩ := entry
      rw [List.map_cons, List.nodup_cons] at distinct
      have hrest : (SourceTree.directory entries).WellNamed := by
        intro names hat
        cases hat with
        | inside hmem hat => exact named _ (.inside (List.mem_cons_of_mem _ hmem) hat)
      rw [filesOfEntries, List.nodup_append]
      refine ⟨h name tree List.mem_cons_self _, ih hrest distinct.2 ?_, ?_⟩
      · intro name' tree' hmem
        exact h name' tree' (List.mem_cons_of_mem _ hmem)
      · rintro file hfile file' hfile' rfl
        obtain ⟨names, hat, hbelow, -⟩ := (mem_filesOf_iff _ _ _).mp hfile
        obtain ⟨name', names', hmem, hnames', hbelow'⟩ :=
          exists_names_of_mem_filesOfEntries hrest hfile'
        have hnames : ∀ n ∈ name :: names, IsEntryName n :=
          named _ (.inside List.mem_cons_self hat)
        have hsame : name :: names = name' :: names' :=
          Path.below_injective hnames hnames' (hbelow.symm.trans hbelow')
        cases hsame
        exact distinct.1 hmem

/-- **No file is collected twice.** -/
theorem nodup_filesOf {tree : SourceTree} (distinct : tree.Distinct) (named : tree.WellNamed) :
    ∀ path, (filesOf path tree).Nodup := by
  induction distinct with
  | file =>
      intro path
      rw [filesOf]
      split
      · exact List.pairwise_singleton _ path
      · exact List.nodup_nil
  | other =>
      intro path
      exact List.nodup_nil
  | closed =>
      intro path
      exact List.nodup_nil
  | directory hnames _ ih =>
      intro path
      rw [filesOf]
      exact nodup_filesOfEntries named hnames fun name tree hmem =>
        ih (name, tree) hmem (named.entry hmem)

/-- **Trees with the same source files give the same number of files.** -/
theorem length_filesOf_eq {root : Path} {entries entries' : List (String × SourceTree)}
    (distinct : (SourceTree.directory entries).Distinct)
    (distinct' : (SourceTree.directory entries').Distinct)
    (named : (SourceTree.directory entries).WellNamed)
    (named' : (SourceTree.directory entries').WellNamed)
    (same : ∀ file, (SourceTree.directory entries').SourceAt root file ↔
      (SourceTree.directory entries).SourceAt root file) :
    (filesOf root (.directory entries')).length = (filesOf root (.directory entries)).length := by
  apply List.Perm.length_eq
  rw [List.perm_ext_iff_of_nodup (nodup_filesOf distinct' named' root)
    (nodup_filesOf distinct named root)]
  intro file
  rw [mem_filesOf_directory_iff named', mem_filesOf_directory_iff named]
  exact same file

end Walk

end KeyAudit
