/-
Which files a walk collects, and in which order.

The tree below a root is one of directories, files, links and devices (`FileTree`), and a
survey sees it without following links, with the entries of every directory in some order
(`FileTree.SeenAs`). Whatever the order, the regular files lie at the same names
(`SeenAs.fileAt_iff`), every directory has been listed, and different files have different
components. So the collected files are in the one strictly ascending order of paths
(`Walk.collect_of_seenAs`), and nothing is warned of.

* `collects_source_files_in_order` — **the source files of a tree, each once and in order,
  however its directories were listed.**
-/

import Mathlib.Data.List.Nodup
import KeyAudit.Proofs.Path.Order
import KeyAudit.Proofs.Scan.SourceFiles
import KeyAudit.Sandbox.World

namespace KeyAudit

/-! ### Trees with links -/

namespace Sandbox.FileTree

/-- A file that is neither a directory nor a link nor special. -/
def isRegular : FileTree → Bool
  | .file _ _ => true
  | .tool _ => true
  | _ => false

/-- A regular file lies at these names, which lead to it through directories alone. No name
leads through a link. -/
inductive RegularAt : FileTree → List String → Prop where
  | here {tree : FileTree} : tree.isRegular = true → RegularAt tree []
  | inside {entries : List (String × FileTree)} {name : String} {tree : FileTree}
      {names : List String} : (name, tree) ∈ entries → RegularAt tree names →
      RegularAt (.directory entries) (name :: names)

/-- In every directory the names differ and are those of entries. -/
inductive Named : FileTree → Prop where
  | leaf {tree : FileTree} : tree.isDirectory = false → Named tree
  | directory {entries : List (String × FileTree)} : (entries.map Prod.fst).Nodup →
      (∀ entry ∈ entries, IsEntryName entry.1) → (∀ entry ∈ entries, Named entry.2) →
      Named (.directory entries)

/-- What a survey may give where it can list every directory and follows no link: the entries
of each directory in some order. -/
inductive SeenAs : FileTree → SourceTree → Prop where
  | file {tree : FileTree} : tree.isRegular = true → SeenAs tree .file
  | other {tree : FileTree} : tree.isRegular = false → tree.isDirectory = false →
      SeenAs tree .other
  | directory {entries : List (String × FileTree)} {seen : String × FileTree → SourceTree}
      {listed : List (String × SourceTree)} : (∀ entry ∈ entries, SeenAs entry.2 (seen entry)) →
      listed.Perm (entries.map fun entry => (entry.1, seen entry)) →
      SeenAs (.directory entries) (.directory listed)

theorem named_directory_iff {entries : List (String × FileTree)} :
    (FileTree.directory entries).Named ↔ (entries.map Prod.fst).Nodup ∧
      (∀ entry ∈ entries, IsEntryName entry.1) ∧ ∀ entry ∈ entries, entry.2.Named := by
  constructor
  · intro h
    cases h with
    | leaf hleaf => cases hleaf
    | directory hdistinct hnames htrees => exact ⟨hdistinct, hnames, htrees⟩
  · rintro ⟨hdistinct, hnames, htrees⟩
    exact .directory hdistinct hnames htrees

/-- The names on the way to a file are those of entries. -/
theorem RegularAt.isEntryName {tree : FileTree} {names : List String} (h : tree.RegularAt names)
    (named : tree.Named) : ∀ name ∈ names, IsEntryName name := by
  induction h with
  | here => exact fun _ hname => nomatch hname
  | inside hmem _ ih =>
      obtain ⟨-, hnames, htrees⟩ := named_directory_iff.mp named
      exact List.forall_mem_cons.mpr ⟨hnames _ hmem, ih (htrees _ hmem)⟩

/-! ### What a survey sees -/

/-- A directory is seen as one. -/
theorem SeenAs.exists_listed {entries : List (String × FileTree)} {seen : SourceTree}
    (h : (FileTree.directory entries).SeenAs seen) : ∃ listed, seen = .directory listed := by
  cases h with
  | file hregular => cases hregular
  | other _ hdirectory => cases hdirectory
  | directory => exact ⟨_, rfl⟩

/-- **A survey sees the regular files where they lie, and no others.** -/
theorem SeenAs.fileAt_iff {tree : FileTree} {seen : SourceTree} (h : tree.SeenAs seen) :
    ∀ {names : List String}, seen.FileAt names ↔ tree.RegularAt names := by
  induction h with
  | file hregular =>
      intro names
      constructor
      · rintro ⟨⟩
        exact .here hregular
      · rintro (_ | _)
        · exact .here
        · cases hregular
  | other hregular hdirectory =>
      intro names
      constructor
      · rintro ⟨⟩
      · rintro (hregular' | _)
        · exact absurd (hregular.symm.trans hregular') Bool.false_ne_true
        · cases hdirectory
  | directory _ hperm ih =>
      intro names
      constructor
      · intro hat
        cases hat with
        | inside hmem hat =>
            obtain ⟨entry, hentry, he⟩ := List.mem_map.mp (hperm.mem_iff.mp hmem)
            cases he
            exact .inside hentry ((ih entry hentry).mp hat)
      · rintro (hregular | ⟨hmem, hat⟩)
        · cases hregular
        · exact .inside (hperm.mem_iff.mpr (List.mem_map.mpr ⟨_, hmem, rfl⟩))
            ((ih _ hmem).mpr hat)

theorem SeenAs.enumerable {tree : FileTree} {seen : SourceTree} (h : tree.SeenAs seen) :
    seen.Enumerable := by
  induction h with
  | file => exact .file
  | other => exact .other
  | directory _ hperm ih =>
      refine .directory fun name tree hmem => ?_
      obtain ⟨entry, hentry, he⟩ := List.mem_map.mp (hperm.mem_iff.mp hmem)
      cases he
      exact ih entry hentry

theorem SeenAs.distinct {tree : FileTree} {seen : SourceTree} (h : tree.SeenAs seen)
    (named : tree.Named) : seen.Distinct := by
  induction h with
  | file => exact .file
  | other => exact .other
  | directory _ hperm ih =>
      obtain ⟨hdistinct, -, htrees⟩ := named_directory_iff.mp named
      refine .directory ?_ fun entry hmem => ?_
      · rw [(hperm.map Prod.fst).nodup_iff, List.map_map]
        exact hdistinct
      · obtain ⟨entry', hentry, rfl⟩ := List.mem_map.mp (hperm.mem_iff.mp hmem)
        exact ih entry' hentry (htrees entry' hentry)

theorem SeenAs.wellNamed {tree : FileTree} {seen : SourceTree} (h : tree.SeenAs seen)
    (named : tree.Named) : seen.WellNamed :=
  fun _ hat => (h.fileAt_iff.mp hat).isEntryName named

/-! ### The survey of a file system in memory -/

theorem toSourceEntries_eq (length : Nat) (entries : List (String × FileTree)) :
    toSourceEntries length entries = entries.map fun entry =>
      (entry.1, entry.2.toSource (length + 1 + entry.1.utf8ByteSize)) := by
  induction entries with
  | nil => rfl
  | cons entry entries ih => rw [toSourceEntries, ih, List.map_cons]

mutual

/-- Where every directory could be listed, the tree was seen. -/
theorem seenAs_toSource : ∀ (tree : FileTree) (length : Nat),
    (tree.toSource length).Enumerable → tree.SeenAs (tree.toSource length)
  | .file _ _, _, _ => .file rfl
  | .tool _, _, _ => .file rfl
  | .link _, _, _ => .other rfl rfl
  | .device _, _, _ => .other rfl rfl
  | .pipe _, _, _ => .other rfl rfl
  | .directory entries, length, h => by
      rw [toSource] at h ⊢
      split at h
      · cases h
      · rename_i hlength
        rw [if_neg hlength, toSourceEntries_eq]
        cases h with
        | directory hentries =>
            exact .directory (seenAs_toSourceEntries entries length hentries) (.refl _)

theorem seenAs_toSourceEntries : ∀ (entries : List (String × FileTree)) (length : Nat),
    (∀ name tree, (name, tree) ∈ toSourceEntries length entries → tree.Enumerable) →
    ∀ entry ∈ entries,
      entry.2.SeenAs (entry.2.toSource (length + 1 + entry.1.utf8ByteSize))
  | [], _, _, _, hmem => nomatch hmem
  | (name, tree) :: entries, length, h, entry, hmem => by
      rw [toSourceEntries] at h
      rcases List.mem_cons.mp hmem with rfl | hmem
      · exact seenAs_toSource tree _ (h name _ List.mem_cons_self)
      · exact seenAs_toSourceEntries entries length
          (fun name tree hmem => h name tree (List.mem_cons_of_mem _ hmem)) entry hmem

end

/-- A directory is surveyed as what is seen of it. -/
theorem seenAs_of_survey {tree : FileTree} {cwd place : Place} {root : Path}
    {entries : List (String × FileTree)} {seen : SourceTree}
    (found : tree.find cwd .entry root = .ok (place, .directory entries))
    (surveyed : tree.survey cwd root = .ok seen) (enumerable : seen.Enumerable) :
    (FileTree.directory entries).SeenAs seen := by
  simp only [survey, found] at surveyed
  cases surveyed
  exact seenAs_toSource _ _ enumerable

end Sandbox.FileTree

/-! ### The collected files -/

namespace Walk

open Sandbox

/-- Files that are collected below a root have different components. -/
theorem nodup_components_filesOf {root : Path} {tree : SourceTree} (distinct : tree.Distinct)
    (named : tree.WellNamed) : ((filesOf root tree).map Path.components).Nodup := by
  refine List.Nodup.map_on ?_ (nodup_filesOf distinct named root)
  intro file hfile file' hfile' he
  obtain ⟨names, hat, rfl, -⟩ := (mem_filesOf_iff _ _ _).mp hfile
  obtain ⟨names', hat', rfl, -⟩ := (mem_filesOf_iff _ _ _).mp hfile'
  rw [Path.names_eq_of_components (named names hat) (named names' hat') he]

/-- **What is collected in a directory, whatever order its entries came in.** -/
theorem collect_of_seenAs (root : Path) {entries : List (String × FileTree)} {seen : SourceTree}
    (named : (FileTree.directory entries).Named)
    (sees : (FileTree.directory entries).SeenAs seen) :
    (collect root (.ok seen)).warnings = [] ∧
    (∀ file, file ∈ (collect root (.ok seen)).files ↔
      ∃ names name, (FileTree.directory entries).RegularAt (names ++ [name]) ∧
        IsSourceName name ∧ file = root.below (names ++ [name])) ∧
    (collect root (.ok seen)).files.Pairwise Path.Before := by
  obtain ⟨listed, rfl⟩ := sees.exists_listed
  refine ⟨warningsOf_of_enumerable sees.enumerable root, ?_, ?_⟩
  · intro file
    rw [mem_files_collect_iff, mem_filesOf_directory_iff (sees.wellNamed named),
      SourceTree.SourceAt]
    simp only [sees.fileAt_iff]
  · exact Path.pairwise_before_mergeSort
      (nodup_components_filesOf (sees.distinct named) (sees.wellNamed named))

theorem collect_eq_of_seenAs (root : Path) {entries : List (String × FileTree)}
    {seen seen' : SourceTree} (named : (FileTree.directory entries).Named)
    (sees : (FileTree.directory entries).SeenAs seen)
    (sees' : (FileTree.directory entries).SeenAs seen') :
    collect root (.ok seen') = ⟨(collect root (.ok seen)).files, []⟩ := by
  obtain ⟨-, hmem, hordered⟩ := collect_of_seenAs root named sees
  obtain ⟨hwarnings', hmem', hordered'⟩ := collect_of_seenAs root named sees'
  have hfiles : (collect root (.ok seen')).files = (collect root (.ok seen)).files :=
    Path.eq_of_pairwise_before hordered' hordered fun file => (hmem' file).trans (hmem file).symm
  rw [← hfiles, ← hwarnings']

end Walk

namespace Host

open Sandbox

/-- **The source files of a tree are collected in order.** Below a directory these are the
regular files that are reached through directories alone and named as sources, whatever the
names of the directories; each is there once, the paths ascend strictly component by component,
and nothing is warned of. Any other survey of the tree, with the entries of its directories in
other orders, gives the same list, and so does that of a file system in memory, whatever
its programs do. -/
theorem collects_source_files_in_order {host : Host Id} {root : Path}
    {entries : List (String × FileTree)} {seen : SourceTree}
    (named : (FileTree.directory entries).Named)
    (sees : (FileTree.directory entries).SeenAs seen)
    (survey : (host.survey root).run = .ok seen) :
    ∃ files : List Path, (host.collectSources root).run = ⟨files, []⟩ ∧
      (∀ file, file ∈ files ↔
        ∃ names name, (FileTree.directory entries).RegularAt (names ++ [name]) ∧
          IsSourceName name ∧ file = root.below (names ++ [name])) ∧
      files.Nodup ∧ files.Pairwise Path.Before ∧
      (∀ (host' : Host Id) seen', (FileTree.directory entries).SeenAs seen' →
        (host'.survey root).run = .ok seen' → (host'.collectSources root).run = ⟨files, []⟩) ∧
      ∀ run (s : Sandbox) place seen',
        s.files.find s.directory .entry root = .ok (place, .directory entries) →
        s.files.survey s.directory root = .ok seen' → seen'.Enumerable →
        ((Sandbox.hostRunning run).collectSources root).run s = (⟨files, []⟩, s) := by
  obtain ⟨-, hmem, hordered⟩ := Walk.collect_of_seenAs root named sees
  have hcollect {seen' : SourceTree} (sees' : (FileTree.directory entries).SeenAs seen') :=
    Walk.collect_eq_of_seenAs root named sees sees'
  have hrun (host' : Host Id) :
      (host'.collectSources root).run = Walk.collect root (host'.survey root).run := rfl
  refine ⟨_, ?_, hmem, ?_, hordered, ?_, ?_⟩
  · rw [hrun, survey, hcollect sees]
  · exact hordered.imp Path.Before.ne
  · intro host' seen' sees' survey'
    rw [hrun, survey', hcollect sees']
  · intro run s place seen' found surveyed enumerable
    have hsandbox : ((Sandbox.hostRunning run).collectSources root).run s =
        (Walk.collect root (s.files.survey s.directory root), s) := rfl
    rw [hsandbox, surveyed, hcollect (FileTree.seenAs_of_survey found surveyed enumerable)]

end Host

/-! ### A tree with links -/

namespace Collected

open Sandbox

/-- Sources in directories that are named as sources are, and links to them. In the text of
the paths, but not by components, `a-b.ts` comes before what is in `a`. -/
def sampleEntries : List (String × FileTree) :=
  [("z.ts", .link "a-b.ts"), ("a-b.ts", .file (.ofBytes []) false),
    ("types.d.ts", .directory [("b.tsx", .file (.ofBytes []) true), ("b.d.ts", .tool .echo)]),
    ("a", .directory [("c.js", .file (.ofBytes []) false)]), ("lib", .link "types.d.ts")]

/-- The entries as they are seen. -/
def sampleListed : List (String × SourceTree) :=
  sampleEntries.map fun entry => (entry.1, entry.2.toSource 0)

/-- The tree in memory, below the current directory. -/
def sampleSandbox : Sandbox where
  files := .directory [("work", .directory [("src", .directory sampleEntries)])]
  directory := ["work"]
  environment := []
  clock := ""

/-- A host that lists the entries of the tree from the last to the first. -/
def sampleSnapshot : Host Id where
  present _ := true
  isDirectory _ := true
  read _ := .error .notFound
  survey _ := .ok (.directory sampleListed.reverse)
  write _ _ := .error .permissionDenied
  run _ _ := .error .notFound
  workingDirectory := .ok ⟨"/"⟩
  now := ""

/-- The sources of the tree, in order. -/
def sampleSources : List Path := [⟨"src/a/c.js"⟩, ⟨"src/a-b.ts"⟩, ⟨"src/types.d.ts/b.tsx"⟩]

theorem named_sampleEntries : (FileTree.directory sampleEntries).Named := by
  refine .directory (by decide) (by decide) ?_
  simp only [sampleEntries, List.forall_mem_cons]
  refine ⟨.leaf rfl, .leaf rfl, .directory (by decide) (by decide) ?_,
    .directory (by decide) (by decide) ?_, .leaf rfl, by simp⟩
  · simp only [List.forall_mem_cons]
    exact ⟨.leaf rfl, .leaf rfl, by simp⟩
  · simp only [List.forall_mem_cons]
    exact ⟨.leaf rfl, by simp⟩

/-- Directories of files can be listed. -/
theorem enumerable_of_files {entries : List (String × SourceTree)}
    (h : entries.all fun entry => entry.2 matches .file) :
    (SourceTree.directory entries).Enumerable := by
  refine .directory fun name tree hmem => ?_
  have hfile := List.all_eq_true.mp h _ hmem
  cases tree with
  | file => exact .file
  | _ => cases hfile

/-- The entries are seen in every order. -/
theorem seenAs_of_perm {listed : List (String × SourceTree)} (h : listed.Perm sampleListed) :
    (FileTree.directory sampleEntries).SeenAs (.directory listed) := by
  refine .directory ?_ h
  simp only [sampleEntries, List.forall_mem_cons]
  exact ⟨.other rfl rfl, .file rfl, FileTree.seenAs_toSource _ 0 (enumerable_of_files rfl),
    FileTree.seenAs_toSource _ 0 (enumerable_of_files rfl), .other rfl rfl, by simp⟩

theorem filesOf_sampleListed :
    (Walk.filesOf ⟨"src"⟩ (.directory sampleListed.reverse)).Perm sampleSources := by
  decide

theorem pairwise_sampleSources : sampleSources.Pairwise Path.Before := by decide

theorem find_sampleSandbox :
    sampleSandbox.files.find sampleSandbox.directory .entry ⟨"src"⟩ =
      .ok (["work", "src"], .directory sampleEntries) := by
  have hend : sampleSandbox.files.walk .entry FileTree.maxLinks ["work", "src"] [] =
      .ok (.present ["work", "src"]) := by
    rw [FileTree.walk]
  have hsite : sampleSandbox.files.site sampleSandbox.directory .entry ⟨"src"⟩ =
      .ok (.present ["work", "src"]) := by
    change sampleSandbox.files.walk .entry FileTree.maxLinks ["work"] ["src"] = _
    rw [FileTree.walk]
    exact hend
  rw [FileTree.find, hsite]
  rfl

theorem survey_sampleSandbox :
    sampleSandbox.files.survey sampleSandbox.directory ⟨"src"⟩ =
      .ok (.directory sampleListed) := by
  rw [FileTree.survey, find_sampleSandbox]
  rfl

/-- The host in memory, without programs. -/
def sampleHost : Host (StateM Sandbox) := Sandbox.hostRunning fun _ _ => return .error .notFound

/-- Listed from the last entry to the first, or in memory from the first, the tree has its
sources in order: no link, nothing that is only reached through one, and no declaration. -/
theorem collected_in_sampleTree :
    (FileTree.directory sampleEntries).Named ∧
      (FileTree.directory sampleEntries).SeenAs (.directory sampleListed.reverse) ∧
      (sampleSnapshot.survey ⟨"src"⟩).run = .ok (.directory sampleListed.reverse) ∧
      (sampleSnapshot.collectSources ⟨"src"⟩).run = ⟨sampleSources, []⟩ ∧
      (sampleHost.collectSources ⟨"src"⟩).run sampleSandbox =
        (⟨sampleSources, []⟩, sampleSandbox) := by
  have hsees := seenAs_of_perm (List.reverse_perm sampleListed)
  obtain ⟨files, hrun, -, -, hordered, -, hsandbox⟩ :=
    @Host.collects_source_files_in_order sampleSnapshot ⟨"src"⟩ sampleEntries
      (.directory sampleListed.reverse) named_sampleEntries hsees rfl
  have hfiles : files = sampleSources := by
    refine Path.eq_of_pairwise_before hordered pairwise_sampleSources fun file => ?_
    have hcollected : file ∈ files ↔
        file ∈ (sampleSnapshot.collectSources ⟨"src"⟩).run.files := by rw [hrun]
    exact hcollected.trans (Walk.mem_files_collect_iff.trans filesOf_sampleListed.mem_iff)
  subst hfiles
  exact ⟨named_sampleEntries, hsees, rfl, hrun,
    hsandbox _ _ _ _ find_sampleSandbox survey_sampleSandbox (seenAs_of_perm (.refl _)).enumerable⟩

end Collected

end KeyAudit
