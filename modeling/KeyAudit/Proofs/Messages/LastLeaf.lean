/-
Flattening, said by a list of leaves: each leaf of a document in its order, with the names
that lead to it (`Json.placedLeaves`) joined to a path (`Json.pathBelow`). Every path of the
list is a key, and under it stays the leaf that comes last, whatever names have made the
paths equal.

The messages may as well be made on the way through the document, each leaf put into what
was gathered before it (`Messages.addValue`): going through a value is putting in its leaves
one by one (`addValue_eq_foldl`), and of those with one path the last one stays
(`get?_foldl_insert`).

* `flatten_keeps_last_leaves` — **which keys there are, and which leaf each one has.**
-/

import KeyAudit.Proofs.Messages.Lossless

namespace KeyAudit

/-! ### Leaves in their order -/

namespace Json

mutual

/-- The leaves of a value in the order of the document, each with the names that lead to it. -/
def placedLeaves : Json → List (List String × Json)
  | .obj members => placedMemberLeaves members
  | .null => [([], .null)]
  | .bool b => [([], .bool b)]
  | .num n => [([], .num n)]
  | .str s => [([], .str s)]
  | .arr items => [([], .arr items)]

def placedMemberLeaves : List (String × Json) → List (List String × Json)
  | [] => []
  | (name, value) :: members =>
    (value.placedLeaves.map fun (names, leaf) => (name :: names, leaf)) ++
      placedMemberLeaves members

end

/-- The leaves of a value that stands under a path, in the order of the document, each with
its own path. -/
def leafList (value : Json) (separator path : String) : List (String × Json) :=
  value.placedLeaves.map fun (names, leaf) => (pathBelow separator path names, leaf)

mutual

/-- The paths are the same whether they grow on the way down or are joined at the leaves. -/
theorem leaves_eq_leafList (separator : String) : ∀ (value : Json) (path : String),
    value.leaves separator path = value.leafList separator path
  | .obj members, path => memberLeaves_eq separator members path
  | .null, _ => rfl
  | .bool _, _ => rfl
  | .num _, _ => rfl
  | .str _, _ => rfl
  | .arr _, _ => rfl

theorem memberLeaves_eq (separator : String) :
    ∀ (members : List (String × Json)) (path : String),
    memberLeaves separator members path = (placedMemberLeaves members).map
      fun (names, leaf) => (pathBelow separator path names, leaf)
  | [], _ => rfl
  | (name, value) :: members, path => by
      rw [memberLeaves, leaves_eq_leafList separator value, memberLeaves_eq separator members,
        placedMemberLeaves, List.map_append, List.map_map, leafList, joined_eq]
      rfl

end

/-! ### Objects without a leaf -/

theorem leaves_eq_nil_iff {separator path : String} {value : Json} :
    value.leaves separator path = [] ↔ value.leafCount = 0 := by
  rw [← length_leaves separator value path, List.length_eq_zero_iff]

mutual

/-- Taking out objects without a leaf takes out no leaf, and leaves every path as it is. -/
theorem leaves_pruned (separator : String) : ∀ (value : Json) (path : String),
    value.pruned.leaves separator path = value.leaves separator path
  | .obj members, path => memberLeaves_pruned separator members path
  | .null, _ => rfl
  | .bool _, _ => rfl
  | .num _, _ => rfl
  | .str _, _ => rfl
  | .arr _, _ => rfl

theorem memberLeaves_pruned (separator : String) :
    ∀ (members : List (String × Json)) (path : String),
    memberLeaves separator (prunedMembers members) path = memberLeaves separator members path
  | [], _ => rfl
  | (name, value) :: members, path => by
      have ih := memberLeaves_pruned separator members path
      rw [prunedMembers]
      split
      · rename_i hcount
        rw [ih, memberLeaves, leaves_eq_nil_iff.mpr hcount, List.nil_append]
      · rw [memberLeaves, memberLeaves, leaves_pruned separator value, ih]

end

end Json

namespace Messages

/-! ### One leaf after the other -/

theorem mem_entries_iff {m : Messages} {path : String} {leaf : Json} :
    (path, leaf) ∈ m.entries ↔ m.get? path = some leaf := by
  have hkeys := Ascending.nodup_of_pairwise m.ascending
  rw [get?, Option.map_eq_some_iff]
  constructor
  · intro hmem
    exact ⟨_, (Ascending.find?_eq_some_iff hkeys).mpr ⟨hmem, rfl⟩, rfl⟩
  · rintro ⟨entry, hfind, rfl⟩
    obtain ⟨hmem, rfl⟩ := (Ascending.find?_eq_some_iff hkeys).mp hfind
    exact hmem

/-- **Messages are determined by what stands under each path.** -/
theorem ext_get? {m n : Messages} (h : ∀ path, m.get? path = n.get? path) : m = n := by
  apply ext_entry
  rintro ⟨path, leaf⟩
  rw [mem_entries_iff, mem_entries_iff, h]

/-- The messages with one more leaf. A leaf that stands under its path is replaced. -/
def insert (m : Messages) (path : String) (leaf : Json) : Messages :=
  m.override (ofLeaves [(path, leaf)])

theorem get?_insert {m : Messages} {path key : String} {leaf : Json} :
    (m.insert path leaf).get? key = if path = key then some leaf else m.get? key := by
  rw [insert, get?_override, get?_ofLeaves]
  by_cases h : path = key
  · simp [h]
  · simp [h]

mutual

/-- Goes through a value that stands under a path and puts each leaf into the messages as it
comes to it. -/
def addValue (separator : String) : Json → String → Messages → Messages
  | .obj members, path, m => addMembers separator members path m
  | .null, path, m => m.insert path .null
  | .bool b, path, m => m.insert path (.bool b)
  | .num n, path, m => m.insert path (.num n)
  | .str s, path, m => m.insert path (.str s)
  | .arr items, path, m => m.insert path (.arr items)

/-- Goes through members in their order. -/
def addMembers (separator : String) : List (String × Json) → String → Messages → Messages
  | [], _, m => m
  | (name, value) :: members, path, m =>
    addMembers separator members path (addValue separator value (joined separator path name) m)

end

mutual

/-- Going through a value is putting in its leaves one by one. -/
theorem addValue_eq_foldl (separator : String) : ∀ (value : Json) (path : String) (m : Messages),
    addValue separator value path m =
      (value.leaves separator path).foldl (fun m leaf => m.insert leaf.1 leaf.2) m
  | .obj members, path, m => addMembers_eq_foldl separator members path m
  | .null, _, _ => rfl
  | .bool _, _, _ => rfl
  | .num _, _, _ => rfl
  | .str _, _, _ => rfl
  | .arr _, _, _ => rfl

theorem addMembers_eq_foldl (separator : String) :
    ∀ (members : List (String × Json)) (path : String) (m : Messages),
    addMembers separator members path m =
      (Json.memberLeaves separator members path).foldl (fun m leaf => m.insert leaf.1 leaf.2) m
  | [], _, _ => rfl
  | (name, value) :: members, path, m => by
      rw [addMembers, addValue_eq_foldl separator value, addMembers_eq_foldl separator members,
        Json.memberLeaves, List.foldl_append]

end

/-- **Of leaves that are put in one by one, the last one with a path stays.** What was there
before shows only under paths that none of them has. -/
theorem get?_foldl_insert {leaves : List (String × Json)} {m : Messages} {path : String} :
    (leaves.foldl (fun m leaf => m.insert leaf.1 leaf.2) m).get? path =
      ((leaves.reverse.find? fun leaf => leaf.1 == path).map Prod.snd).or (m.get? path) := by
  induction leaves generalizing m with
  | nil => rfl
  | cons leaf leaves ih =>
      rw [List.foldl_cons, ih, get?_insert, List.reverse_cons, List.find?_append]
      cases leaves.reverse.find? fun leaf => leaf.1 == path with
      | some later => rfl
      | none =>
          by_cases h : leaf.1 = path
          · simp [h]
          · simp [h]

theorem get?_empty {path : String} : empty.get? path = none := rfl

/-- **Flattening is going through the value with nothing gathered before.** -/
theorem flatten_eq_addValue (value : Json) (path separator : String) :
    flatten value path separator = addValue separator value path empty := by
  apply ext_get?
  intro key
  rw [flatten, get?_ofLeaves, addValue_eq_foldl, get?_foldl_insert, get?_empty, Option.or_none]

/-! ### The last leaf of a path -/

/-- What stands under a path is the last of the leaves that have it. -/
theorem get?_ofLeaves_eq_some_iff {leaves : List (String × Json)} {path : String} {leaf : Json} :
    (ofLeaves leaves).get? path = some leaf ↔
      ∃ earlier later, leaves = earlier ++ (path, leaf) :: later ∧
        ∀ entry ∈ later, entry.1 ≠ path := by
  rw [get?_ofLeaves, Option.map_eq_some_iff]
  constructor
  · rintro ⟨⟨_, _⟩, hfind, rfl⟩
    obtain ⟨hpath, later, earlier, hleaves, hlater⟩ := List.find?_eq_some_iff_append.mp hfind
    cases eq_of_beq hpath
    refine ⟨earlier.reverse, later.reverse, ?_, ?_⟩
    · rw [← List.reverse_reverse leaves, hleaves]
      simp
    · intro entry hentry
      simpa using hlater entry (List.mem_reverse.mp hentry)
  · rintro ⟨earlier, later, rfl, hlater⟩
    refine ⟨(path, leaf), List.find?_eq_some_iff_append.mpr ⟨beq_self_eq_true path,
      later.reverse, earlier.reverse, by simp, ?_⟩, rfl⟩
    intro entry hentry
    simpa using hlater entry (List.mem_reverse.mp hentry)

/-- **Flattening keeps of each path the last leaf.** The keys are the paths in the list of
leaves, and under each of them is the leaf of the last pair that has it. So it is when the
leaves are put in one by one on the way through the value, and objects without a leaf, at any
depth, add nothing. -/
theorem flatten_keeps_last_leaves (value : Json) (path separator : String) :
    (∀ key, key ∈ (flatten value path separator).keys ↔
      ∃ leaf, (key, leaf) ∈ value.leafList separator path) ∧
    (∀ key leaf, (flatten value path separator).get? key = some leaf ↔
      ∃ earlier later, value.leafList separator path = earlier ++ (key, leaf) :: later ∧
        ∀ entry ∈ later, entry.1 ≠ key) ∧
    addValue separator value path empty = flatten value path separator ∧
    flatten value.pruned path separator = flatten value path separator := by
  refine ⟨?_, ?_, ?_, ?_⟩
  · intro key
    rw [flatten, mem_keys_ofLeaves, Json.leaves_eq_leafList, List.mem_map]
    simp
  · intro key leaf
    rw [flatten, get?_ofLeaves_eq_some_iff, Json.leaves_eq_leafList]
  · exact (flatten_eq_addValue value path separator).symm
  · rw [flatten, Json.leaves_pruned, flatten]

end Messages

end KeyAudit
