/-
The leaves of a document and their paths, said without flattening it: a leaf lies at the
names that lead to it through objects (`Json.LeafAt`), and its path joins these names
(`Json.pathBelow`).

Flattening lists every leaf under its path and nothing else (`mem_leaves_iff`), so the
keys of a document are the paths of its leaves (`mem_keys_flatten_iff`).
-/

import KeyAudit.Messages

namespace KeyAudit

namespace Json

/-! ### Leaves and their paths -/

/-- Something that is no object lies at these names, which lead to it through objects. -/
inductive LeafAt : Json → List String → Json → Prop where
  | leaf {value : Json} : value.isObject = false → LeafAt value [] value
  | member {members : List (String × Json)} {name : String} {value leaf : Json}
      {names : List String} : (name, value) ∈ members → LeafAt value names leaf →
      LeafAt (.obj members) (name :: names) leaf

/-- Names joined behind a path; behind nothing the first one has no separator. -/
def pathBelow (separator path : String) : List String → String
  | [] => path
  | name :: names =>
    pathBelow separator (if path = "" then name else path ++ separator ++ name) names

/-- What is no object is its own only leaf. -/
theorem leafAt_iff_of_not_object {value leaf : Json} {names : List String}
    (hobj : value.isObject = false) : value.LeafAt names leaf ↔ names = [] ∧ leaf = value := by
  constructor
  · intro h
    cases h with
    | leaf => exact ⟨rfl, rfl⟩
    | member => cases hobj
  · rintro ⟨rfl, rfl⟩
    exact .leaf hobj

theorem leafAt_obj_iff {members : List (String × Json)} {leaf : Json} {names : List String} :
    (Json.obj members).LeafAt names leaf ↔
      ∃ name value rest, names = name :: rest ∧ (name, value) ∈ members ∧
        value.LeafAt rest leaf := by
  constructor
  · intro h
    cases h with
    | leaf hobj => cases hobj
    | member hmem hleaf => exact ⟨_, _, _, rfl, hmem, hleaf⟩
  · rintro ⟨name, value, rest, rfl, hmem, hleaf⟩
    exact .member hmem hleaf

/-! ### Leaves of a flattened value -/

theorem joined_eq {separator path name : String} :
    Messages.joined separator path name = if path = "" then name else path ++ separator ++ name := by
  simp [Messages.joined, String.isEmpty_iff]

theorem leaves_of_not_object {separator path : String} {value : Json}
    (hobj : value.isObject = false) : value.leaves separator path = [(path, value)] := by
  cases value with
  | obj members => cases hobj
  | _ => rfl

theorem mem_leaf_iff {separator path : String} {entry : String × Json} {value : Json}
    (hobj : value.isObject = false) : entry ∈ value.leaves separator path ↔
      ∃ names, value.LeafAt names entry.2 ∧ entry.1 = pathBelow separator path names := by
  rw [leaves_of_not_object hobj, List.mem_singleton]
  simp only [leafAt_iff_of_not_object hobj]
  constructor
  · rintro rfl
    exact ⟨[], ⟨rfl, rfl⟩, rfl⟩
  · rintro ⟨names, ⟨rfl, hleaf⟩, hpath⟩
    exact Prod.ext hpath hleaf

mutual

/-- **Flattening lists each leaf under its path.** -/
theorem mem_leaves_iff (separator : String) (path : String) (entry : String × Json) :
    ∀ value : Json, entry ∈ value.leaves separator path ↔
      ∃ names, value.LeafAt names entry.2 ∧ entry.1 = pathBelow separator path names
  | .obj members => by
      rw [leaves, mem_memberLeaves_iff separator path entry members]
      constructor
      · rintro ⟨name, value, names, hmem, hleaf, hpath⟩
        exact ⟨name :: names, .member hmem hleaf, hpath⟩
      · rintro ⟨names, hleaf, hpath⟩
        obtain ⟨name, value, rest, rfl, hmem, hleaf⟩ := leafAt_obj_iff.mp hleaf
        exact ⟨name, value, rest, hmem, hleaf, hpath⟩
  | .null => mem_leaf_iff rfl
  | .bool _ => mem_leaf_iff rfl
  | .num _ => mem_leaf_iff rfl
  | .str _ => mem_leaf_iff rfl
  | .arr _ => mem_leaf_iff rfl

theorem mem_memberLeaves_iff (separator : String) (path : String) (entry : String × Json) :
    ∀ members : List (String × Json), entry ∈ memberLeaves separator members path ↔
      ∃ name value names, (name, value) ∈ members ∧ value.LeafAt names entry.2 ∧
        entry.1 = pathBelow separator path (name :: names)
  | [] => by simp [memberLeaves]
  | (name, value) :: members => by
      rw [memberLeaves, List.mem_append,
        mem_leaves_iff separator (Messages.joined separator path name) entry value,
        mem_memberLeaves_iff separator path entry members, joined_eq]
      constructor
      · rintro (⟨names, hleaf, hpath⟩ | ⟨name', value', names, hmem, hleaf, hpath⟩)
        · exact ⟨name, value, names, List.mem_cons_self, hleaf, hpath⟩
        · exact ⟨name', value', names, List.mem_cons_of_mem _ hmem, hleaf, hpath⟩
      · rintro ⟨name', value', names, hmem, hleaf, hpath⟩
        rcases List.mem_cons.mp hmem with he | hmem
        · cases he
          exact .inl ⟨names, hleaf, hpath⟩
        · exact .inr ⟨name', value', names, hmem, hleaf, hpath⟩

end

end Json

/-- **The keys of a flattened value are the paths of its leaves.** -/
theorem Messages.mem_keys_flatten_iff {value : Json} {path separator key : String} :
    key ∈ (Messages.flatten value path separator).keys ↔
      ∃ names leaf, value.LeafAt names leaf ∧ key = Json.pathBelow separator path names := by
  rw [Messages.flatten, Messages.mem_keys_ofLeaves, List.mem_map]
  constructor
  · rintro ⟨entry, hmem, rfl⟩
    obtain ⟨names, hleaf, hpath⟩ := (Json.mem_leaves_iff separator path entry value).mp hmem
    exact ⟨names, entry.2, hleaf, hpath⟩
  · rintro ⟨names, leaf, hleaf, hpath⟩
    exact ⟨(key, leaf), (Json.mem_leaves_iff separator path _ value).mpr ⟨names, hleaf, hpath⟩, rfl⟩

end KeyAudit
