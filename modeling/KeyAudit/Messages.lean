/-
Flat messages: the leaves of a nested document by their dotted paths, in strictly
ascending order of the paths.

`Json.leaves` lists the leaves of a value in their order: it descends into objects,
and every other value is a leaf, with the names on the way to it joined by a
separator. Two leaves may have one path, and then the later one stays
(`Messages.get?_ofLeaves`).
-/

import KeyAudit.Json.Basic
import KeyAudit.KeySet

namespace KeyAudit

/-- Leaf values by path, in ascending order of the paths. -/
structure Messages where
  entries : List (String × Json)
  ascending : (entries.map Prod.fst).Pairwise (· < ·)

namespace Messages

/-- No messages. -/
def empty : Messages := ⟨[], KeySet.empty.ascending⟩

instance : Inhabited Messages := ⟨empty⟩

/-- The leaf under a path. -/
def get? (m : Messages) (path : String) : Option Json :=
  (Ascending.find? Prod.fst path m.entries).map Prod.snd

/-- The paths. -/
def keys (m : Messages) : KeySet := ⟨m.entries.map Prod.fst, m.ascending⟩

/-! ### Making messages -/

/-- The messages of leaves in any order. Of leaves with one path the last one stays. -/
def ofLeaves (leaves : List (String × Json)) : Messages :=
  ⟨Ascending.ofList Prod.fst leaves, Ascending.ordered_ofList leaves⟩

/-- The messages of both. Under a path that both have the leaf of the second stays. -/
def override (m n : Messages) : Messages :=
  ⟨Ascending.merge Prod.fst m.entries n.entries, Ascending.ordered_merge m.ascending n.ascending⟩

/-- The paths are those of the leaves. -/
theorem mem_keys_ofLeaves {leaves : List (String × Json)} {path : String} :
    path ∈ (ofLeaves leaves).keys ↔ path ∈ leaves.map Prod.fst :=
  Ascending.mem_keys_ofList

/-- **Under each path is the last leaf that has it.** -/
theorem get?_ofLeaves {leaves : List (String × Json)} {path : String} :
    (ofLeaves leaves).get? path =
      (leaves.reverse.find? fun leaf => leaf.1 == path).map Prod.snd :=
  congrArg (Option.map Prod.snd) Ascending.find?_ofList

theorem get?_override {m n : Messages} {path : String} :
    (m.override n).get? path = (n.get? path).or (m.get? path) := by
  unfold get?
  rw [override, Ascending.find?_merge m.ascending n.ascending]
  cases Ascending.find? Prod.fst path n.entries <;> rfl

end Messages

/-! ### Flattening -/

/-- The path of a member below a path; below nothing it is the name itself. -/
def Messages.joined (separator path name : String) : String :=
  if path.isEmpty then name else path ++ separator ++ name

mutual

/-- The leaves of a value that stands under a path, each with its own path. -/
def Json.leaves (separator : String) : Json → String → List (String × Json)
  | .obj members, path => memberLeaves separator members path
  | .null, path => [(path, .null)]
  | .bool b, path => [(path, .bool b)]
  | .num n, path => [(path, .num n)]
  | .str s, path => [(path, .str s)]
  | .arr items, path => [(path, .arr items)]

/-- The leaves of members, in their order. -/
def Json.memberLeaves (separator : String) : List (String × Json) → String → List (String × Json)
  | [], _ => []
  | (name, value) :: members, path =>
    value.leaves separator (Messages.joined separator path name) ++
      memberLeaves separator members path

end

/-- The leaves of a value by path, all below `path`. -/
def Messages.flatten (value : Json) (path separator : String) : Messages :=
  ofLeaves (value.leaves separator path)

end KeyAudit
