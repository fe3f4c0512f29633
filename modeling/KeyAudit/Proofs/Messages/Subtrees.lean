/-
Flattening a document part by part.

The messages of an object are those of its members, each flattened below its own path, with
the later members over the earlier ones (`Messages.overlaid`). And a text in front of a path
stays in front of every path below it (`Json.pathBelow_append`), for only behind nothing is a
name joined without a separator, and below a path that is not empty there is always something.

* `flatten_composes` — **an object from its members, and a subtree below another path.**
-/

import KeyAudit.Proofs.Messages.LastLeaf

namespace KeyAudit

/-! ### Paths behind a text -/

namespace Json

theorem append_ne_empty {s t : String} (h : t ≠ "") : s ++ t ≠ "" := by
  intro he
  rw [String.append_eq_empty_iff] at he
  exact h he.2

/-- **What stands in front of a path stands in front of every path below it.** -/
theorem pathBelow_append {separator before path : String} {names : List String}
    (hpath : path ≠ "") :
    pathBelow separator (before ++ path) names = before ++ pathBelow separator path names := by
  induction names generalizing path with
  | nil => rfl
  | cons name names ih =>
      have hnext : path ++ separator ++ name ≠ "" := by
        intro he
        rw [String.append_eq_empty_iff, String.append_eq_empty_iff] at he
        exact hpath he.1.1
      rw [pathBelow, if_neg (append_ne_empty hpath), pathBelow, if_neg hpath, ← ih hnext]
      simp only [String.append_assoc]

/-- A leaf whose path stands behind a text. -/
def leafBehind (before : String) (entry : String × Json) : String × Json :=
  (before ++ entry.1, entry.2)

theorem leaves_append {separator before path : String} (value : Json) (hpath : path ≠ "") :
    value.leaves separator (before ++ path) =
      (value.leaves separator path).map (leafBehind before) := by
  rw [leaves_eq_leafList, leaves_eq_leafList, leafList, leafList, List.map_map]
  apply List.map_congr_left
  rintro ⟨names, leaf⟩ -
  exact congrArg (·, leaf) (pathBelow_append hpath)

/-- Members with names of their own stand below a path as they do below nothing, behind the
path and a separator. -/
theorem memberLeaves_behind {separator path : String} {members : List (String × Json)}
    (hnames : ∀ member ∈ members, member.1 ≠ "") (hpath : path ≠ "") :
    memberLeaves separator members path =
      (memberLeaves separator members "").map (leafBehind (path ++ separator)) := by
  induction members with
  | nil => rfl
  | cons member members ih =>
      obtain ⟨name, value⟩ := member
      rw [List.forall_mem_cons] at hnames
      have hname : Messages.joined separator path name = path ++ separator ++ name := by
        rw [joined_eq, if_neg hpath]
      have halone : Messages.joined separator "" name = name := by
        rw [joined_eq, if_pos rfl]
      rw [memberLeaves, memberLeaves, hname, halone, leaves_append value hnames.1, ih hnames.2,
        List.map_append]

end Json

namespace Messages

/-- The messages with a text in front of every path. -/
def behind (before : String) (m : Messages) : Messages where
  entries := m.entries.map (Json.leafBehind before)
  ascending := by
    have hpaths : (m.entries.map (Json.leafBehind before)).map Prod.fst =
        (m.entries.map Prod.fst).map (before ++ ·) := by
      rw [List.map_map, List.map_map]
      rfl
    rw [hpaths, List.pairwise_map]
    exact m.ascending.imp fun {a b} hab => by
      rw [String.lt_iff, String.toList_append, String.toList_append]
      exact List.append_left_lt hab

theorem mem_entries_behind {before key : String} {leaf : Json} {m : Messages} :
    (key, leaf) ∈ (m.behind before).entries ↔
      ∃ path, key = before ++ path ∧ m.get? path = some leaf := by
  simp only [behind, List.mem_map, Json.leafBehind, Prod.mk.injEq, Prod.exists, ← mem_entries_iff]
  constructor
  · rintro ⟨path, leaf', hmem, rfl, rfl⟩
    exact ⟨path, rfl, hmem⟩
  · rintro ⟨path, rfl, hmem⟩
    exact ⟨path, leaf, hmem, rfl, rfl⟩

/-- Leaves whose paths stand behind a text replace one another as they did without it. -/
theorem ofLeaves_behind {before : String} {leaves : List (String × Json)} :
    ofLeaves (leaves.map (Json.leafBehind before)) = (ofLeaves leaves).behind before := by
  apply ext_entry
  rintro ⟨key, leaf⟩
  rw [mem_entries_iff, get?_ofLeaves_eq_some_iff, mem_entries_behind]
  simp only [get?_ofLeaves_eq_some_iff]
  constructor
  · rintro ⟨earlier, later, hleaves, hlater⟩
    obtain ⟨earlier, rest, rfl, rfl, hrest⟩ := List.map_eq_append_iff.mp hleaves
    obtain ⟨⟨path, leaf'⟩, later, rfl, hentry, rfl⟩ := List.map_eq_cons_iff.mp hrest
    cases hentry
    refine ⟨path, rfl, earlier, later, rfl, ?_⟩
    rintro entry hmem rfl
    exact hlater _ (List.mem_map_of_mem hmem) rfl
  · rintro ⟨path, rfl, earlier, later, rfl, hlater⟩
    refine ⟨earlier.map (Json.leafBehind before), later.map (Json.leafBehind before), by
      rw [List.map_append, List.map_cons]
      rfl, ?_⟩
    intro entry hmem he
    obtain ⟨entry', hmem', rfl⟩ := List.mem_map.mp hmem
    exact hlater entry' hmem' ((String.append_right_inj before).mp he)

/-! ### Messages one over the other -/

/-- Messages one over the other, the last of them on top. -/
def overlaid (layers : List Messages) : Messages := layers.foldl override empty

theorem get?_foldl_override {layers : List Messages} {base : Messages} {path : String} :
    (layers.foldl override base).get? path =
      (layers.reverse.findSome? fun m => m.get? path).or (base.get? path) := by
  induction layers generalizing base with
  | nil => rfl
  | cons m layers ih =>
      rw [List.foldl_cons, ih, get?_override, List.reverse_cons, List.findSome?_append,
        Option.or_assoc, List.findSome?_singleton]

/-- **Under each path is what the topmost layer with this path has there.** -/
theorem get?_overlaid {layers : List Messages} {path : String} :
    (overlaid layers).get? path = layers.reverse.findSome? fun m => m.get? path := by
  rw [overlaid, get?_foldl_override, get?_empty, Option.or_none]

theorem ofLeaves_append {leaves more : List (String × Json)} :
    ofLeaves (leaves ++ more) = (ofLeaves leaves).override (ofLeaves more) := by
  apply ext_get?
  intro path
  rw [get?_override, get?_ofLeaves, get?_ofLeaves, get?_ofLeaves, List.reverse_append,
    List.find?_append, Option.map_or]

/-- The leaves of members over what was gathered before them. The induction is on the members;
what was gathered takes in one after the other. -/
theorem ofLeaves_append_memberLeaves {separator path : String} {members : List (String × Json)}
    {leaves : List (String × Json)} :
    ofLeaves (leaves ++ Json.memberLeaves separator members path) =
      (members.map fun (name, value) =>
        flatten value (joined separator path name) separator).foldl override (ofLeaves leaves) := by
  induction members generalizing leaves with
  | nil => rw [Json.memberLeaves, List.append_nil]; rfl
  | cons member members ih =>
      rw [Json.memberLeaves, ← List.append_assoc, ih, ofLeaves_append]
      rfl

/-- **An object is flattened member by member.** -/
theorem flatten_obj (members : List (String × Json)) (path separator : String) :
    flatten (.obj members) path separator =
      overlaid (members.map fun (name, value) =>
        flatten value (joined separator path name) separator) :=
  @ofLeaves_append_memberLeaves separator path members []

/-- A value below a longer path, where the path is longer at its front. -/
theorem flatten_append {separator before path : String} (value : Json) (hpath : path ≠ "") :
    flatten value (before ++ path) separator = (flatten value path separator).behind before := by
  rw [flatten, Json.leaves_append value hpath, ofLeaves_behind, flatten]

/-- An object below a path, where all its members have names. -/
theorem flatten_obj_behind {separator path : String} {members : List (String × Json)}
    (hnames : ∀ member ∈ members, member.1 ≠ "") (hpath : path ≠ "") :
    flatten (.obj members) path separator =
      (flatten (.obj members) "" separator).behind (path ++ separator) := by
  rw [flatten, Json.leaves, Json.memberLeaves_behind hnames hpath, ofLeaves_behind]
  rfl

/-- **Flattening composes over members and paths.** An object has the messages of its members
one over the other, each member flattened below its own path: under every key is what the last
member with this key has there. A text in front of a path that is not empty stands in front of
every key, over the same leaves. So the members of an object, if none of their names is empty,
stand below a path as they do below nothing, behind the path and the separator. -/
theorem flatten_composes (members : List (String × Json)) (value : Json)
    (before path separator : String) :
    (flatten (.obj members) path separator = overlaid (members.map fun (name, value) =>
        flatten value (if path = "" then name else path ++ separator ++ name) separator) ∧
      ∀ key, (flatten (.obj members) path separator).get? key =
        members.reverse.findSome? fun (name, value) =>
          (flatten value (if path = "" then name else path ++ separator ++ name) separator).get?
            key) ∧
    (path ≠ "" →
      flatten value (before ++ path) separator = (flatten value path separator).behind before) ∧
    ((∀ member ∈ members, member.1 ≠ "") → path ≠ "" →
      flatten (.obj members) path separator =
        (flatten (.obj members) "" separator).behind (path ++ separator)) := by
  have hmembers := flatten_obj members path separator
  simp only [Json.joined_eq] at hmembers
  refine ⟨⟨hmembers, ?_⟩, flatten_append value, flatten_obj_behind⟩
  intro key
  rw [hmembers, get?_overlaid, ← List.map_reverse, List.findSome?_map]
  rfl

end Messages

/-! ### Leaves with one key, below other paths -/

namespace Subtrees

/-- An object in which two leaves have one key, and another has a key without a name at its end. -/
def sampleMembers : List (String × Json) :=
  [("a", .obj [("b", .str "nested"), ("", .null)]), ("a.b", .str "dotted")]

theorem flatten_sampleMembers :
    (∀ member ∈ sampleMembers, member.1 ≠ "") ∧ "nav" ≠ "" ∧
    Messages.flatten (.obj sampleMembers) "site.nav" "." =
      (Messages.flatten (.obj sampleMembers) "nav" ".").behind "site." ∧
    Messages.flatten (.obj sampleMembers) "nav" "." =
      (Messages.flatten (.obj sampleMembers) "" ".").behind "nav." ∧
    (Messages.flatten (.obj sampleMembers) "nav" ".").keys.toList = ["nav.a.", "nav.a.b"] := by
  have hnames : ∀ member ∈ sampleMembers, member.1 ≠ "" := by decide
  have h := Messages.flatten_composes sampleMembers (.obj sampleMembers) "site." "nav" "."
  exact ⟨hnames, by decide, h.2.1 (by decide), h.2.2 hnames (by decide), by decide⟩

end Subtrees

end KeyAudit
