/-
What flattening keeps of a document: everything but objects without a leaf and the order
of members.

`Json.pruned` takes out the objects that hold no leaf, and `Json.Rearranged` compares
values up to the order in which objects that are descended into list their members. Both
leave alone what lies at which names (`leafAt_pruned_iff`, `Rearranged.leafAt_iff`), and
where the same leaves lie at the same names, nothing else can differ
(`rearranged_of_leafAt_iff`).
-/

import KeyAudit.Proofs.Messages.Unambiguous

namespace KeyAudit

namespace Json

/-! ### Objects without a leaf -/

mutual

/-- How many leaves a value holds. -/
def leafCount : Json → Nat
  | .obj members => membersLeafCount members
  | .null | .bool _ | .num _ | .str _ | .arr _ => 1

def membersLeafCount : List (String × Json) → Nat
  | [] => 0
  | (_, value) :: members => value.leafCount + membersLeafCount members

end

mutual

/-- The value without the members, at any depth, that hold no leaf. -/
def pruned : Json → Json
  | .obj members => .obj (prunedMembers members)
  | .null => .null
  | .bool b => .bool b
  | .num n => .num n
  | .str s => .str s
  | .arr items => .arr items

def prunedMembers : List (String × Json) → List (String × Json)
  | [] => []
  | (name, value) :: members =>
    if value.leafCount = 0 then prunedMembers members
    else (name, value.pruned) :: prunedMembers members

end

/-! ### The order of members -/

mutual

/-- The values are equal but for the order of members in objects, those inside lists
excepted. -/
inductive Rearranged : Json → Json → Prop where
  | leaf {value : Json} : value.isObject = false → Rearranged value value
  | obj {members members' : List (String × Json)} : MembersRearranged members members' →
      Rearranged (.obj members) (.obj members')

/-- Each member stands somewhere among the others, with a rearranged value. -/
inductive MembersRearranged : List (String × Json) → List (String × Json) → Prop where
  | nil : MembersRearranged [] []
  | cons {name : String} {value value' : Json} {members before after : List (String × Json)} :
      Rearranged value value' → MembersRearranged members (before ++ after) →
      MembersRearranged ((name, value) :: members) (before ++ (name, value') :: after)

end

/-! ### Counting leaves -/

mutual

/-- Flattening lists as many leaves as the value holds. -/
theorem length_leaves (separator : String) : ∀ (value : Json) (path : String),
    (value.leaves separator path).length = value.leafCount
  | .obj members, path => length_memberLeaves separator members path
  | .null, _ => rfl
  | .bool _, _ => rfl
  | .num _, _ => rfl
  | .str _, _ => rfl
  | .arr _, _ => rfl

theorem length_memberLeaves (separator : String) :
    ∀ (members : List (String × Json)) (path : String),
    (memberLeaves separator members path).length = membersLeafCount members
  | [], _ => rfl
  | (name, value) :: members, path => by
      rw [memberLeaves, List.length_append, length_leaves separator value,
        length_memberLeaves separator members, membersLeafCount]

end

/-- A value holds a leaf exactly where one lies at some names. -/
theorem leafCount_ne_zero_iff {value : Json} :
    value.leafCount ≠ 0 ↔ ∃ names leaf, value.LeafAt names leaf := by
  rw [← length_leaves "" value "", ← Nat.pos_iff_ne_zero, List.length_pos_iff_exists_mem]
  constructor
  · rintro ⟨entry, hmem⟩
    obtain ⟨names, hleaf, _⟩ := (mem_leaves_iff "" "" entry value).mp hmem
    exact ⟨names, entry.2, hleaf⟩
  · rintro ⟨names, leaf, hleaf⟩
    exact ⟨(pathBelow "" "" names, leaf), (mem_leaves_iff "" "" _ value).mpr ⟨names, hleaf, rfl⟩⟩

/-! ### What pruning and rearranging leave alone -/

theorem pruned_of_not_object {value : Json} (hobj : value.isObject = false) :
    value.pruned = value := by
  cases value with
  | obj members => cases hobj
  | _ => rfl

theorem leafAt_cons_iff {name : String} {value leaf : Json} {members : List (String × Json)}
    {names : List String} : (Json.obj ((name, value) :: members)).LeafAt names leaf ↔
      (∃ rest, names = name :: rest ∧ value.LeafAt rest leaf) ∨
        (Json.obj members).LeafAt names leaf := by
  rw [leafAt_obj_iff, leafAt_obj_iff]
  constructor
  · rintro ⟨name', value', rest, rfl, hmem, hleaf⟩
    rcases List.mem_cons.mp hmem with he | hmem
    · cases he
      exact .inl ⟨rest, rfl, hleaf⟩
    · exact .inr ⟨name', value', rest, rfl, hmem, hleaf⟩
  · rintro (⟨rest, rfl, hleaf⟩ | ⟨name', value', rest, rfl, hmem, hleaf⟩)
    · exact ⟨name, value, rest, rfl, List.mem_cons_self, hleaf⟩
    · exact ⟨name', value', rest, rfl, List.mem_cons_of_mem _ hmem, hleaf⟩

/-- A member without a leaf adds none. -/
theorem leafAt_cons_iff_of_leafless {name : String} {value leaf : Json}
    {members : List (String × Json)} {names : List String} (hcount : value.leafCount = 0) :
    (Json.obj ((name, value) :: members)).LeafAt names leaf ↔
      (Json.obj members).LeafAt names leaf := by
  rw [leafAt_cons_iff]
  constructor
  · rintro (⟨rest, _, hleaf⟩ | hleaf)
    · exact absurd hcount (leafCount_ne_zero_iff.mpr ⟨rest, leaf, hleaf⟩)
    · exact hleaf
  · exact .inr

theorem not_leafAt_nil {leaf : Json} {names : List String} :
    ¬ (Json.obj []).LeafAt names leaf := by
  intro h
  obtain ⟨_, _, _, _, hmem, _⟩ := leafAt_obj_iff.mp h
  cases hmem

/-- Which of the members comes first is all the same. -/
theorem leafAt_middle_iff {name : String} {value leaf : Json}
    {before after : List (String × Json)} {names : List String} :
    (Json.obj (before ++ (name, value) :: after)).LeafAt names leaf ↔
      (∃ rest, names = name :: rest ∧ value.LeafAt rest leaf) ∨
        (Json.obj (before ++ after)).LeafAt names leaf := by
  induction before with
  | nil => exact leafAt_cons_iff
  | cons member before ih =>
      rw [List.cons_append, List.cons_append, leafAt_cons_iff, leafAt_cons_iff, ih]
      exact or_left_comm

mutual

theorem leafAt_pruned_iff {leaf : Json} : ∀ (value : Json) (names : List String),
    value.pruned.LeafAt names leaf ↔ value.LeafAt names leaf
  | .obj members, names => leafAt_prunedMembers_iff members names
  | .null, _ => Iff.rfl
  | .bool _, _ => Iff.rfl
  | .num _, _ => Iff.rfl
  | .str _, _ => Iff.rfl
  | .arr _, _ => Iff.rfl

theorem leafAt_prunedMembers_iff {leaf : Json} :
    ∀ (members : List (String × Json)) (names : List String),
    (Json.obj (prunedMembers members)).LeafAt names leaf ↔ (Json.obj members).LeafAt names leaf
  | [], _ => Iff.rfl
  | (name, value) :: members, names => by
      have ih := @leafAt_prunedMembers_iff leaf members names
      rw [prunedMembers]
      by_cases hcount : value.leafCount = 0
      · rw [if_pos hcount, ih, leafAt_cons_iff_of_leafless hcount]
      · rw [if_neg hcount, leafAt_cons_iff, leafAt_cons_iff, ih]
        simp only [leafAt_pruned_iff value]

end

mutual

theorem Rearranged.leafAt_iff {leaf : Json} : ∀ {value value' : Json} {names : List String},
    value.Rearranged value' → (value.LeafAt names leaf ↔ value'.LeafAt names leaf)
  | .obj _, _, _, .obj h => h.leafAt_iff
  | _, _, _, .leaf _ => Iff.rfl

theorem MembersRearranged.leafAt_iff {leaf : Json} :
    ∀ {members members' : List (String × Json)} {names : List String},
    MembersRearranged members members' →
    ((Json.obj members).LeafAt names leaf ↔ (Json.obj members').LeafAt names leaf)
  | [], _, _, .nil => Iff.rfl
  | (_, _) :: _, _, _, .cons hvalue hmembers => by
      rw [leafAt_cons_iff, leafAt_middle_iff, hmembers.leafAt_iff]
      simp only [hvalue.leafAt_iff]

end

/-! ### Nothing else differs -/

theorem prunedMembers_append (before after : List (String × Json)) :
    prunedMembers (before ++ after) = prunedMembers before ++ prunedMembers after := by
  induction before with
  | nil => rfl
  | cons member before ih =>
      rw [List.cons_append, prunedMembers, prunedMembers, ih]
      split
      · rfl
      · rfl

/-- Members without a leaf are all taken out. -/
theorem prunedMembers_eq_nil : ∀ {members : List (String × Json)},
    (∀ names leaf, ¬ (Json.obj members).LeafAt names leaf) → prunedMembers members = []
  | [], _ => rfl
  | (name, value) :: members, h => by
      have hcount : value.leafCount = 0 := by
        apply Decidable.byContradiction
        intro hne
        obtain ⟨names, leaf, hleaf⟩ := leafCount_ne_zero_iff.mp hne
        exact h _ leaf (.member List.mem_cons_self hleaf)
      rw [prunedMembers, if_pos hcount]
      exact prunedMembers_eq_nil fun names leaf hleaf => h names leaf (leafAt_cons_iff.mpr (.inr hleaf))

/-- The leaves below a name are those of the value that the name stands over. -/
theorem leafAt_below_iff {members : List (String × Json)} (h : (members.map Prod.fst).Nodup)
    {name : String} {value leaf : Json} {names : List String} (hmem : (name, value) ∈ members) :
    (Json.obj members).LeafAt (name :: names) leaf ↔ value.LeafAt names leaf := by
  rw [leafAt_obj_iff]
  constructor
  · rintro ⟨_, _, _, he, hmem', hleaf⟩
    cases he
    rw [value_unique h hmem hmem']
    exact hleaf
  · intro hleaf
    exact ⟨name, value, names, rfl, hmem, hleaf⟩

/-- Nothing lies below a name that is not there. -/
theorem not_leafAt_of_name {members : List (String × Json)} {name : String} {leaf : Json}
    {names : List String} (h : name ∉ members.map Prod.fst) :
    ¬ (Json.obj members).LeafAt (name :: names) leaf := by
  intro hleaf
  obtain ⟨_, _, _, he, hmem, _⟩ := leafAt_obj_iff.mp hleaf
  cases he
  exact h (List.mem_map.mpr ⟨_, hmem, rfl⟩)

/-- With one member taken out of each, objects with the same leaves still have the same. -/
theorem leafAt_rest_iff {separator : Char} {name : String} {value value' : Json}
    {members before after : List (String × Json)}
    (h : (Json.obj ((name, value) :: members)).Unambiguous separator)
    (h' : (Json.obj (before ++ (name, value') :: after)).Unambiguous separator)
    (hleaves : ∀ names leaf, (Json.obj ((name, value) :: members)).LeafAt names leaf ↔
      (Json.obj (before ++ (name, value') :: after)).LeafAt names leaf)
    (names : List String) (leaf : Json) :
    (Json.obj members).LeafAt names leaf ↔ (Json.obj (before ++ after)).LeafAt names leaf := by
  have hname := (unambiguous_obj_iff.mp h).1
  have hname' := (unambiguous_obj_iff.mp h').1
  rw [List.map_cons, List.nodup_cons] at hname
  rw [List.map_append, List.map_cons, List.perm_middle.nodup_iff, List.nodup_cons,
    ← List.map_append] at hname'
  have hsame := hleaves names leaf
  rw [leafAt_cons_iff, leafAt_middle_iff] at hsame
  constructor
  · intro hleaf
    rcases hsame.mp (.inr hleaf) with ⟨rest, rfl, _⟩ | hleaf'
    · exact absurd hleaf (not_leafAt_of_name hname.1)
    · exact hleaf'
  · intro hleaf
    rcases hsame.mpr (.inr hleaf) with ⟨rest, rfl, _⟩ | hleaf'
    · exact absurd hleaf (not_leafAt_of_name hname'.1)
    · exact hleaf'

/-- What has the leaves of something that is no object is that thing. -/
theorem eq_of_leafAt_iff_of_not_object {value value' : Json} (hobj : value.isObject = false)
    (hleaves : ∀ names leaf, value.LeafAt names leaf ↔ value'.LeafAt names leaf) :
    value' = value := by
  have hleaf' : value'.LeafAt [] value := (hleaves [] value).mp (.leaf hobj)
  cases hleaf' with
  | leaf => rfl

theorem rearranged_of_not_object {value value' : Json} (hobj : value.isObject = false)
    (hleaves : ∀ names leaf, value.LeafAt names leaf ↔ value'.LeafAt names leaf) :
    value.pruned.Rearranged value'.pruned := by
  rw [eq_of_leafAt_iff_of_not_object hobj hleaves, pruned_of_not_object hobj]
  exact .leaf hobj

/-- What has the leaves of an object is an object. -/
theorem exists_members_of_leafAt_iff {members : List (String × Json)} {value : Json}
    (hleaves : ∀ names leaf, (Json.obj members).LeafAt names leaf ↔ value.LeafAt names leaf) :
    ∃ members', value = .obj members' := by
  cases value with
  | obj members' => exact ⟨members', rfl⟩
  | _ => cases eq_of_leafAt_iff_of_not_object rfl fun names leaf => (hleaves names leaf).symm

mutual

/-- **Where the same leaves lie at the same names, the pruned values are rearranged.** -/
theorem rearranged_of_leafAt_iff {separator : Char} : ∀ {value value' : Json},
    value.Unambiguous separator → value'.Unambiguous separator →
    (∀ names leaf, value.LeafAt names leaf ↔ value'.LeafAt names leaf) →
    value.pruned.Rearranged value'.pruned
  | .obj members, _, h, h', hleaves => by
      obtain ⟨members', rfl⟩ := exists_members_of_leafAt_iff hleaves
      exact .obj (membersRearranged_of_leafAt_iff members h h' hleaves)
  | .null, _, _, _, hleaves => rearranged_of_not_object rfl hleaves
  | .bool _, _, _, _, hleaves => rearranged_of_not_object rfl hleaves
  | .num _, _, _, _, hleaves => rearranged_of_not_object rfl hleaves
  | .str _, _, _, _, hleaves => rearranged_of_not_object rfl hleaves
  | .arr _, _, _, _, hleaves => rearranged_of_not_object rfl hleaves

theorem membersRearranged_of_leafAt_iff {separator : Char} :
    ∀ (members : List (String × Json)) {members' : List (String × Json)},
    (Json.obj members).Unambiguous separator → (Json.obj members').Unambiguous separator →
    (∀ names leaf, (Json.obj members).LeafAt names leaf ↔ (Json.obj members').LeafAt names leaf) →
    MembersRearranged (prunedMembers members) (prunedMembers members')
  | [], members', _, _, hleaves => by
      have hnone : prunedMembers members' = [] :=
        prunedMembers_eq_nil fun names leaf hleaf => not_leafAt_nil ((hleaves names leaf).mpr hleaf)
      rw [hnone]
      exact .nil
  | (name, value) :: members, members', h, h', hleaves => by
      obtain ⟨hdistinct, _, hvalues⟩ := unambiguous_obj_iff.mp h
      obtain ⟨hdistinct', _, hvalues'⟩ := unambiguous_obj_iff.mp h'
      have hrest : (Json.obj members).Unambiguous separator := h.sublist (List.sublist_cons_self ..)
      rw [prunedMembers]
      by_cases hcount : value.leafCount = 0
      · rw [if_pos hcount]
        apply membersRearranged_of_leafAt_iff members hrest h'
        intro names leaf
        rw [← hleaves, leafAt_cons_iff_of_leafless hcount]
      · rw [if_neg hcount]
        -- Some leaf of the first value lies below its name in the other object as well, so the
        -- name stands there; what is left of both objects has the same leaves again.
        obtain ⟨names, leaf, hleaf⟩ := leafCount_ne_zero_iff.mp hcount
        have hthere := (hleaves (name :: names) leaf).mp (.member List.mem_cons_self hleaf)
        obtain ⟨_, value', _, he, hmem', hleaf'⟩ := leafAt_obj_iff.mp hthere
        cases he
        obtain ⟨before, after, rfl⟩ := List.append_of_mem hmem'
        have hsame : ∀ names leaf, value.LeafAt names leaf ↔ value'.LeafAt names leaf := by
          intro names leaf
          rw [← leafAt_below_iff hdistinct List.mem_cons_self, hleaves,
            leafAt_below_iff hdistinct' hmem']
        have hcount' : value'.leafCount ≠ 0 := leafCount_ne_zero_iff.mpr ⟨names, leaf, hleaf'⟩
        rw [prunedMembers_append, prunedMembers, if_neg hcount']
        apply MembersRearranged.cons
        · exact rearranged_of_leafAt_iff (hvalues _ List.mem_cons_self) (hvalues' _ hmem') hsame
        · rw [← prunedMembers_append]
          apply membersRearranged_of_leafAt_iff members hrest
          · exact h'.sublist ((List.sublist_cons_self ..).append_left before)
          · exact leafAt_rest_iff h h' hleaves

end

end Json

/-! ### Flattening -/

/-- **Flattening loses nothing of unambiguous documents** but objects without a leaf and the
order of members: two flatten alike exactly where they are rearrangements of each other once
such objects are taken out. There are as many entries as leaves, and each entry is the leaf
at the names that its path joins, which no other leaf has. -/
theorem Messages.flatten_eq_iff_rearranged {separator : Char} {document other : Json}
    (h : document.Unambiguous separator) (h' : other.Unambiguous separator) :
    (flatten document "" (.singleton separator) = flatten other "" (.singleton separator) ↔
      document.pruned.Rearranged other.pruned) ∧
    (flatten document "" (.singleton separator)).entries.length = document.leafCount ∧
    ∀ path leaf, (path, leaf) ∈ (flatten document "" (.singleton separator)).entries ↔
      ∃ names, document.LeafAt names leaf ∧
        path = Json.pathBelow (.singleton separator) "" names ∧
        ∀ names' leaf', document.LeafAt names' leaf' →
          path = Json.pathBelow (.singleton separator) "" names' → names' = names ∧ leaf' = leaf := by
  refine ⟨?_, ?_, ?_⟩
  · rw [flatten_eq_iff_leafAt h h']
    constructor
    · exact Json.rearranged_of_leafAt_iff h h'
    · intro hsame names leaf
      rw [← Json.leafAt_pruned_iff document, hsame.leafAt_iff, Json.leafAt_pruned_iff other]
  · rw [length_entries_flatten h, Json.length_leaves]
  · intro path leaf
    rw [mem_entries_flatten_iff h]
    constructor
    · rintro ⟨names, hleaf, hpath⟩
      refine ⟨names, hleaf, hpath, ?_⟩
      intro names' leaf' hleaf' hpath'
      have hplain := Json.plain_of_leafAt h hleaf
      have hplain' := Json.plain_of_leafAt h hleaf'
      cases Json.pathBelow_injective hplain hplain' (hpath.symm.trans hpath')
      exact ⟨rfl, Json.leafAt_unique h hleaf' hleaf⟩
    · rintro ⟨names, hleaf, hpath, _⟩
      exact ⟨names, hleaf, hpath⟩

/-! ### Two documents with the same entries -/

namespace Lossless

/-- A document with an object that holds no leaf. -/
def sampleDocument : Json :=
  .obj [("form", .obj [("save", .str "Save"), ("steps", .arr [.obj []])]), ("draft", .obj [])]

/-- The same leaves in another order. -/
def sampleOther : Json :=
  .obj [("form", .obj [("steps", .arr [.obj []]), ("save", .str "Save")])]

theorem unambiguous_sampleDocument : sampleDocument.Unambiguous '.' := by
  refine .obj (by decide) (by decide) (List.forall_mem_cons.mpr ⟨?_, List.forall_mem_cons.mpr ⟨?_, ?_⟩⟩)
  · refine .obj (by decide) (by decide) (List.forall_mem_cons.mpr ⟨.leaf rfl, ?_⟩)
    exact List.forall_mem_cons.mpr ⟨.leaf rfl, fun _ hmem => nomatch hmem⟩
  · exact .obj (by decide) (by decide) (fun _ hmem => nomatch hmem)
  · exact fun _ hmem => nomatch hmem

theorem unambiguous_sampleOther : sampleOther.Unambiguous '.' := by
  refine .obj (by decide) (by decide) (List.forall_mem_cons.mpr ⟨?_, fun _ hmem => nomatch hmem⟩)
  refine .obj (by decide) (by decide) (List.forall_mem_cons.mpr ⟨.leaf rfl, ?_⟩)
  exact List.forall_mem_cons.mpr ⟨.leaf rfl, fun _ hmem => nomatch hmem⟩

theorem rearranged_samples : sampleDocument.pruned.Rearranged sampleOther.pruned := by
  apply Json.Rearranged.obj
  apply @Json.MembersRearranged.cons "form" _ _ [] [] []
  · apply Json.Rearranged.obj
    apply @Json.MembersRearranged.cons "save" _ _ _ [("steps", _)] []
    · exact .leaf rfl
    · apply @Json.MembersRearranged.cons "steps" _ _ [] [] []
      · exact .leaf rfl
      · exact .nil
  · exact .nil

theorem flatten_samples :
    Messages.flatten sampleDocument "" "." = Messages.flatten sampleOther "" "." ∧
      (Messages.flatten sampleDocument "" ".").entries.length = 2 := by
  have h := Messages.flatten_eq_iff_rearranged unambiguous_sampleDocument unambiguous_sampleOther
  exact ⟨h.1.mpr rearranged_samples, h.2.1⟩

end Lossless

end KeyAudit
