/-
Documents whose paths can be read back: no object in them names a member twice, and no
name is empty or holds the separator (`Json.Unambiguous`). What stands in lists is of no
concern, since a list is a leaf.

In such a document the path of a leaf tells the names that lead to it
(`pathBelow_injective`), and the names tell the leaf (`leafAt_unique`). So no path stands
over two leaves, and flattening keeps each of them (`mem_entries_flatten_iff`,
`length_entries_flatten`).
-/

import KeyAudit.Proofs.Messages.Entries
import KeyAudit.Proofs.Messages.LeafPaths

namespace KeyAudit

namespace Json

/-- A name that joining to others does not blur. -/
def IsPlainName (separator : Char) (name : String) : Prop :=
  name ≠ "" ∧ separator ∉ name.toList

instance (separator : Char) (name : String) : Decidable (IsPlainName separator name) :=
  inferInstanceAs (Decidable (_ ∧ _))

/-- The names in every object that is descended into are plain and differ. -/
inductive Unambiguous (separator : Char) : Json → Prop where
  | leaf {value : Json} : value.isObject = false → Unambiguous separator value
  | obj {members : List (String × Json)} : (members.map Prod.fst).Nodup →
      (∀ member ∈ members, IsPlainName separator member.1) →
      (∀ member ∈ members, Unambiguous separator member.2) →
      Unambiguous separator (.obj members)

theorem unambiguous_obj_iff {separator : Char} {members : List (String × Json)} :
    (Json.obj members).Unambiguous separator ↔
      (members.map Prod.fst).Nodup ∧
        (∀ member ∈ members, IsPlainName separator member.1) ∧
        ∀ member ∈ members, member.2.Unambiguous separator := by
  constructor
  · intro h
    cases h with
    | leaf hobj => cases hobj
    | obj hdistinct hplain hvalues => exact ⟨hdistinct, hplain, hvalues⟩
  · rintro ⟨hdistinct, hplain, hvalues⟩
    exact .obj hdistinct hplain hvalues

/-- What is left of an unambiguous object without some of its members is unambiguous. -/
theorem Unambiguous.sublist {separator : Char} {members fewer : List (String × Json)}
    (h : (Json.obj members).Unambiguous separator) (hsub : fewer.Sublist members) :
    (Json.obj fewer).Unambiguous separator := by
  obtain ⟨hdistinct, hplain, hvalues⟩ := unambiguous_obj_iff.mp h
  exact .obj (hdistinct.sublist (hsub.map Prod.fst)) (fun m hm => hplain m (hsub.subset hm))
    (fun m hm => hvalues m (hsub.subset hm))

/-- A name stands over one value. -/
theorem value_unique {members : List (String × Json)} (h : (members.map Prod.fst).Nodup)
    {name : String} {value value' : Json} (hmem : (name, value) ∈ members)
    (hmem' : (name, value') ∈ members) : value = value' := by
  have hv := (Ascending.find?_eq_some_iff h).mpr ⟨hmem, rfl⟩
  have hv' := (Ascending.find?_eq_some_iff h).mpr ⟨hmem', rfl⟩
  rw [hv] at hv'
  cases hv'
  rfl

/-- The names that lead to a leaf are plain. -/
theorem plain_of_leafAt {separator : Char} {value leaf : Json} {names : List String}
    (h : value.Unambiguous separator) (hleaf : value.LeafAt names leaf) :
    ∀ name ∈ names, IsPlainName separator name := by
  induction hleaf with
  | leaf => exact fun _ hname => nomatch hname
  | member hmem _ ih =>
      obtain ⟨_, hplain, hvalues⟩ := unambiguous_obj_iff.mp h
      exact List.forall_mem_cons.mpr ⟨hplain _ hmem, ih (hvalues _ hmem)⟩

/-- One leaf at most lies at the same names. -/
theorem leafAt_unique {separator : Char} {value leaf leaf' : Json} {names : List String}
    (h : value.Unambiguous separator) (hleaf : value.LeafAt names leaf)
    (hleaf' : value.LeafAt names leaf') : leaf = leaf' := by
  induction hleaf with
  | leaf hobj => exact ((leafAt_iff_of_not_object hobj).mp hleaf').2.symm
  | member hmem _ ih =>
      obtain ⟨hdistinct, _, hvalues⟩ := unambiguous_obj_iff.mp h
      obtain ⟨_, _, _, he, hmem', hleaf'⟩ := leafAt_obj_iff.mp hleaf'
      cases he
      cases value_unique hdistinct hmem hmem'
      exact ih (hvalues _ hmem) hleaf'

/-! ### Reading a path back -/

/-- The names as they stand behind another one, each after a separator. -/
def trail (separator : Char) (names : List String) : List Char :=
  names.flatMap fun name => separator :: name.toList

theorem toList_pathBelow_of_ne_empty {separator : Char} {path : String} {names : List String}
    (hpath : path ≠ "") : (pathBelow (.singleton separator) path names).toList =
      path.toList ++ trail separator names := by
  induction names generalizing path with
  | nil => simp [pathBelow, trail]
  | cons name names ih =>
      have hne : path ++ String.singleton separator ++ name ≠ "" := by
        intro he
        simpa using congrArg String.toList he
      rw [pathBelow, if_neg hpath, ih hne]
      simp [trail]

/-- Below nothing the first name has no separator before it. -/
theorem toList_pathBelow_empty {separator : Char} {name : String} {names : List String}
    (hname : name ≠ "") : (pathBelow (.singleton separator) "" (name :: names)).toList =
      name.toList ++ trail separator names := by
  rw [pathBelow, if_pos rfl]
  exact toList_pathBelow_of_ne_empty hname

/-- A text ends where the first separator stands behind it. -/
theorem append_trail_inj {separator : Char} {names names' : List String} :
    ∀ {s t : List Char}, separator ∉ s → separator ∉ t →
      s ++ trail separator names = t ++ trail separator names' →
      s = t ∧ trail separator names = trail separator names'
  | [], [], _, _, h => ⟨rfl, h⟩
  | [], d :: t, _, ht, h => by
      cases names with
      | nil => cases h
      | cons name names => exact absurd ((List.cons.inj h).1 ▸ List.mem_cons_self) ht
  | c :: s, [], hs, _, h => by
      cases names' with
      | nil => cases h
      | cons name names => exact absurd ((List.cons.inj h).1 ▸ List.mem_cons_self) hs
  | c :: s, d :: t, hs, ht, h => by
      rw [List.mem_cons, not_or] at hs ht
      obtain ⟨hhead, htail⟩ := List.cons.inj h
      obtain ⟨hst, htrail⟩ := append_trail_inj hs.2 ht.2 htail
      exact ⟨by rw [hhead, hst], htrail⟩

theorem trail_injective {separator : Char} : ∀ {names names' : List String},
    (∀ name ∈ names, IsPlainName separator name) →
    (∀ name ∈ names', IsPlainName separator name) →
    trail separator names = trail separator names' → names = names'
  | [], [], _, _, _ => rfl
  | [], _ :: _, _, _, h => nomatch h
  | _ :: _, [], _, _, h => nomatch h
  | name :: names, name' :: names', hplain, hplain', h => by
      obtain ⟨hname, hnames⟩ := List.forall_mem_cons.mp hplain
      obtain ⟨hname', hnames'⟩ := List.forall_mem_cons.mp hplain'
      obtain ⟨hhead, htail⟩ := append_trail_inj hname.2 hname'.2 (List.cons.inj h).2
      rw [String.toList_inj.mp hhead, trail_injective hnames hnames' htail]

/-- **The path of plain names tells the names**, whatever it stands below. -/
theorem pathBelow_injective {separator : Char} {path : String} {names names' : List String}
    (hplain : ∀ name ∈ names, IsPlainName separator name)
    (hplain' : ∀ name ∈ names', IsPlainName separator name)
    (h : pathBelow (.singleton separator) path names =
      pathBelow (.singleton separator) path names') : names = names' := by
  have hchars := congrArg String.toList h
  by_cases hpath : path = ""
  · subst hpath
    cases names with
    | nil =>
        cases names' with
        | nil => rfl
        | cons name' names' =>
            have hname' := hplain' name' List.mem_cons_self
            rw [toList_pathBelow_empty hname'.1] at hchars
            exact absurd (List.append_eq_nil_iff.mp hchars.symm).1 (by simpa using hname'.1)
    | cons name names =>
        have hname := hplain name List.mem_cons_self
        rw [toList_pathBelow_empty hname.1] at hchars
        cases names' with
        | nil => exact absurd (List.append_eq_nil_iff.mp hchars).1 (by simpa using hname.1)
        | cons name' names' =>
            have hname' := hplain' name' List.mem_cons_self
            rw [toList_pathBelow_empty hname'.1] at hchars
            apply trail_injective hplain hplain'
            exact congrArg (separator :: ·) hchars
  · rw [toList_pathBelow_of_ne_empty hpath, toList_pathBelow_of_ne_empty hpath] at hchars
    exact trail_injective hplain hplain' (List.append_cancel_left hchars)

/-! ### Leaves of an unambiguous value -/

/-- The leaves of different members have different paths. -/
theorem paths_disjoint {separator : Char} {path : String} {name : String} {value : Json}
    {members : List (String × Json)}
    (h : (Json.obj ((name, value) :: members)).Unambiguous separator) :
    ∀ a ∈ value.leaves (.singleton separator) (Messages.joined (.singleton separator) path name),
      ∀ b ∈ memberLeaves (.singleton separator) members path, a.1 ≠ b.1 := by
  intro a ha b hb he
  obtain ⟨names, hleaf, hpath⟩ := (mem_leaves_iff _ _ a value).mp ha
  obtain ⟨name', value', names', hmem, hleaf', hpath'⟩ :=
    (mem_memberLeaves_iff _ _ b members).mp hb
  have hplain := plain_of_leafAt h (.member List.mem_cons_self hleaf)
  have hplain' := plain_of_leafAt h (.member (List.mem_cons_of_mem _ hmem) hleaf')
  rw [hpath, hpath', joined_eq] at he
  cases pathBelow_injective hplain hplain' he
  have hdistinct := (unambiguous_obj_iff.mp h).1
  rw [List.map_cons, List.nodup_cons] at hdistinct
  exact hdistinct.1 (List.mem_map.mpr ⟨_, hmem, rfl⟩)

mutual

/-- **No path stands over two leaves.** -/
theorem nodup_paths {separator : Char} (path : String) : ∀ {value : Json},
    value.Unambiguous separator →
    ((value.leaves (.singleton separator) path).map Prod.fst).Nodup
  | .obj _, h => nodup_memberPaths path h
  | .null, _ => List.pairwise_singleton _ _
  | .bool _, _ => List.pairwise_singleton _ _
  | .num _, _ => List.pairwise_singleton _ _
  | .str _, _ => List.pairwise_singleton _ _
  | .arr _, _ => List.pairwise_singleton _ _

theorem nodup_memberPaths {separator : Char} (path : String) :
    ∀ {members : List (String × Json)}, (Json.obj members).Unambiguous separator →
    ((memberLeaves (.singleton separator) members path).map Prod.fst).Nodup
  | [], _ => .nil
  | (name, value) :: members, h => by
      have hvalue : value.Unambiguous separator :=
        (unambiguous_obj_iff.mp h).2.2 _ List.mem_cons_self
      rw [memberLeaves, List.map_append, List.nodup_append]
      refine ⟨nodup_paths _ hvalue, nodup_memberPaths path (h.sublist (List.sublist_cons_self ..)), ?_⟩
      intro p hp q hq he
      obtain ⟨a, ha, rfl⟩ := List.mem_map.mp hp
      obtain ⟨b, hb, rfl⟩ := List.mem_map.mp hq
      exact paths_disjoint h a ha b hb he

end

end Json

namespace Messages

variable {separator : Char} {value : Json}

/-- **The entries of a flattened value are its leaves**, each under its path. -/
theorem mem_entries_flatten_iff (h : value.Unambiguous separator) {entry : String × Json} :
    entry ∈ (flatten value "" (.singleton separator)).entries ↔
      ∃ names, value.LeafAt names entry.2 ∧
        entry.1 = Json.pathBelow (.singleton separator) "" names := by
  rw [flatten, (perm_entries_ofLeaves (Json.nodup_paths "" h)).mem_iff]
  exact Json.mem_leaves_iff _ _ _ _

theorem length_entries_flatten (h : value.Unambiguous separator) :
    (flatten value "" (.singleton separator)).entries.length =
      (value.leaves (.singleton separator) "").length :=
  (perm_entries_ofLeaves (Json.nodup_paths "" h)).length_eq

/-- The leaf at given names stands under their path, and no other one does. -/
theorem pathBelow_mem_entries_iff (h : value.Unambiguous separator) {names : List String}
    {leaf : Json} (hplain : ∀ name ∈ names, Json.IsPlainName separator name) :
    (Json.pathBelow (.singleton separator) "" names, leaf) ∈
        (flatten value "" (.singleton separator)).entries ↔ value.LeafAt names leaf := by
  rw [mem_entries_flatten_iff h]
  constructor
  · rintro ⟨names', hleaf, hpath⟩
    rw [Json.pathBelow_injective hplain (Json.plain_of_leafAt h hleaf) hpath]
    exact hleaf
  · intro hleaf
    exact ⟨names, hleaf, rfl⟩

/-- **Two flattened values are the same where the same leaves lie at the same names.** -/
theorem flatten_eq_iff_leafAt {value' : Json} (h : value.Unambiguous separator)
    (h' : value'.Unambiguous separator) :
    flatten value "" (.singleton separator) = flatten value' "" (.singleton separator) ↔
      ∀ names leaf, value.LeafAt names leaf ↔ value'.LeafAt names leaf := by
  constructor
  · intro he names leaf
    constructor
    · intro hleaf
      have hplain := Json.plain_of_leafAt h hleaf
      exact (pathBelow_mem_entries_iff h' hplain).mp
        (he ▸ (pathBelow_mem_entries_iff h hplain).mpr hleaf)
    · intro hleaf
      have hplain := Json.plain_of_leafAt h' hleaf
      exact (pathBelow_mem_entries_iff h hplain).mp
        (he ▸ (pathBelow_mem_entries_iff h' hplain).mpr hleaf)
  · intro hleaves
    apply ext_entry
    intro entry
    rw [mem_entries_flatten_iff h, mem_entries_flatten_iff h']
    simp only [hleaves]

end Messages

end KeyAudit
