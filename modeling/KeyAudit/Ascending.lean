/-
Lists in strictly ascending order of a key, each key standing once.

`merge` joins two of them in one pass, and `ofList` makes one of items in any order by
merging lists of growing size. Where two items have one key the later one stays.

* `mem_keys_merge`, `mem_keys_ofList` — which keys are there.
* `find?_merge`, `find?_ofList` — which item a key has.
-/

namespace KeyAudit.Ascending

variable {α : Type} (key : α → String)

/-- Are the items in strictly ascending order of their keys? -/
abbrev Ordered (xs : List α) : Prop := (xs.map key).Pairwise (· < ·)

/-- An item, and what goes on behind it, in its place among the items of a list. -/
def mergeFrom (x : α) (more : List α → List α) : List α → List α
  | [] => x :: more []
  | y :: ys =>
    if key x < key y then x :: more (y :: ys)
    else if key x = key y then y :: more ys
    else y :: mergeFrom x more ys

/-- The items of two lists. Of two items with one key that of the second list stays. -/
def merge : List α → List α → List α
  | [], ys => ys
  | x :: xs, ys => mergeFrom key x (merge xs) ys

/-- The item with a key. -/
def find? (k : String) (xs : List α) : Option α := xs.find? fun x => key x == k

/-! ### Order of keys -/

theorem ordered_id {xs : List String} : Ordered id xs ↔ xs.Pairwise (· < ·) := by
  rw [Ordered, List.map_id]

/-- Of two keys that differ, one comes first. -/
theorem lt_of_not_lt_of_ne {a b : String} (h : ¬ a < b) (hne : a ≠ b) : b < a := by
  rcases String.le_total a b with hab | hba
  · exact absurd (Std.lt_of_le_of_ne hab hne) h
  · exact Std.lt_of_le_of_ne hba (Ne.symm hne)

theorem ne_of_lt {a b : String} (h : a < b) : a ≠ b := fun e => String.lt_irrefl b (e ▸ h)

/-- Two strictly ascending lists with the same members are equal. -/
theorem eq_of_mem_iff_of_pairwise :
    ∀ {xs ys : List String}, xs.Pairwise (· < ·) → ys.Pairwise (· < ·) →
      (∀ k, k ∈ xs ↔ k ∈ ys) → xs = ys
  | [], [], _, _, _ => rfl
  | [], y :: ys, _, _, h => by simpa using (h y).2
  | x :: xs, [], _, _, h => by simpa using (h x).1
  | x :: xs, y :: ys, hx, hy, h => by
    obtain ⟨hx₁, hx₂⟩ := List.pairwise_cons.1 hx
    obtain ⟨hy₁, hy₂⟩ := List.pairwise_cons.1 hy
    have hxy : x = y := by
      rcases List.mem_cons.1 ((h x).1 (by simp)) with he | hxm
      · exact he
      · rcases List.mem_cons.1 ((h y).2 (by simp)) with he | hym
        · exact he.symm
        · exact absurd (hy₁ x hxm) (String.lt_asymm (hx₁ y hym))
    subst hxy
    refine congrArg (x :: ·) (eq_of_mem_iff_of_pairwise hx₂ hy₂ fun k => ?_)
    constructor
    · intro hk
      rcases List.mem_cons.1 ((h k).1 (by simp [hk])) with rfl | hk'
      · exact absurd (hx₁ k hk) (String.lt_irrefl k)
      · exact hk'
    · intro hk
      rcases List.mem_cons.1 ((h k).2 (by simp [hk])) with rfl | hk'
      · exact absurd (hy₁ k hk) (String.lt_irrefl k)
      · exact hk'

theorem nodup_of_pairwise {xs : List String} (h : xs.Pairwise (· < ·)) : xs.Nodup :=
  h.imp ne_of_lt

/-! ### Keys of a merge -/

variable {key}

theorem mem_keys_mergeFrom {k : String} {x : α} {more : List α → List α} {ms : List String}
    (hm : ∀ ys, k ∈ (more ys).map key ↔ k ∈ ms ∨ k ∈ ys.map key) (ys : List α) :
    k ∈ (mergeFrom key x more ys).map key ↔ k ∈ key x :: ms ∨ k ∈ ys.map key := by
  induction ys with
  | nil => simp only [mergeFrom, List.map_cons, List.mem_cons, hm, List.map_nil]; simp
  | cons y ys ih =>
    simp only [mergeFrom]
    split
    · simp only [List.map_cons, List.mem_cons, hm, or_assoc]
    · split
      · rename_i he
        simp only [List.map_cons, List.mem_cons, hm, he]
        constructor
        · rintro (h | h | h) <;> simp [h]
        · rintro ((h | h) | h | h) <;> simp [h]
      · simp only [List.map_cons, List.mem_cons] at ih ⊢
        rw [ih]
        constructor
        · rintro (h | (h | h) | h) <;> simp [h]
        · rintro ((h | h) | h | h) <;> simp [h]

@[simp] theorem mem_keys_merge {k : String} {xs ys : List α} :
    k ∈ (merge key xs ys).map key ↔ k ∈ xs.map key ∨ k ∈ ys.map key := by
  induction xs generalizing ys with
  | nil => simp [merge]
  | cons x xs ih => exact mem_keys_mergeFrom (fun ys => ih) ys

/-! ### Order of a merge -/

theorem ordered_mergeFrom {x : α} {more : List α → List α} {ms : List String}
    (hk : ∀ ys k, k ∈ (more ys).map key ↔ k ∈ ms ∨ k ∈ ys.map key)
    (ho : ∀ ys, Ordered key ys → Ordered key (more ys)) (hx : ∀ k ∈ ms, key x < k)
    (ys : List α) (hys : Ordered key ys) : Ordered key (mergeFrom key x more ys) := by
  induction ys with
  | nil =>
    refine List.pairwise_cons.2 ⟨fun k h => ?_, ho _ hys⟩
    rcases (hk _ _).1 h with h | h
    · exact hx k h
    · simp at h
  | cons y ys ih =>
    obtain ⟨hy, hys'⟩ := List.pairwise_cons.1 hys
    simp only [mergeFrom]
    split
    · rename_i hlt
      refine List.pairwise_cons.2 ⟨fun k h => ?_, ho _ hys⟩
      rcases (hk _ _).1 h with h | h
      · exact hx k h
      · rcases List.mem_cons.1 h with rfl | h
        · exact hlt
        · exact String.lt_trans hlt (hy k h)
    · rename_i hlt
      split
      · rename_i he
        refine List.pairwise_cons.2 ⟨fun k h => ?_, ho _ hys'⟩
        rcases (hk _ _).1 h with h | h
        · exact he ▸ hx k h
        · exact hy k h
      · rename_i hne
        refine List.pairwise_cons.2 ⟨fun k h => ?_, ih hys'⟩
        have hyx := lt_of_not_lt_of_ne hlt hne
        rcases (mem_keys_mergeFrom (fun ys => hk ys k) ys).1 h with h | h
        · rcases List.mem_cons.1 h with rfl | h
          · exact hyx
          · exact String.lt_trans hyx (hx k h)
        · exact hy k h

theorem ordered_merge {xs ys : List α} (hx : Ordered key xs) (hy : Ordered key ys) :
    Ordered key (merge key xs ys) := by
  induction xs generalizing ys with
  | nil => exact hy
  | cons x xs ih =>
    obtain ⟨hlt, hxs⟩ := List.pairwise_cons.1 hx
    exact ordered_mergeFrom (fun _ _ => mem_keys_merge) (fun _ h => ih hxs h) hlt ys hy

/-! ### Items of a merge -/

theorem find?_cons {k : String} {x : α} {xs : List α} :
    find? key k (x :: xs) = if key x = k then some x else find? key k xs := by
  simp only [find?, List.find?_cons]
  split <;> simp_all

theorem find?_eq_none {k : String} {xs : List α} (h : k ∉ xs.map key) : find? key k xs = none := by
  simp only [find?, List.find?_eq_none]
  intro x hx he
  exact h (List.mem_map.2 ⟨x, hx, by simpa using he⟩)

theorem find?_mergeFrom {k : String} {x : α} {more : List α → List α} {r : Option α}
    (hm : ∀ ys, Ordered key ys → find? key k (more ys) = (find? key k ys).or r) (ys : List α)
    (hys : Ordered key ys) :
    find? key k (mergeFrom key x more ys) =
      (find? key k ys).or (if key x = k then some x else r) := by
  induction ys with
  | nil => simp only [mergeFrom, find?_cons, hm [] hys]; simp [find?]
  | cons y ys ih =>
    obtain ⟨hy, hys'⟩ := List.pairwise_cons.1 hys
    simp only [mergeFrom]
    split
    · rename_i hlt
      rw [find?_cons, hm _ hys]
      split
      · rename_i he
        subst he
        rw [find?_eq_none, Option.none_or]
        intro h
        rcases List.mem_cons.1 h with h | h
        · exact ne_of_lt hlt h
        · exact ne_of_lt (String.lt_trans hlt (hy _ h)) rfl
      · rfl
    · split
      · rename_i he
        simp only [find?_cons, hm _ hys', he]
        split <;> simp
      · rw [find?_cons, find?_cons, ih hys']
        split <;> simp

/-- **The second list goes first.** -/
theorem find?_merge {k : String} {xs ys : List α} (hx : Ordered key xs) (hy : Ordered key ys) :
    find? key k (merge key xs ys) = (find? key k ys).or (find? key k xs) := by
  induction xs generalizing ys with
  | nil => simp [merge, find?]
  | cons x xs ih =>
    rw [find?_cons]
    exact find?_mergeFrom (fun _ h => ih (List.pairwise_cons.1 hx).2 h) ys hy

/-! ### Items in any order -/

variable (key)

/-- Puts a list in front of lists of growing size, the newest first. Two of about one
size become one, and leave a vacant place. -/
def carry (xs : List α) : List (List α) → List (List α)
  | [] => [xs]
  | [] :: rest => xs :: rest
  | (y :: ys) :: rest => [] :: carry (merge key (y :: ys) xs) rest

/-- Lists, the newest first, as one. -/
def gather (levels : List (List α)) : List α :=
  levels.foldl (fun newer older => merge key older newer) []

/-- The items of a list in order. Of items with one key the last one stays. -/
def ofList (xs : List α) : List α :=
  gather key (xs.foldl (fun levels x => carry key [x] levels) [])

variable {key}

theorem ordered_nil : Ordered key ([] : List α) := .nil

theorem ordered_singleton {x : α} : Ordered key [x] := List.pairwise_singleton _ _

/-- What the newest list with the key holds under it. -/
def findIn? (key : α → String) (k : String) (levels : List (List α)) : Option α :=
  levels.findSome? (find? key k)

theorem ordered_carry {xs : List α} {levels : List (List α)} (hx : Ordered key xs)
    (hl : ∀ ys ∈ levels, Ordered key ys) : ∀ ys ∈ carry key xs levels, Ordered key ys := by
  induction levels generalizing xs with
  | nil => simpa [carry] using hx
  | cons ys rest ih =>
    rw [List.forall_mem_cons] at hl
    cases ys with
    | nil => simpa [carry] using ⟨hx, hl.2⟩
    | cons y ys =>
      simp only [carry, List.forall_mem_cons]
      exact ⟨ordered_nil, ih (ordered_merge hl.1 hx) hl.2⟩

theorem findIn?_carry {k : String} {xs : List α} {levels : List (List α)} (hx : Ordered key xs)
    (hl : ∀ ys ∈ levels, Ordered key ys) :
    findIn? key k (carry key xs levels) = (find? key k xs).or (findIn? key k levels) := by
  induction levels generalizing xs with
  | nil => simp [carry, findIn?]
  | cons ys rest ih =>
    rw [List.forall_mem_cons] at hl
    cases ys with
    | nil =>
      simp only [carry, findIn?, List.findSome?_cons]
      cases find? key k xs <;> simp [find?]
    | cons y ys =>
      have h := ih (ordered_merge hl.1 hx) hl.2
      simp only [findIn?, carry] at h ⊢
      rw [List.findSome?_cons, find?, List.find?_nil]
      simp only [h, find?_merge hl.1 hx, List.findSome?_cons]
      cases find? key k xs <;> cases find? key k (y :: ys) <;> simp

theorem gather_spec {levels : List (List α)} {newer : List α} (hn : Ordered key newer)
    (hl : ∀ ys ∈ levels, Ordered key ys) :
    Ordered key (levels.foldl (fun newer older => merge key older newer) newer) ∧
      ∀ k, find? key k (levels.foldl (fun newer older => merge key older newer) newer) =
        (find? key k newer).or (findIn? key k levels) := by
  induction levels generalizing newer with
  | nil => exact ⟨hn, fun k => by simp [findIn?]⟩
  | cons ys rest ih =>
    rw [List.forall_mem_cons] at hl
    obtain ⟨ho, hf⟩ := ih (ordered_merge hl.1 hn) hl.2
    refine ⟨ho, fun k => ?_⟩
    rw [List.foldl_cons, hf, find?_merge hl.1 hn]
    simp only [findIn?, List.findSome?_cons]
    cases find? key k newer <;> cases find? key k ys <;> simp

theorem levels_spec {xs : List α} {levels : List (List α)} (hl : ∀ ys ∈ levels, Ordered key ys) :
    (∀ ys ∈ xs.foldl (fun levels x => carry key [x] levels) levels, Ordered key ys) ∧
      ∀ k, findIn? key k (xs.foldl (fun levels x => carry key [x] levels) levels) =
        (find? key k xs.reverse).or (findIn? key k levels) := by
  induction xs generalizing levels with
  | nil => exact ⟨hl, fun k => by simp [find?]⟩
  | cons x xs ih =>
    have hx : Ordered key [x] := ordered_singleton
    obtain ⟨ho, hf⟩ := ih (ordered_carry hx hl)
    refine ⟨ho, fun k => ?_⟩
    rw [List.foldl_cons, hf, findIn?_carry hx hl]
    simp [find?, List.find?_append, Option.or_assoc]

theorem ordered_ofList (xs : List α) : Ordered key (ofList key xs) :=
  (gather_spec ordered_nil (levels_spec (by simp)).1).1

/-- **The last item with a key stays.** -/
theorem find?_ofList {k : String} {xs : List α} :
    find? key k (ofList key xs) = find? key k xs.reverse := by
  have hl := @levels_spec α key xs [] (by simp)
  rw [ofList, gather, (gather_spec ordered_nil hl.1).2 k, hl.2 k]
  simp [find?, findIn?]

theorem find?_isSome {k : String} {xs : List α} : (find? key k xs).isSome ↔ k ∈ xs.map key := by
  simp [find?]

@[simp] theorem mem_keys_ofList {k : String} {xs : List α} :
    k ∈ (ofList key xs).map key ↔ k ∈ xs.map key := by
  rw [← find?_isSome, find?_ofList, find?_isSome, List.map_reverse, List.mem_reverse]

/-- Are the keys all different? -/
def allDistinct (ks : List String) : Bool := (ofList id ks).length == ks.length

/-! ### Leaving keys out -/

/-- A key in its place among those that are left out of a list, and what goes on
behind it. -/
def withoutFrom (x : String) (more : List String → List String) : List String → List String
  | [] => x :: more []
  | y :: ys =>
    if x < y then x :: more (y :: ys)
    else if x = y then more ys
    else withoutFrom x more ys

/-- The keys of the first of two ascending lists that the second lacks. -/
def without : List String → List String → List String
  | [], _ => []
  | x :: xs, ys => withoutFrom x (without xs) ys

theorem withoutFrom_eq {x : String} {more : List String → List String} {xs : List String}
    (hm : ∀ ys, ys.Pairwise (· < ·) → more ys = xs.filter fun k => !decide (k ∈ ys))
    (hx : ∀ k ∈ xs, x < k) (ys : List String) (hys : ys.Pairwise (· < ·)) :
    withoutFrom x more ys = (x :: xs).filter fun k => !decide (k ∈ ys) := by
  induction ys with
  | nil => simp [withoutFrom, hm [] hys]
  | cons y ys ih =>
    obtain ⟨hy, hys'⟩ := List.pairwise_cons.1 hys
    have drop (hle : y = x ∨ y < x) :
        (xs.filter fun k => !decide (k ∈ y :: ys)) = xs.filter fun k => !decide (k ∈ ys) :=
      List.filter_congr fun k hk => by
        have hne : k ≠ y := by
          rintro rfl
          rcases hle with rfl | h
          · exact ne_of_lt (hx _ hk) rfl
          · exact String.lt_asymm h (hx _ hk)
        simp [hne]
    simp only [withoutFrom]
    split
    · rename_i hlt
      have hmem : x ∉ y :: ys := by
        intro h
        rcases List.mem_cons.1 h with h | h
        · exact ne_of_lt hlt h
        · exact ne_of_lt (String.lt_trans hlt (hy _ h)) rfl
      rw [hm _ hys, List.filter_cons_of_pos (by simpa using hmem)]
    · rename_i hlt
      split
      · rename_i he
        rw [List.filter_cons_of_neg (by simp [he]), drop (.inl he.symm), hm _ hys']
      · rename_i hne
        have hyx := lt_of_not_lt_of_ne hlt hne
        rw [ih hys', List.filter_cons, List.filter_cons, drop (.inr hyx)]
        simp [hne]

/-- **What is left is what the second list lacks.** -/
theorem without_eq {xs ys : List String} (hx : xs.Pairwise (· < ·)) (hy : ys.Pairwise (· < ·)) :
    without xs ys = xs.filter fun k => !decide (k ∈ ys) := by
  induction xs generalizing ys with
  | nil => rfl
  | cons x xs ih =>
    obtain ⟨hlt, hxs⟩ := List.pairwise_cons.1 hx
    exact withoutFrom_eq (fun _ h => ih hxs h) hlt ys hy

theorem mem_without {xs ys : List String} {k : String} (hx : xs.Pairwise (· < ·))
    (hy : ys.Pairwise (· < ·)) : k ∈ without xs ys ↔ k ∈ xs ∧ k ∉ ys := by
  rw [without_eq hx hy]
  simp

theorem withoutFrom_sublist {x : String} {more : List String → List String} {xs : List String}
    (hm : ∀ ys, List.Sublist (more ys) xs) (ys : List String) :
    List.Sublist (withoutFrom x more ys) (x :: xs) := by
  induction ys with
  | nil => exact (hm _).cons_cons x
  | cons y ys ih =>
    simp only [withoutFrom]
    split
    · exact (hm _).cons_cons x
    · split
      · exact (hm _).cons x
      · exact ih

theorem without_sublist {xs ys : List String} : List.Sublist (without xs ys) xs := by
  induction xs generalizing ys with
  | nil => exact .slnil
  | cons x xs ih => exact withoutFrom_sublist (fun _ => ih) ys

end KeyAudit.Ascending
