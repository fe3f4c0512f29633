/-
Sets of translation keys, kept as strictly ascending lists: every listing shows
keys in this order, and two sets with the same members are the same list.

* `mem_ofList`, `mem_union`, `mem_unions`, `mem_diff` — what each operation does to membership.
* `KeySet.ext_mem` — a set is determined by its members.
-/

import KeyAudit.Ascending

namespace KeyAudit

/-- Translation keys in strictly ascending code point order. -/
structure KeySet where
  keys : List String
  ascending : keys.Pairwise (· < ·)
  deriving DecidableEq

namespace KeySet

instance : Membership String KeySet := ⟨fun s k => k ∈ s.keys⟩

instance (k : String) (s : KeySet) : Decidable (k ∈ s) :=
  inferInstanceAs (Decidable (k ∈ s.keys))

/-- No keys. -/
def empty : KeySet := ⟨[], .nil⟩

/-- The keys in order. -/
def toList (s : KeySet) : List String := s.keys

/-- How many keys. -/
def size (s : KeySet) : Nat := s.keys.length

def isEmpty (s : KeySet) : Bool := s.keys.isEmpty

/-! ### Set operations -/

/-- The set of the keys in a list, in any order and with any repetitions. -/
def ofList (ks : List String) : KeySet :=
  ⟨Ascending.ofList id ks, Ascending.ordered_id.1 (Ascending.ordered_ofList ks)⟩

/-- The keys of either set. -/
def union (s t : KeySet) : KeySet :=
  ⟨Ascending.merge id s.keys t.keys, Ascending.ordered_id.1
    (Ascending.ordered_merge (Ascending.ordered_id.2 s.ascending) (Ascending.ordered_id.2 t.ascending))⟩

/-- The keys of any of the sets. -/
def unions (sets : List KeySet) : KeySet := sets.foldl union empty

/-- The keys of the first set that the second lacks. -/
def diff (s t : KeySet) : KeySet :=
  ⟨Ascending.without s.keys t.keys, s.ascending.sublist Ascending.without_sublist⟩

/-! ### Membership -/

@[simp] theorem mem_keys {s : KeySet} {k : String} : k ∈ s.keys ↔ k ∈ s := Iff.rfl

@[simp] theorem not_mem_empty {k : String} : ¬ k ∈ empty := by
  simp [empty, ← mem_keys]

@[simp] theorem mem_ofList {ks : List String} {x : String} : x ∈ ofList ks ↔ x ∈ ks := by
  have h := @Ascending.mem_keys_ofList String id x ks
  rwa [List.map_id, List.map_id] at h

@[simp] theorem mem_union {s t : KeySet} {x : String} : x ∈ s.union t ↔ x ∈ s ∨ x ∈ t := by
  have h := @Ascending.mem_keys_merge String id x s.keys t.keys
  rwa [List.map_id, List.map_id, List.map_id] at h

theorem mem_foldl_union {α : Type} {f : α → KeySet} {xs : List α} {start : KeySet} {k : String} :
    k ∈ xs.foldl (fun s x => s.union (f x)) start ↔ k ∈ start ∨ ∃ x ∈ xs, k ∈ f x := by
  induction xs generalizing start with
  | nil => simp
  | cons x xs ih =>
    rw [List.foldl_cons, ih, mem_union, or_assoc]
    simp

@[simp] theorem mem_unions {sets : List KeySet} {k : String} :
    k ∈ unions sets ↔ ∃ s ∈ sets, k ∈ s :=
  (mem_foldl_union (f := id)).trans (by simp)

@[simp] theorem mem_diff {s t : KeySet} {x : String} : x ∈ s.diff t ↔ x ∈ s ∧ ¬ x ∈ t :=
  Ascending.mem_without s.ascending t.ascending

/-- **A set is determined by its members.** -/
theorem ext_mem {s t : KeySet} (h : ∀ k, k ∈ s ↔ k ∈ t) : s = t := by
  have hk : s.keys = t.keys := Ascending.eq_of_mem_iff_of_pairwise s.ascending t.ascending h
  cases s
  cases t
  cases hk
  rfl

end KeySet

end KeyAudit
