/-
How the keys of an analysis fall into parts.

The keys that some locale defines fall into those of English alone, those of Turkish alone
and those of both; and again into those that are used and those that are not. `KeySet.Splits`
says that sets are parts of another: no two of them share a key, and together they are the
whole. The parts then list every key of the whole once (`KeySet.Splits.perm`), so their
sizes add up, and the share of used keys never exceeds the whole.

* `Analysis.keys_reconciled` — **the laws of an analysis**, for any three sets of keys.
-/

import Mathlib.Data.List.Nodup
import KeyAudit.Analysis

namespace KeyAudit

/-! ### Parts of a set of keys -/

namespace KeySet

/-- The keys that both sets have. -/
def inter (s t : KeySet) : KeySet :=
  ⟨s.keys.filter fun k => decide (k ∈ t), s.ascending.sublist List.filter_sublist⟩

@[simp] theorem mem_inter {s t : KeySet} {k : String} : k ∈ s.inter t ↔ k ∈ s ∧ k ∈ t := by
  rw [← mem_keys, inter, List.mem_filter, decide_eq_true_iff, mem_keys]

/-- No two of the parts share a key, and together they are the set. -/
structure Splits (s : KeySet) (parts : List KeySet) : Prop where
  disjoint : parts.Pairwise fun t u => ∀ k ∈ t, ¬ k ∈ u
  whole : unions parts = s

theorem nodup_keys (s : KeySet) : s.keys.Nodup := Ascending.nodup_of_pairwise s.ascending

/-- **The parts list every key of the set once.** -/
theorem Splits.perm {s : KeySet} {parts : List KeySet} (h : s.Splits parts) :
    s.keys.Perm (parts.flatMap keys) := by
  have hparts : (parts.flatMap keys).Nodup := by
    rw [List.nodup_flatMap]
    refine ⟨fun t _ => t.nodup_keys, h.disjoint.imp ?_⟩
    intro t u hdisjoint k ht hu
    exact hdisjoint k ht hu
  rw [List.perm_ext_iff_of_nodup s.nodup_keys hparts]
  intro k
  rw [mem_keys, ← h.whole, mem_unions, List.mem_flatMap]
  exact Iff.rfl

theorem splits_diff_inter (s t : KeySet) : s.Splits [s.diff t, s.inter t] where
  disjoint := by
    rw [List.pairwise_pair]
    intro k hk hk'
    exact (mem_diff.mp hk).2 (mem_inter.mp hk').2
  whole := by
    apply ext_mem
    intro k
    by_cases hk : k ∈ t <;> simp [hk]

theorem splits_union (s t : KeySet) : (s.union t).Splits [s.diff t, t.diff s, s.inter t] where
  disjoint := by
    simp only [List.pairwise_cons, List.forall_mem_cons, mem_diff, mem_inter]
    refine ⟨⟨?_, ?_, by simp⟩, ⟨?_, by simp⟩, by simp⟩
    · intro k hk hk'
      exact hk.2 hk'.1
    · intro k hk hk'
      exact hk.2 hk'.2
    · intro k hk hk'
      exact hk.2 hk'.1
  whole := by
    apply ext_mem
    intro k
    by_cases hs : k ∈ s <;> by_cases ht : k ∈ t <;> simp [hs, ht]

theorem union_comm (s t : KeySet) : s.union t = t.union s :=
  ext_mem fun k => by rw [mem_union, mem_union, or_comm]

theorem isEmpty_iff {s : KeySet} : s.isEmpty = true ↔ ∀ k, ¬ k ∈ s := by
  rw [isEmpty, List.isEmpty_iff, List.eq_nil_iff_forall_not_mem]
  exact Iff.rfl

theorem size_pos_iff {s : KeySet} : 0 < s.size ↔ s.isEmpty = false := by
  rw [size, isEmpty, List.length_pos_iff, List.isEmpty_eq_false_iff]

end KeySet

/-! ### The laws of an analysis -/

namespace Analysis

variable {a b : Analysis}

/-- The keys that are defined and used. -/
def inUse (a : Analysis) : KeySet := a.all.inter a.used

theorem splits_all (a : Analysis) : a.all.Splits [a.enOnly, a.trOnly, a.en.inter a.tr] :=
  KeySet.splits_union a.en a.tr

theorem splits_used (a : Analysis) : a.all.Splits [a.unused, a.inUse] :=
  KeySet.splits_diff_inter a.all a.used

/-- **Used and unused keys make up the defined ones.** -/
theorem size_unused_add_size_inUse (a : Analysis) : a.unused.size + a.inUse.size = a.all.size := by
  have hperm := a.splits_used.perm
  rw [List.flatMap_cons, List.flatMap_singleton] at hperm
  calc a.unused.size + a.inUse.size
      = (a.unused.keys ++ a.inUse.keys).length := List.length_append.symm
    _ = a.all.size := hperm.length_eq.symm

theorem usedDefined_eq (a : Analysis) : a.usedDefined = a.inUse.size := by
  have hsize := a.size_unused_add_size_inUse
  rw [usedDefined]
  omega

theorem isEmpty_all_iff : a.all.isEmpty = true ↔ a.en.isEmpty = true ∧ a.tr.isEmpty = true := by
  simp only [KeySet.isEmpty_iff, mem_all, not_or, forall_and]

theorem usageRate_eq_none_iff :
    a.usageRate = none ↔ a.en.isEmpty = true ∧ a.tr.isEmpty = true := by
  rw [← isEmpty_all_iff, usageRate]
  split
  · rename_i hempty
    exact iff_of_true rfl hempty
  · rename_i hempty
    exact iff_of_false (fun h => nomatch h) hempty

/-- A share is one of some keys, and of no more than there are. -/
theorem of_usageRate_eq_some {rate : Float} (h : a.usageRate = some rate) :
    rate = a.usedDefined.toFloat / a.all.size.toFloat ∧ 0 < a.all.size ∧
      a.usedDefined ≤ a.all.size := by
  rw [usageRate] at h
  split at h
  · cases h
  · rename_i hempty
    exact ⟨(Option.some.inj h).symm, KeySet.size_pos_iff.mpr (Bool.eq_false_iff.mpr hempty),
      Nat.sub_le _ _⟩

theorem usageRate_congr (all : b.all = a.all) (unused : b.unused = a.unused) :
    b.usageRate = a.usageRate := by
  rw [usageRate, usageRate, usedDefined, usedDefined, all, unused]

/-- What is used beside the defined keys does not show in what is unused. -/
theorem unused_congr {used : KeySet} (h : ∀ k ∈ a.all, k ∈ used ↔ k ∈ a.used) :
    { a with used := used }.unused = a.unused := by
  apply KeySet.ext_mem
  intro k
  have hk : k ∈ a.en ∨ k ∈ a.tr → (k ∈ used ↔ k ∈ a.used) := fun hdefined =>
    h k (mem_all.mpr hdefined)
  rw [mem_unused, mem_unused]
  exact and_congr_right fun hdefined => not_congr (hk hdefined)

/-- The analysis with the locales in each other's place. -/
def swapped (a : Analysis) : Analysis := ⟨a.tr, a.en, a.used⟩

theorem all_swapped (a : Analysis) : a.swapped.all = a.all := KeySet.union_comm a.tr a.en

theorem unused_swapped (a : Analysis) : a.swapped.unused = a.unused := by
  rw [unused, all_swapped]
  rfl

/-- **The laws of an analysis.** The keys of one locale and those of both are the parts of the
defined keys, and so are the used and the unused. Every set is strictly ascending. There are
no more unused keys than defined ones, and the difference counts those in use; so the share is
one of no more than all, and there is none exactly if nothing is defined. What is used and
nowhere defined shows in nothing else, and the locales play the same part. -/
theorem keys_reconciled (a : Analysis) :
    a.all.Splits [a.enOnly, a.trOnly, a.en.inter a.tr] ∧
    a.all.Splits [a.unused, a.inUse] ∧
    (∀ s ∈ [a.all, a.enOnly, a.trOnly, a.en.inter a.tr, a.unused, a.inUse],
      s.toList.Pairwise (· < ·) ∧ s.toList.Nodup) ∧
    a.unused.size ≤ a.all.size ∧
    a.usedDefined + a.unused.size = a.all.size ∧
    a.usedDefined = a.inUse.size ∧
    (∀ rate, a.usageRate = some rate → rate = a.usedDefined.toFloat / a.all.size.toFloat ∧
      0 < a.all.size ∧ a.usedDefined ≤ a.all.size) ∧
    (a.usageRate = none ↔ a.en.isEmpty = true ∧ a.tr.isEmpty = true) ∧
    (∀ used, (∀ k ∈ a.all, k ∈ used ↔ k ∈ a.used) →
      { a with used := used }.all = a.all ∧ { a with used := used }.enOnly = a.enOnly ∧
      { a with used := used }.trOnly = a.trOnly ∧ { a with used := used }.unused = a.unused ∧
      { a with used := used }.usageRate = a.usageRate) ∧
    a.swapped.en = a.tr ∧ a.swapped.tr = a.en ∧ a.swapped.enOnly = a.trOnly ∧
    a.swapped.trOnly = a.enOnly ∧ a.swapped.all = a.all ∧ a.swapped.used = a.used ∧
    a.swapped.unused = a.unused ∧ a.swapped.usageRate = a.usageRate := by
  have hsize := a.size_unused_add_size_inUse
  refine ⟨a.splits_all, a.splits_used, fun s _ => ⟨s.ascending, s.nodup_keys⟩, ?_, ?_,
    a.usedDefined_eq, fun _ => of_usageRate_eq_some, usageRate_eq_none_iff, ?_, rfl, rfl, rfl, rfl,
    a.all_swapped, rfl, a.unused_swapped, usageRate_congr a.all_swapped a.unused_swapped⟩
  · omega
  · rw [usedDefined_eq]
    omega
  · intro used h
    have hunused := unused_congr h
    exact ⟨rfl, rfl, rfl, hunused, usageRate_congr rfl hunused⟩

/-- Three keys, of which `b` is in both locales, `a` is used, and `x` is used and defined
nowhere. -/
def sample : Analysis :=
  ⟨⟨["a", "b"], by decide⟩, ⟨["b", "c"], by decide⟩, ⟨["a", "x"], by decide⟩⟩

/-- The sample has as many keys in use whether or not `x` is among the used keys. -/
theorem keys_reconciled_in_sample :
    (∀ k ∈ sample.all, k ∈ (⟨["a"], by decide⟩ : KeySet) ↔ k ∈ sample.used) ∧
      { sample with used := ⟨["a"], by decide⟩ }.unused = sample.unused ∧
      sample.all.toList = ["a", "b", "c"] ∧ sample.unused.toList = ["b", "c"] ∧
      sample.usedDefined = 1 ∧ sample.swapped.enOnly.toList = ["c"] := by
  have hused : ∀ k ∈ sample.all, k ∈ (⟨["a"], by decide⟩ : KeySet) ↔ k ∈ sample.used := by
    intro k hk
    have hall : ∀ k ∈ sample.all.keys, k ∈ ["a"] ↔ k ∈ ["a", "x"] := by decide
    exact hall k hk
  obtain ⟨-, -, -, -, -, hcount, -, -, hframe, -, -, hswap, -⟩ := keys_reconciled sample
  refine ⟨hused, (hframe _ hused).2.2.2.1, by decide, by decide, ?_, ?_⟩
  · rw [hcount]
    decide
  · rw [hswap]
    decide

end Analysis

end KeyAudit
