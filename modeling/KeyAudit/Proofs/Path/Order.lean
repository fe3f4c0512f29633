/-
The order in which paths are listed, said by their components (`Path.Before`): the first
components that differ decide, and a path comes before the paths below it. The character
that separates components in the text plays no part.

`Path.le` compares keys that are made of the components, and says that the other path does
not come before (`le_iff_not_before`). So sorting with it puts paths with different
components in strictly ascending order (`pairwise_before_mergeSort`), of which there is one
for the same paths (`eq_of_pairwise_before`).
-/

import KeyAudit.Path
import Mathlib.Data.List.Lex

namespace KeyAudit.Path

/-! ### The order of components -/

/-- The place of a kind of component among the kinds. -/
def Component.rank : Component → Nat
  | .root => 0
  | .here => 1
  | .up => 2
  | .name _ => 3

/-- The characters of a name; the other kinds have none of their own. -/
def Component.chars : Component → List Char
  | .name s => s
  | _ => []

/-- Components of an earlier kind come first, and of two names the one that is less in the
order of the code points. -/
def Component.Before (c d : Component) : Prop :=
  c.rank < d.rank ∨ c.rank = d.rank ∧ c.chars < d.chars

/-- `p` comes before `q` where they are compared component by component. -/
def Before (p q : Path) : Prop := List.Lex Component.Before p.components q.components

/-- Lists are ordered as their images are, where the images are ordered as the members. -/
theorem lex_map_iff {α β : Type} {r : β → β → Prop} {r' : α → α → Prop} {f : α → β}
    (hf : Function.Injective f) (hr : ∀ a b, r (f a) (f b) ↔ r' a b) {l l' : List α} :
    List.Lex r (l.map f) (l'.map f) ↔ List.Lex r' l l' := by
  induction l generalizing l' with
  | nil =>
      cases l' with
      | nil => simp
      | cons b l' => exact ⟨fun _ => .nil, fun _ => .nil⟩
  | cons a l ih =>
      cases l' with
      | nil => simp
      | cons b l' =>
          rw [List.map_cons, List.map_cons, List.cons_lex_cons_iff, List.cons_lex_cons_iff, hr, ih,
            hf.eq_iff]

theorem toNat_injective : Function.Injective Char.toNat := fun _ _ h => Char.toNat_inj.mp h

/-- Texts are ordered as their code points are. -/
theorem map_toNat_lt_iff {s t : List Char} : s.map Char.toNat < t.map Char.toNat ↔ s < t := by
  rw [← List.lex_lt, ← List.lex_lt]
  exact lex_map_iff toNat_injective fun a b => Iff.rfl

theorem order_eq (c : Component) : c.order = c.rank :: c.chars.map Char.toNat := by
  cases c <;> rfl

theorem order_injective : Function.Injective Component.order := by
  intro c d h
  rw [order_eq, order_eq, List.cons.injEq] at h
  have hchars : c.chars = d.chars := List.map_injective_iff.mpr toNat_injective h.2
  cases c <;> cases d <;> simp_all [Component.rank, Component.chars]

/-- The keys of components are ordered as the components. -/
theorem order_lt_iff (c d : Component) : c.order < d.order ↔ c.Before d := by
  rw [order_eq, order_eq, List.cons_lt_cons_iff, map_toNat_lt_iff, Component.Before]

/-! ### The order of paths -/

theorem order_lt_order_iff {p q : Path} : p.order < q.order ↔ p.Before q := by
  rw [← List.lex_lt, order, order, Before]
  exact lex_map_iff order_injective order_lt_iff

/-- **Of two paths one may be listed first if the other does not come before it.** -/
theorem le_iff_not_before {p q : Path} : p.le q = true ↔ ¬ q.Before p := by
  have hlt : (fun a b : List Nat => a.lex b fun m n => decide (m < n)) =
      fun a b => decide (a < b) := by
    funext a b
    rw [Bool.eq_iff_iff, List.lex_eq_true_iff_lt, decide_eq_true_iff]
  rw [le, hlt, Bool.not_eq_true', ← Bool.not_eq_true, List.lex_eq_true_iff_lt, order_lt_order_iff]

instance (p q : Path) : Decidable (p.Before q) :=
  decidable_of_iff (¬ q.le p = true) (by rw [le_iff_not_before, not_not])

/-- Of two paths with different components one comes first. -/
theorem before_of_not_before {p q : Path} (hne : p.components ≠ q.components)
    (h : ¬ q.Before p) : p.Before q := by
  rw [← order_lt_order_iff] at h ⊢
  rcases lt_trichotomy p.order q.order with hlt | heq | hgt
  · exact hlt
  · exact absurd ((List.map_injective_iff.mpr order_injective) heq) hne
  · exact absurd hgt h

theorem Before.asymm {p q : Path} (h : p.Before q) : ¬ q.Before p := by
  rw [← order_lt_order_iff] at h ⊢
  exact lt_asymm h

theorem Before.ne {p q : Path} (h : p.Before q) : p ≠ q := by
  rintro rfl
  exact h.asymm h

theorem transitive_le {p q r : Path} (hpq : p.le q = true) (hqr : q.le r = true) : p.le r = true := by
  simp only [le_iff_not_before, ← order_lt_order_iff, not_lt] at hpq hqr ⊢
  exact hpq.trans hqr

theorem total_le (p q : Path) : (p.le q || q.le p) = true := by
  simp only [Bool.or_eq_true, le_iff_not_before, ← order_lt_order_iff, not_lt]
  exact le_total _ _

/-! ### Lists of paths -/

/-- **Sorted paths with different components stand in strictly ascending order.** -/
theorem pairwise_before_mergeSort {paths : List Path} (h : (paths.map components).Nodup) :
    (paths.mergeSort le).Pairwise Before := by
  have hsorted : (paths.mergeSort le).Pairwise fun p q => p.le q = true :=
    @List.pairwise_mergeSort Path le (fun _ _ _ => transitive_le) total_le paths
  have hnodup : ((paths.mergeSort le).map components).Nodup :=
    ((List.mergeSort_perm paths le).map components).nodup_iff.mpr h
  have hdistinct : (paths.mergeSort le).Pairwise fun p q => p.components ≠ q.components :=
    List.pairwise_map.mp hnodup
  exact hsorted.imp₂ (fun p q hle hne => before_of_not_before hne (le_iff_not_before.mp hle))
    hdistinct

/-- **The same paths stand in one strictly ascending order.** -/
theorem eq_of_pairwise_before {paths paths' : List Path} (h : paths.Pairwise Before)
    (h' : paths'.Pairwise Before) (hmem : ∀ p, p ∈ paths ↔ p ∈ paths') : paths = paths' := by
  have hperm : paths.Perm paths' :=
    (List.perm_ext_iff_of_nodup (h.imp Before.ne) (h'.imp Before.ne)).mpr hmem
  exact hperm.eq_of_pairwise (fun p q _ _ hpq hqp => absurd hqp hpq.asymm) h h'

end KeyAudit.Path
