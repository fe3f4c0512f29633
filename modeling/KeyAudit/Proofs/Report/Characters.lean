/-
The characters of the lines that tell of an analysis.

The words, rules, marks and numbers of a line are all visible: a control character comes
into a line with a key, and with nothing else (`control_not_mem_keyLine`,
`control_not_mem_summary`). So neither a line feed nor an escape character that ends up in
the output was put there by the report itself.
-/

import KeyAudit.Report

namespace KeyAudit.Report

variable {c : Char}

theorem not_mem_of_visible {s : List Char} (hc : c.toNat < 32)
    (visible : (s.all fun d => 32 ≤ d.toNat) = true) : c ∉ s := by
  intro hm
  have hle := of_decide_eq_true (List.all_eq_true.mp visible c hm)
  exact absurd hc (Nat.not_lt.mpr hle)

/-! ### Numbers -/

theorem control_not_mem_toDigits (hc : c.toNat < 32) (n : Nat) : c ∉ Nat.toDigits 10 n := by
  intro hm
  have hdigit := Nat.isDigit_of_mem_toDigits (by decide) (by decide) hm
  simp only [Char.isDigit, Bool.and_eq_true, decide_eq_true_eq] at hdigit
  have hlow : c.val.toNat < 32 := hc
  have hhigh : 48 ≤ c.val.toNat := UInt32.le_iff_toNat_le.mp hdigit.1
  omega

theorem control_not_mem_fixed (hc : c.toNat < 32) (places : Nat) (x : Decimal.Reading) :
    c ∉ Decimal.fixed places x := by
  have hsign (negative : Bool) : c ∉ (if negative then ['-'] else []) := by
    cases negative with
    | true => exact not_mem_of_visible hc (by decide)
    | false => exact List.not_mem_nil
  cases x with
  | notANumber =>
      rw [Decimal.fixed]
      exact not_mem_of_visible hc (by decide)
  | infinite negative =>
      rw [Decimal.fixed, List.mem_append, not_or]
      exact ⟨hsign negative, not_mem_of_visible hc (by decide)⟩
  | finite x =>
      simp only [Decimal.fixed, List.mem_append, not_or]
      refine ⟨⟨hsign x.negative, control_not_mem_toDigits hc _⟩, ?_⟩
      split
      · exact List.not_mem_nil
      · have hpoint : c ∉ ['.'] := not_mem_of_visible hc (by decide)
        have hzero : c ∉ ['0'] := not_mem_of_visible hc (by decide)
        rw [List.mem_singleton] at hpoint hzero
        simp [Decimal.padded, Decimal.digits, control_not_mem_toDigits hc, hpoint, hzero]

theorem control_not_mem_usageRateText (hc : c.toNat < 32) (rate : Option Float) :
    c ∉ (usageRateText rate).toList := by
  cases rate with
  | none => exact not_mem_of_visible hc (by decide)
  | some rate =>
      rw [usageRateText, String.toList_append, String.toList_ofList, List.mem_append, not_or]
      exact ⟨control_not_mem_fixed hc _ _, not_mem_of_visible hc (by decide)⟩

/-! ### Lines -/

theorem control_not_mem_toString (hc : c.toNat < 32) (n : Nat) : c ∉ (toString n).toList := by
  rw [Nat.toString_eq_repr, Nat.toList_repr]
  exact control_not_mem_toDigits hc n

/-- A line of a key brings along what the key holds. -/
theorem control_not_mem_keyLine (hc : c.toNat < 32) {a : Analysis} {mark key : String}
    (hmark : mark = absentMark ∨ mark = missingMark) (hkey : c ∉ key.toList) :
    c ∉ (keyLine a mark key).toList := by
  have hlabel : ∀ (p : Presence), c ∉ (p.label mark).toList := by
    rintro ⟨en, tr⟩
    rcases hmark with rfl | rfl <;> cases en <;> cases tr <;>
      exact not_mem_of_visible hc (by decide)
  rw [keyLine, String.toList_append, String.toList_append, List.mem_append, List.mem_append,
    not_or, not_or]
  exact ⟨⟨hlabel _, not_mem_of_visible hc (by decide)⟩, hkey⟩

theorem control_not_mem_onlyHeading (hc : c.toNat < 32) (a : Analysis) (l : Locale) :
    c ∉ (onlyHeading a l).toList := by
  have hlabel : c ∉ l.label.toList := by
    cases l <;> exact not_mem_of_visible hc (by decide)
  simp only [onlyHeading, String.toList_append, List.mem_append, not_or]
  exact ⟨⟨⟨not_mem_of_visible hc (by decide), hlabel⟩, not_mem_of_visible hc (by decide)⟩,
    control_not_mem_toString hc _⟩

theorem control_not_mem_summary (hc : c.toNat < 32) (a : Analysis) :
    ∀ s ∈ summary a, c ∉ s.toList := by
  intro s hs
  simp only [summary, List.mem_cons, List.not_mem_nil, or_false] at hs
  rcases hs with rfl | rfl | rfl | rfl <;>
    rw [String.toList_append, List.mem_append, not_or]
  · exact ⟨not_mem_of_visible hc (by decide), control_not_mem_toString hc _⟩
  · exact ⟨not_mem_of_visible hc (by decide), control_not_mem_toString hc _⟩
  · exact ⟨not_mem_of_visible hc (by decide), control_not_mem_toString hc _⟩
  · exact ⟨not_mem_of_visible hc (by decide), control_not_mem_usageRateText hc _⟩

end KeyAudit.Report
