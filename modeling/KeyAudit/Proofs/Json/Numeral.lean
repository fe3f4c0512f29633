/-
The digits of a natural number are read back as that number, where it fits 64 bits and
nothing behind the digits could belong to it (`readNumber_toDigits`).
-/

import KeyAudit.Json.Numeral

namespace KeyAudit.Json

/-! ### The value of digits -/

theorem le_ofDigitChars {cs : List Char} {n : Nat} : n ≤ Nat.ofDigitChars 10 cs n := by
  induction cs generalizing n with
  | nil => exact Nat.le_refl n
  | cons c cs ih =>
      rw [Nat.ofDigitChars_cons]
      have hstep : n ≤ 10 * n + (c.toNat - '0'.toNat) := by omega
      exact Nat.le_trans hstep ih

/-- Digits whose value stays within the bound are all taken in. -/
theorem gather_eq {bound n : Nat} {cs : List Char} (h : Nat.ofDigitChars 10 cs n ≤ bound) :
    gather bound n cs = (Nat.ofDigitChars 10 cs n, []) := by
  induction cs generalizing n with
  | nil => rfl
  | cons c cs ih =>
      have hvalue : n * 10 + digitValue c = 10 * n + (c.toNat - '0'.toNat) := by
        rw [Nat.mul_comm]
        rfl
      rw [Nat.ofDigitChars_cons] at h ⊢
      rw [gather, hvalue, if_pos (Nat.le_trans le_ofDigitChars h), ih h]

theorem isDigit_of_mem_toDigits {n : Nat} {c : Char} (h : c ∈ Nat.toDigits 10 n) :
    c.isDigit = true :=
  Nat.isDigit_of_mem_toDigits (by decide) (by decide) h

theorem isSpace_of_isDigit {c : Char} (h : c.isDigit = true) : isSpace c = false := by
  cases hspace : isSpace c with
  | false => rfl
  | true =>
      simp only [isSpace, Bool.or_eq_true, beq_iff_eq] at hspace
      rcases hspace with ((rfl | rfl) | rfl) | rfl <;> exact absurd h (by decide)

/-- Only zero begins with the digit zero. -/
theorem toDigits_ne_zero_cons {n : Nat} (hn : 0 < n) (r : List Char) :
    Nat.toDigits 10 n ≠ '0' :: r := by
  induction n using Nat.strongRecOn generalizing r with
  | ind n ih =>
      by_cases hlt : n < 10
      · rw [Nat.toDigits_of_lt_base hlt]
        intro h
        have hdigit : ∀ k < 10, Nat.digitChar k = '0' → k = 0 := by decide
        have hzero := hdigit n hlt (List.cons.inj h).1
        omega
      · rw [Nat.toDigits_of_base_le (by decide) (by omega)]
        intro h
        cases hhead : Nat.toDigits 10 (n / 10) with
        | nil => exact Nat.toDigits_ne_nil hhead
        | cons c cs =>
            rw [hhead, List.cons_append] at h
            rw [(List.cons.inj h).1] at hhead
            exact ih (n / 10) (by omega) (by omega) cs hhead

/-! ### Reading digits -/

/-- No number goes on into this text. -/
def endsNumber : List Char → Bool
  | [] => true
  | c :: _ => !c.isDigit && c != '.' && c != 'e' && c != 'E'

theorem readTail_of_endsNumber {negative : Bool} {n : Nat} {rest : List Char}
    (h : endsNumber rest = true) : readTail negative n 0 rest = .ok (integer negative n, rest) := by
  cases rest with
  | nil => rfl
  | cons c rest =>
      simp only [endsNumber, Bool.and_eq_true, Bool.not_eq_true', bne_iff_ne] at h
      obtain ⟨⟨⟨-, hpoint⟩, hsmall⟩, hlarge⟩ := h
      unfold readTail
      split
      · rename_i heq
        exact absurd (List.cons.inj heq).1 hpoint
      · rename_i heq
        exact absurd (List.cons.inj heq).1 hsmall
      · rename_i heq
        exact absurd (List.cons.inj heq).1 hlarge
      · exact if_pos rfl

theorem takeWhile_isDigit {rest : List Char} (h : endsNumber rest = true) (n : Nat) :
    (Nat.toDigits 10 n ++ rest).takeWhile Char.isDigit = Nat.toDigits 10 n ∧
      (Nat.toDigits 10 n ++ rest).dropWhile Char.isDigit = rest := by
  have hdigits : ∀ c ∈ Nat.toDigits 10 n, c.isDigit = true := fun c => isDigit_of_mem_toDigits
  rw [List.takeWhile_append_of_pos hdigits, List.dropWhile_append_of_pos hdigits]
  cases rest with
  | nil => exact ⟨List.append_nil _, rfl⟩
  | cons c rest =>
      simp only [endsNumber, Bool.and_eq_true, Bool.not_eq_true'] at h
      have hc : ¬ c.isDigit = true := by simp [h.1.1.1]
      rw [List.takeWhile_cons_of_neg hc, List.dropWhile_cons_of_neg hc]
      exact ⟨List.append_nil _, rfl⟩

/-- **The digits of a number are read back.** -/
theorem readNumber_toDigits {n : Nat} {rest : List Char} (hn : n ≤ maxWord)
    (hrest : endsNumber rest = true) :
    readNumber false (Nat.toDigits 10 n ++ rest) = .ok (.int n, rest) := by
  have htail := @readTail_of_endsNumber false n rest hrest
  obtain ⟨htake, hdrop⟩ := takeWhile_isDigit hrest n
  by_cases hzero : n = 0
  · subst hzero
    change readNumber false ('0' :: rest) = _
    cases rest with
    | nil => exact htail
    | cons c rest =>
        simp only [endsNumber, Bool.and_eq_true, Bool.not_eq_true'] at hrest
        simp only [readNumber, hrest.1.1.1, Bool.false_eq_true, if_false]
        exact htail
  · cases hdigits : Nat.toDigits 10 n with
    | nil => exact absurd hdigits Nat.toDigits_ne_nil
    | cons c cs =>
        have hc : c ≠ '0' := by
          rintro rfl
          exact toDigits_ne_zero_cons (Nat.pos_of_ne_zero hzero) cs hdigits
        have hdigit : c.isDigit = true := isDigit_of_mem_toDigits (hdigits ▸ List.mem_cons_self)
        have hvalue : Nat.ofDigitChars 10 (c :: cs) 0 = n := by
          rw [← hdigits]
          exact Nat.ofDigitChars_toDigits (by decide) (by decide)
        have hgather := gather_eq (Nat.le_trans (Nat.le_of_eq hvalue) hn)
        rw [hvalue] at hgather
        rw [hdigits, List.cons_append] at htake hdrop
        rw [List.cons_append]
        unfold readNumber
        split
        · rename_i heq
          cases heq
        · rename_i heq
          exact absurd (List.cons.inj heq).1 hc
        · rename_i heq
          cases heq
          simp only [hdigit, if_true, htake, hdrop, hgather]
          exact htail

end KeyAudit.Json
