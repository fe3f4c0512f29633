/-
Quoted texts, read and passed over.

* `readTextFrom_of_spells` — a text is read however it is spelled.
* `skipTextFrom_of_isTextBody` — whatever may stand between quotes is passed over.
* `skipTextFrom_of_readTextFrom` — a text that is read leaves the same behind it as one that is
  passed over, though the two take a surrogate pair in one step and in two.
-/

import KeyAudit.Json.Skip
import KeyAudit.Proofs.Json.Grammar

namespace KeyAudit.Json

/-! ### Escapes -/

theorem hexValue?_of_hexDigit {c : Char} {n : Nat} (h : HexDigit c n) : hexValue? c = some n := by
  have all : ∀ k < 16, hexValue? (Nat.digitChar k) = some k ∧
      hexValue? (Nat.digitChar k).toUpper = some k := by decide
  obtain ⟨hn, rfl | rfl⟩ := h
  · exact (all n hn).1
  · exact (all n hn).2

theorem readHex_codeUnit {digits : List Char} {n : Nat} (h : CodeUnit digits n) (s : List Char) :
    readHex (digits ++ s) = .ok (n, s) := by
  obtain ⟨ha, hb, hc, hd⟩ := h
  simp only [List.cons_append, List.nil_append, readHex, hexValue?_of_hexDigit ha,
    hexValue?_of_hexDigit hb, hexValue?_of_hexDigit hc, hexValue?_of_hexDigit hd]

theorem CodeUnit.length {digits : List Char} {n : Nat} (h : CodeUnit digits n) :
    digits.length = 4 := by
  obtain ⟨-, -, -, -⟩ := h
  rfl

theorem letterEscape?_of_mem {l c : Char} (h : (l, c) ∈ letterEscapes) :
    l ≠ 'u' ∧ letterEscape? l = some c := by
  have all : ∀ e ∈ letterEscapes, e.1 ≠ 'u' ∧ letterEscape? e.1 = some e.2 := by decide
  exact all _ h

theorem IsPlain.isControl {c : Char} (h : IsPlain c) : isControl c = false := by
  have hle := h.2.2
  rw [Json.isControl, decide_eq_false_iff_not, UInt32.lt_iff_toNat_lt]
  exact Nat.not_lt.mpr hle

theorem readEscape_letter {l c : Char} (h : (l, c) ∈ letterEscapes) (s : List Char) :
    readEscape (l :: s) = .ok (c, 1) := by
  obtain ⟨hu, hl⟩ := letterEscape?_of_mem h
  simp only [readEscape, if_neg hu, hl]

/-- A character is no half of a surrogate pair. -/
theorem surrogate_toNat (c : Char) :
    isLowSurrogate c.toNat = false ∧ isHighSurrogate c.toNat = false := by
  have hvalid : c.toNat < 0xD800 ∨ 0xDFFF < c.toNat ∧ c.toNat < 0x110000 := c.valid
  simp only [isLowSurrogate, isHighSurrogate, Bool.and_eq_false_iff, decide_eq_false_iff_not]
  omega

theorem readEscape_code {c : Char} {digits : List Char} (h : CodeUnit digits c.toNat)
    (s : List Char) : readEscape ('u' :: (digits ++ s)) = .ok (c, 5) := by
  obtain ⟨hlow, hhigh⟩ := surrogate_toNat c
  simp only [readEscape, if_true, readCodePoint, readHex_codeUnit h, hlow, hhigh,
    Bool.false_eq_true, if_false, Char.ofNat_toNat]

theorem readEscape_pair {c : Char} {high low : List Char} {m n : Nat}
    (hhigh : CodeUnit high (0xD800 + m)) (hlow : CodeUnit low (0xDC00 + n)) (hm : m < 0x400)
    (hn : n < 0x400) (hc : c.toNat = 0x10000 + m * 0x400 + n) (s : List Char) :
    readEscape ('u' :: (high ++ '\\' :: 'u' :: (low ++ s))) = .ok (c, 11) := by
  have hfirst : isLowSurrogate (0xD800 + m) = false ∧ isHighSurrogate (0xD800 + m) = true := by
    simp only [isLowSurrogate, isHighSurrogate, Bool.and_eq_false_iff, Bool.and_eq_true,
      decide_eq_false_iff_not, decide_eq_true_iff]
    omega
  have hsecond : isLowSurrogate (0xDC00 + n) = true := by
    simp only [isLowSurrogate, Bool.and_eq_true, decide_eq_true_iff]
    omega
  have hvalue : (0xD800 + m - 0xD800) * 0x400 + (0xDC00 + n - 0xDC00) + 0x10000 = c.toNat := by
    omega
  simp only [readEscape, if_true, readCodePoint, readHex_codeUnit hhigh, hfirst,
    Bool.false_eq_true, if_false, readSecondMark, readHex_codeUnit hlow, hsecond, hvalue,
    Char.ofNat_toNat]

/-! ### Reading -/

/-- **A text is read however it is spelled.** -/
theorem readTextFrom_of_spells {body s : List Char} (h : Spells body s) (rest : List Char) :
    readTextFrom 0 (body ++ '"' :: rest) = .ok (s, rest) := by
  induction h with
  | nil => rfl
  | plain hc _ ih =>
      simp only [List.cons_append, readTextFrom, if_neg hc.1, if_neg hc.2.1, hc.isControl,
        Bool.false_eq_true, if_false, ih]
  | @letter l c s t hl _ ih =>
      have hskip : readTextFrom 1 (l :: (s ++ '"' :: rest)) = .ok (t, rest) := ih
      simp only [List.cons_append]
      rw [readTextFrom_escape (readEscape_letter hl _), hskip]
  | @code c digits s t hcode _ ih =>
      have hskip := readTextFrom_covered ('u' :: digits) (s ++ '"' :: rest)
      rw [List.length_cons, hcode.length, ih] at hskip
      simp only [List.cons_append, List.append_assoc] at hskip ⊢
      rw [readTextFrom_escape (readEscape_code hcode _), hskip]
  | @pair c high low s t m n hhigh hlow hm hn hc _ ih =>
      have hskip := readTextFrom_covered ('u' :: (high ++ '\\' :: 'u' :: low)) (s ++ '"' :: rest)
      rw [List.length_cons, List.length_append, List.length_cons, List.length_cons, hhigh.length,
        hlow.length, ih] at hskip
      simp only [List.cons_append, List.append_assoc] at hskip ⊢
      rw [readTextFrom_escape (readEscape_pair hhigh hlow hm hn hc _), hskip]

theorem readText_of_spells {body : List Char} {s : String} (h : Spells body s.toList)
    (rest : List Char) : readText (body ++ '"' :: rest) = .ok (s, rest) := by
  rw [readText, readTextFrom_of_spells h]
  simp only [String.ofList_toList]

/-! ### Passing over -/

theorem skipTextFrom_covered (l t : List Char) :
    skipTextFrom l.length (l ++ t) = skipTextFrom 0 t := by
  induction l with
  | nil => rfl
  | cons c l ih => exact ih

theorem skipTextFrom_escape {n : Nat} {s : List Char} (h : skipEscape s = .ok n) :
    skipTextFrom 0 ('\\' :: s) = skipTextFrom n s := by
  have hquote : ('\\' : Char) ≠ '"' := by decide
  simp only [skipTextFrom, if_neg hquote, if_true, h]

theorem skipTextFrom_letter {l c : Char} (h : (letterEscape? l = some c)) (hu : l ≠ 'u')
    (s : List Char) : skipTextFrom 0 ('\\' :: l :: s) = skipTextFrom 0 s := by
  have hescape : skipEscape (l :: s) = .ok 1 := by simp only [skipEscape, if_neg hu, h]
  exact skipTextFrom_escape hescape

/-- Four hexadecimal digits of an escape are passed over, whatever their value. -/
theorem skipTextFrom_code {digits s : List Char} {n : Nat} (hlength : digits.length = 4)
    (h : readHex (digits ++ s) = .ok (n, s)) :
    skipTextFrom 0 ('\\' :: 'u' :: (digits ++ s)) = skipTextFrom 0 s := by
  have hescape : skipEscape ('u' :: (digits ++ s)) = .ok 5 := by
    simp only [skipEscape, if_true, h]
  have hskip := skipTextFrom_covered ('u' :: digits) s
  rw [List.length_cons, hlength] at hskip
  rw [skipTextFrom_escape hescape]
  exact hskip

/-- **Whatever may stand between quotes is passed over.** -/
theorem skipTextFrom_of_isTextBody {body : List Char} (h : IsTextBody body) (rest : List Char) :
    skipTextFrom 0 (body ++ '"' :: rest) = .ok ((), rest) := by
  induction h with
  | nil => rfl
  | plain hc _ ih =>
      simp only [List.cons_append, skipTextFrom, if_neg hc.1, if_neg hc.2.1, hc.isControl,
        Bool.false_eq_true, if_false, ih]
  | letter hl _ ih =>
      obtain ⟨hu, hletter⟩ := letterEscape?_of_mem hl
      exact (skipTextFrom_letter hletter hu _).trans ih
  | code hcode _ ih =>
      simp only [List.cons_append, List.append_assoc]
      exact (skipTextFrom_code hcode.length (readHex_codeUnit hcode _)).trans ih

/-! ### Both alike -/

theorem exists_of_readHex {s r : List Char} {n : Nat} (h : readHex s = .ok (n, r)) :
    ∃ digits, digits.length = 4 ∧ s = digits ++ r := by
  unfold readHex at h
  split at h
  · rename_i a b c d t
    split at h
    · obtain ⟨-, rfl⟩ := Prod.mk.inj (Except.ok.inj h)
      exact ⟨[a, b, c, d], rfl, rfl⟩
    · cases h
  · cases h

theorem eq_of_readSecondMark {s r : List Char} (h : readSecondMark s = .ok ((), r)) :
    s = '\\' :: 'u' :: r := by
  unfold readSecondMark at h
  split at h
  · cases h
  · split at h
    · cases h
    · obtain ⟨-, rfl⟩ := Prod.mk.inj (Except.ok.inj h)
      rfl
    · cases h
  · cases h

/-- The escape of a character is passed over whole, be it one code unit or two. -/
theorem skipTextFrom_of_readCodePoint {s : List Char} {x : Char} {n : Nat}
    (h : readCodePoint s = .ok (x, n)) :
    skipTextFrom 0 ('\\' :: 'u' :: s) = skipTextFrom n s := by
  unfold readCodePoint at h
  split at h
  · cases h
  rename_i u r hfirst
  obtain ⟨digits, hdigits, rfl⟩ := exists_of_readHex hfirst
  have hone := skipTextFrom_code hdigits hfirst
  split at h
  · cases h
  split at h
  · split at h
    · cases h
    rename_i r' hmark
    -- Both halves of the pair are read at once, and passed over one after the other.
    obtain rfl := eq_of_readSecondMark hmark
    split at h
    · cases h
    rename_i v r'' hsecond
    obtain ⟨digits', hdigits', rfl⟩ := exists_of_readHex hsecond
    split at h
    · obtain ⟨-, rfl⟩ := Prod.mk.inj (Except.ok.inj h)
      have hskip := skipTextFrom_covered (digits ++ '\\' :: 'u' :: digits') r''
      rw [List.length_append, List.length_cons, List.length_cons, hdigits, hdigits'] at hskip
      simp only [List.append_assoc, List.cons_append] at hskip
      rw [hone, skipTextFrom_code hdigits' hsecond]
      exact hskip.symm
    · cases h
  · obtain ⟨-, rfl⟩ := Prod.mk.inj (Except.ok.inj h)
    have hskip := skipTextFrom_covered digits r
    rw [hdigits] at hskip
    rw [hone, hskip]

theorem skipTextFrom_of_readEscape {s : List Char} {x : Char} {n : Nat}
    (h : readEscape s = .ok (x, n)) : skipTextFrom 0 ('\\' :: s) = skipTextFrom n s := by
  unfold readEscape at h
  split at h
  · cases h
  rename_i c s
  split at h
  · rename_i hc
    subst hc
    split at h
    · rename_i y k hcode
      obtain ⟨-, rfl⟩ := Prod.mk.inj (Except.ok.inj h)
      exact skipTextFrom_of_readCodePoint hcode
    · cases h
  · rename_i hu
    split at h
    · rename_i y hletter
      obtain ⟨-, rfl⟩ := Prod.mk.inj (Except.ok.inj h)
      exact skipTextFrom_letter hletter hu s
    · cases h

/-- **A text that is read leaves the same behind it as one that is passed over.** -/
theorem skipTextFrom_of_readTextFrom {k : Nat} {s xs r : List Char}
    (h : readTextFrom k s = .ok (xs, r)) : skipTextFrom k s = .ok ((), r) := by
  induction s generalizing k xs with
  | nil => cases k <;> cases h
  | cons c s ih =>
      cases k with
      | succ k => exact ih h
      | zero =>
          unfold readTextFrom at h
          split at h
          · rename_i hquote
            obtain ⟨-, rfl⟩ := Prod.mk.inj (Except.ok.inj h)
            exact if_pos hquote
          rename_i hquote
          split at h
          · rename_i hslash
            subst hslash
            split at h
            · cases h
            rename_i x n hescape
            split at h
            · cases h
            rename_i ys t hlater
            obtain ⟨-, rfl⟩ := Prod.mk.inj (Except.ok.inj h)
            rw [skipTextFrom_of_readEscape hescape]
            exact ih hlater
          rename_i hslash
          split at h
          · cases h
          rename_i hcontrol
          split at h
          · cases h
          rename_i ys t hlater
          obtain ⟨-, rfl⟩ := Prod.mk.inj (Except.ok.inj h)
          simp only [skipTextFrom, if_neg hquote, if_neg hslash, if_neg hcontrol]
          exact ih hlater

theorem skipText_of_readText {s r : List Char} {x : String} (h : readText s = .ok (x, r)) :
    skipText s = .ok ((), r) := by
  unfold readText at h
  split at h
  · rename_i xs t htext
    obtain ⟨-, rfl⟩ := Prod.mk.inj (Except.ok.inj h)
    exact skipTextFrom_of_readTextFrom htext
  · cases h

end KeyAudit.Json
