/-
Where references stand in a text (`Reference.Occurs`, `Reference.References`), said
by the characters around a key alone and not by a scan.

A scan from left to right goes on behind each reference it finds, so it could miss one
that begins inside another. It does not: behind its first character a reference holds no
`t(` (`not_startsCall_drop_of_callAt`), and so a scan finds what a look at every
position finds (`scan_eq_of_free`).

* `mem_scan_iff_occurs` — one scan finds exactly the keys of the references that are
  closed in its way.
* `mem_referencedKeys_iff` — **the keys of a text are exactly those it references.**
* `scan_append_newline`, `occurs_newline_iff` — a reference stands within one line.
-/

import KeyAudit.Reference
import KeyAudit.Text.Blank

namespace KeyAudit.Reference

/-! ### The grammar of a reference -/

/-- An ASCII letter. -/
def IsLetter (c : Char) : Prop := ('a' ≤ c ∧ c ≤ 'z') ∨ ('A' ≤ c ∧ c ≤ 'Z')

/-- A letter, a digit, or one of `.`, `_` and `-`. -/
def IsInnerChar (c : Char) : Prop :=
  IsLetter c ∨ ('0' ≤ c ∧ c ≤ '9') ∨ c = '.' ∨ c = '_' ∨ c = '-'

/-- A key begins with a letter. -/
def IsKey (key : List Char) : Prop :=
  ∃ c cs, key = c :: cs ∧ IsLetter c ∧ ∀ d ∈ cs, IsInnerChar d

/-- Either quote may stand on either side of a key. -/
def IsQuote (c : Char) : Prop := c = '\'' ∨ c = '"'

/-- The text behind the closing quote closes the reference: a mark follows, or the end
of the line, before which a carriage return may stand. -/
def Closes : Closing → List Char → Prop
  | .mark, rest => ∃ c s, rest = c :: s ∧ (c = ')' ∨ c = ',')
  | .lineEnd, rest => ∃ cr s, rest = cr ++ s ∧ (cr = [] ∨ cr = ['\r']) ∧
      (s = [] ∨ ∃ s', s = '\n' :: s')

/-- A word may begin behind this text: it is empty or ends outside a word. -/
def WordBegins (before : List Char) : Prop :=
  ∀ c, before.getLast? = some c → Text.isWordChar c = false

/-- A call up to its closing quote. -/
def call (q : Char) (key : List Char) (q' : Char) : List Char := 't' :: '(' :: q :: (key ++ [q'])

/-- A reference to the key, closed in this way, stands somewhere in the text. -/
def Occurs (closing : Closing) (text key : List Char) : Prop :=
  IsKey key ∧ ∃ before q q' rest, text = before ++ (call q key q' ++ rest) ∧
    WordBegins before ∧ IsQuote q ∧ IsQuote q' ∧ Closes closing rest

/-- A reference to the key, closed in either way, stands somewhere in the text. -/
def References (text key : List Char) : Prop := ∃ closing, Occurs closing text key

/-! ### The tests decide the grammar -/

theorem isKeyHead_iff {c : Char} : isKeyHead c = true ↔ IsLetter c := by
  have hranges : isKeyHead c = (decide ('A'.val ≤ c.val ∧ c.val ≤ 'Z'.val) ||
      (decide ('a'.val ≤ c.val) && decide (c.val ≤ 'z'.val))) := rfl
  rw [hranges, IsLetter]
  simp only [Bool.or_eq_true, Bool.and_eq_true, decide_eq_true_eq, Char.le_def]
  exact or_comm

theorem isKeyChar_iff {c : Char} : isKeyChar c = true ↔ IsInnerChar c := by
  simp only [isKeyChar, Char.isAlphanum, Bool.or_eq_true, beq_iff_eq, IsInnerChar, or_assoc]
  rw [show c.isAlpha = true ↔ IsLetter c from isKeyHead_iff]
  simp only [Char.isDigit, Bool.and_eq_true, decide_eq_true_eq, Char.le_def, ge_iff_le]

theorem isKey_iff {key : List Char} : isKey key = true ↔ IsKey key := by
  cases key with
  | nil => simp [isKey, IsKey]
  | cons c cs =>
      simp only [isKey, Bool.and_eq_true, List.all_eq_true, isKeyHead_iff, isKeyChar_iff, IsKey]
      constructor
      · rintro ⟨hc, hcs⟩
        exact ⟨c, cs, rfl, hc, hcs⟩
      · rintro ⟨d, ds, he, hd, hds⟩
        cases he
        exact ⟨hd, hds⟩

theorem isQuote_iff {c : Char} : isQuote c = true ↔ IsQuote c := by
  simp [isQuote, IsQuote]

theorem length?_mark_iff {rest : List Char} :
    (∃ n, Closing.mark.length? rest = some n) ↔ Closes .mark rest := by
  cases rest with
  | nil => simp [Closing.length?, Closes]
  | cons c s =>
      simp only [Closing.length?, Bool.or_eq_true, beq_iff_eq, Closes]
      constructor
      · rintro ⟨n, hn⟩
        split at hn
        · exact ⟨c, s, rfl, ‹_›⟩
        · cases hn
      · rintro ⟨d, s', he, hd⟩
        cases he
        exact ⟨1, if_pos hd⟩

theorem length?_lineEnd_iff {rest : List Char} :
    (∃ n, Closing.lineEnd.length? rest = some n) ↔ Closes .lineEnd rest := by
  constructor
  · rintro ⟨n, hn⟩
    unfold Closing.length? at hn
    split at hn
    · cases ‹Closing.lineEnd = .mark›
    · cases ‹Closing.lineEnd = .mark›
    · exact ⟨[], [], rfl, .inl rfl, .inl rfl⟩
    · exact ⟨[], _, rfl, .inl rfl, .inr ⟨_, rfl⟩⟩
    · exact ⟨['\r'], [], rfl, .inr rfl, .inl rfl⟩
    · exact ⟨['\r'], _, rfl, .inr rfl, .inr ⟨_, rfl⟩⟩
    · cases hn
  · rintro ⟨cr, s, rfl, rfl | rfl, rfl | ⟨s', rfl⟩⟩ <;> exact ⟨_, rfl⟩

/-- A reference has a length exactly where the text closes it. -/
theorem length?_iff_closes {closing : Closing} {rest : List Char} :
    (∃ n, closing.length? rest = some n) ↔ Closes closing rest := by
  cases closing with
  | mark => exact length?_mark_iff
  | lineEnd => exact length?_lineEnd_iff

/-! ### The reference at the start of a text -/

/-- A quote ends a key. -/
theorem isKeyChar_of_isQuote {c : Char} (h : isQuote c = true) : isKeyChar c = false := by
  rcases isQuote_iff.mp h with rfl | rfl <;> decide

/-- Every character of a key may stand inside one. -/
theorem isKeyChar_of_isKey {key : List Char} (h : isKey key = true) :
    ∀ c ∈ key, isKeyChar c = true := by
  obtain ⟨c, cs, rfl, hc, hcs⟩ := isKey_iff.mp h
  intro d hd
  rcases List.mem_cons.mp hd with rfl | hd
  · exact isKeyChar_iff.mpr (.inl hc)
  · exact isKeyChar_iff.mpr (hcs d hd)

/-- **The reference at the start of a text is the one that its characters spell.** -/
theorem callAt_eq_some_iff {closing : Closing} {s key : List Char} {length : Nat} :
    callAt closing s = some (key, length) ↔
      ∃ q q' rest n, s = call q key q' ++ rest ∧ isQuote q = true ∧ isKey key = true ∧
        isQuote q' = true ∧ closing.length? rest = some n ∧ length = key.length + n + 4 := by
  constructor
  · intro h
    unfold callAt at h
    split at h
    · rename_i q s
      simp only at h
      split at h
      · rename_i q' rest hrest
        split at h
        · rename_i hparts
          obtain ⟨n, hn, hkey⟩ := Option.map_eq_some_iff.mp h
          cases hkey
          simp only [Bool.and_eq_true] at hparts
          refine ⟨q, q', rest, n, ?_, hparts.1.1, hparts.1.2, hparts.2, hn, rfl⟩
          calc 't' :: '(' :: q :: s
              = 't' :: '(' :: q :: (s.takeWhile isKeyChar ++ q' :: rest) := by
                rw [← hrest, List.takeWhile_append_dropWhile]
            _ = call q (s.takeWhile isKeyChar) q' ++ rest := by simp [call]
        · cases h
      · cases h
    · cases h
  · rintro ⟨q, q', rest, n, rfl, hq, hkey, hq', hn, rfl⟩
    have hall := isKeyChar_of_isKey hkey
    have hstop := isKeyChar_of_isQuote hq'
    have htake : (key ++ q' :: rest).takeWhile isKeyChar = key := by
      rw [List.takeWhile_append_of_pos hall, List.takeWhile_cons_of_neg (by simp [hstop]),
        List.append_nil]
    have hdrop : (key ++ q' :: rest).dropWhile isKeyChar = q' :: rest := by
      rw [List.dropWhile_append_of_pos hall, List.dropWhile_cons_of_neg (by simp [hstop])]
    simp [call, callAt, htake, hdrop, hq, hkey, hq', hn]

/-- A reference to the key is found at the start of a text exactly where the text spells one. -/
theorem exists_callAt_iff {closing : Closing} {s key : List Char} :
    (∃ n, callAt closing s = some (key, n)) ↔
      IsKey key ∧ ∃ q q' rest, IsQuote q ∧ IsQuote q' ∧ s = call q key q' ++ rest ∧
        Closes closing rest := by
  constructor
  · rintro ⟨length, hcall⟩
    obtain ⟨q, q', rest, n, rfl, hq, hkey, hq', hn, -⟩ := callAt_eq_some_iff.mp hcall
    exact ⟨isKey_iff.mp hkey, q, q', rest, isQuote_iff.mp hq, isQuote_iff.mp hq', rfl,
      length?_iff_closes.mp ⟨n, hn⟩⟩
  · rintro ⟨hkey, q, q', rest, hq, hq', rfl, hrest⟩
    obtain ⟨n, hn⟩ := length?_iff_closes.mpr hrest
    exact ⟨_, callAt_eq_some_iff.mpr ⟨q, q', rest, n, rfl, isQuote_iff.mpr hq, isKey_iff.mpr hkey,
      isQuote_iff.mpr hq', hn, rfl⟩⟩

/-! ### Nothing is missed behind a reference -/

/-- `t(` stands at the start. -/
def StartsCall (s : List Char) : Prop := ∃ r, s = 't' :: '(' :: r

theorem startsCall_of_callAt {closing : Closing} {s : List Char} {r : List Char × Nat}
    (h : callAt closing s = some r) : StartsCall s := by
  obtain ⟨q, q', rest, n, rfl, -⟩ := callAt_eq_some_iff.mp h
  exact ⟨_, rfl⟩

/-- In a text without `(` that does not end in `t`, no call starts, whatever follows. -/
theorem not_startsCall_drop {u rest : List Char} (hp : '(' ∉ u) (hl : u.getLast? ≠ some 't') :
    ∀ i < u.length, ¬ StartsCall ((u ++ rest).drop i) := by
  induction u with
  | nil =>
      intro i hi
      cases hi
  | cons c u ih =>
      intro i hi
      cases i with
      | zero =>
          rintro ⟨r, hr⟩
          simp only [List.drop_zero, List.cons_append, List.cons.injEq] at hr
          cases u with
          | nil => exact hl (by simp [hr.1])
          | cons d u =>
              simp only [List.cons_append, List.cons.injEq] at hr
              exact hp (by simp [hr.2.1])
      | succ i =>
          have hp' : '(' ∉ u := fun h => hp (List.mem_cons_of_mem c h)
          have hl' : u.getLast? ≠ some 't' := by
            intro h
            cases u with
            | nil => cases h
            | cons d u => exact hl (by rwa [List.getLast?_cons_cons])
          exact ih hp' hl' i (Nat.lt_of_succ_lt_succ hi)

/-- What closes a reference: nothing, a mark, or a carriage return. -/
theorem take_of_length? {closing : Closing} {rest : List Char} {n : Nat}
    (h : closing.length? rest = some n) :
    ∃ u r, rest = u ++ r ∧ u.length = n ∧ '(' ∉ u ∧ 't' ∉ u := by
  unfold Closing.length? at h
  split at h
  · split at h
    · rename_i hc
      cases h
      simp only [Bool.or_eq_true, beq_iff_eq] at hc
      refine ⟨[_], _, rfl, rfl, ?_, ?_⟩ <;> rcases hc with rfl | rfl <;> decide
    · cases h
  · cases h
  · cases h; exact ⟨[], _, rfl, rfl, by simp, by simp⟩
  · cases h; exact ⟨[], _, rfl, rfl, by simp, by simp⟩
  · cases h; exact ⟨['\r'], _, rfl, rfl, by decide, by decide⟩
  · cases h; exact ⟨['\r'], _, rfl, rfl, by decide, by decide⟩
  · cases h

/-- Behind its first character, a reference holds no place where another starts. -/
theorem not_startsCall_drop_of_callAt {closing : Closing} {c : Char} {cs key : List Char}
    {length : Nat} (h : callAt closing (c :: cs) = some (key, length)) :
    ∀ i < length - 1, ¬ StartsCall (cs.drop i) := by
  obtain ⟨q, q', rest, n, hs, hq, hkey, hq', hn, rfl⟩ := callAt_eq_some_iff.mp h
  obtain ⟨u, r, rfl, rfl, hpu, htu⟩ := take_of_length? hn
  simp only [call, List.cons_append, List.cons.injEq] at hs
  obtain ⟨rfl, rfl⟩ := hs
  have hp : '(' ∉ q :: (key ++ [q'] ++ u) := by
    have hpq : '(' ≠ q := by rintro rfl; revert hq; decide
    have hpq' : '(' ≠ q' := by rintro rfl; revert hq'; decide
    have hpk : '(' ∉ key := fun hm => absurd (isKeyChar_of_isKey hkey _ hm) (by decide)
    simp [hpq, hpq', hpk, hpu]
  have hl : (q :: (key ++ [q'] ++ u)).getLast? ≠ some 't' := by
    intro hlast
    rw [← List.cons_append, ← List.cons_append, List.getLast?_append, List.getLast?_append] at hlast
    cases hu : u.getLast? with
    | none =>
        rw [hu] at hlast
        simp only [Option.none_or, List.getLast?_singleton, Option.some_or,
          Option.some.injEq] at hlast
        subst hlast
        revert hq'
        decide
    | some d =>
        rw [hu] at hlast
        simp only [Option.some_or, Option.some.injEq] at hlast
        subst hlast
        exact htu (List.mem_of_getLast? hu)
  intro i hi
  cases i with
  | zero =>
      rintro ⟨r', hr'⟩
      simp at hr'
  | succ i =>
      have hlen : (q :: (key ++ [q'] ++ u)).length = key.length + u.length + 2 := by
        simp only [List.length_cons, List.length_append, List.length_nil]
        omega
      have hfree : ¬ StartsCall (((q :: (key ++ [q'] ++ u)) ++ r).drop i) :=
        not_startsCall_drop hp hl i (by omega)
      simpa using hfree

/-- A scan that passes over places where no call starts misses nothing. The induction is
on what is passed over; the character before the text plays no part there. -/
theorem scan_eq_of_free {closing : Closing} {covered : Nat} {before : Option Char}
    {text : List Char} (h : ∀ i < covered, ¬ StartsCall (text.drop i)) :
    scan closing covered before text = scan closing 0 before text := by
  induction covered generalizing before text with
  | zero => rfl
  | succ covered ih =>
      cases text with
      | nil => simp [scan]
      | cons c cs =>
          have hnone : callAt closing (c :: cs) = none := by
            apply Option.eq_none_iff_forall_ne_some.mpr
            intro r hr
            exact h 0 (Nat.succ_pos covered) (startsCall_of_callAt hr)
          have hrest : ∀ i < covered, ¬ StartsCall (cs.drop i) :=
            fun i hi => h (i + 1) (Nat.succ_lt_succ hi)
          simp [scan, hnone, ih hrest]

/-- The character before what is left, when `skipped` was passed behind `before`. -/
def lastOf (before : Option Char) (skipped : List Char) : Option Char :=
  skipped.getLast?.or before

theorem lastOf_cons {before : Option Char} {c : Char} {skipped : List Char} :
    lastOf before (c :: skipped) = lastOf (some c) skipped := by
  cases skipped with
  | nil => simp [lastOf]
  | cons d skipped => simp [lastOf, List.getLast?_cons]

/-- The key of the reference that begins here, if one does. -/
def keyHere (closing : Closing) (before : Option Char) (s : List Char) : List (List Char) :=
  if beginsWord before then ((callAt closing s).map Prod.fst).toList else []

theorem mem_keyHere_iff {closing : Closing} {before : Option Char} {s key : List Char} :
    key ∈ keyHere closing before s ↔
      beginsWord before = true ∧ ∃ n, callAt closing s = some (key, n) := by
  rw [keyHere]
  split
  · rename_i hb
    simp [hb]
  · rename_i hb
    simp [hb]

/-- What begins here is told by the keys that the text spells at its start. -/
theorem keyHere_congr {closing : Closing} {before : Option Char} {s s' : List Char}
    (h : ∀ key, (∃ n, callAt closing s = some (key, n)) ↔ ∃ n, callAt closing s' = some (key, n)) :
    keyHere closing before s = keyHere closing before s' := by
  have hkeys : (callAt closing s).map Prod.fst = (callAt closing s').map Prod.fst := by
    apply Option.ext
    intro key
    simpa using h key
  rw [keyHere, keyHere, hkeys]

/-- Every reference begins with a `t`. -/
theorem keyHere_eq_nil {closing : Closing} {before : Option Char} {c : Char} {s : List Char}
    (hc : c ≠ 't') : keyHere closing before (c :: s) = [] := by
  rw [List.eq_nil_iff_forall_not_mem]
  intro key hkey
  obtain ⟨-, n, hcall⟩ := mem_keyHere_iff.mp hkey
  obtain ⟨r, hr⟩ := startsCall_of_callAt hcall
  exact hc (List.cons.inj hr).1

/-- **Whatever a reference covers, a scan finds what stands here and then what stands behind
this character.** -/
theorem scan_cons {closing : Closing} {before : Option Char} {c : Char} {cs : List Char} :
    scan closing 0 before (c :: cs) =
      keyHere closing before (c :: cs) ++ scan closing 0 (some c) cs := by
  rw [scan, keyHere]
  split
  · cases hcall : callAt closing (c :: cs) with
    | none => rfl
    | some found =>
        obtain ⟨key, length⟩ := found
        exact congrArg (key :: ·) (scan_eq_of_free (not_startsCall_drop_of_callAt hcall))
  · rfl

/-- **A scan finds the reference at every position.** -/
theorem mem_scan_iff {closing : Closing} {before : Option Char} {text key : List Char} :
    key ∈ scan closing 0 before text ↔
      ∃ skipped rest n, text = skipped ++ rest ∧ beginsWord (lastOf before skipped) = true ∧
        callAt closing rest = some (key, n) := by
  induction text generalizing before with
  | nil =>
      simp only [scan, List.not_mem_nil, false_iff]
      rintro ⟨skipped, rest, n, he, -, hcall⟩
      obtain ⟨-, rfl⟩ := List.append_eq_nil_iff.mp he.symm
      cases hcall
  | cons c cs ih =>
      rw [scan_cons, List.mem_append, mem_keyHere_iff, ih]
      constructor
      · rintro (⟨hb, n, hcall⟩ | ⟨skipped, rest, n, rfl, hb, hcall⟩)
        · exact ⟨[], c :: cs, n, rfl, hb, hcall⟩
        · exact ⟨c :: skipped, rest, n, rfl, by rwa [lastOf_cons], hcall⟩
      · rintro ⟨skipped, rest, n, he, hb, hcall⟩
        cases skipped with
        | nil =>
            cases he
            exact .inl ⟨hb, n, hcall⟩
        | cons d skipped =>
            cases he
            exact .inr ⟨skipped, rest, n, rfl, by rwa [lastOf_cons] at hb, hcall⟩

theorem beginsWord_iff {before : List Char} :
    beginsWord (lastOf none before) = true ↔ WordBegins before := by
  unfold WordBegins lastOf
  rw [Option.or_none]
  cases before.getLast? <;> simp [beginsWord]

/-! ### The keys of a text -/

/-- A scan finds the keys of the references that are closed in its way. -/
theorem mem_scan_iff_occurs {closing : Closing} {text key : List Char} :
    key ∈ scan closing 0 none text ↔ Occurs closing text key := by
  rw [mem_scan_iff]
  constructor
  · rintro ⟨before, s, n, rfl, hb, hcall⟩
    obtain ⟨hkey, q, q', rest, hq, hq', rfl, hrest⟩ := exists_callAt_iff.mp ⟨n, hcall⟩
    exact ⟨hkey, before, q, q', rest, rfl, beginsWord_iff.mp hb, hq, hq', hrest⟩
  · rintro ⟨hkey, before, q, q', rest, rfl, hb, hq, hq', hrest⟩
    obtain ⟨n, hcall⟩ := exists_callAt_iff.mpr ⟨hkey, q, q', rest, hq, hq', rfl, hrest⟩
    exact ⟨before, _, n, rfl, beginsWord_iff.mpr hb, hcall⟩

theorem mem_keysIn_iff {text key : List Char} : key ∈ keysIn text ↔ References text key := by
  simp only [keysIn, Closing.all, List.mem_flatMap, mem_scan_iff_occurs, References]
  constructor
  · rintro ⟨closing, -, h⟩
    exact ⟨closing, h⟩
  · rintro ⟨closing, h⟩
    exact ⟨closing, by cases closing <;> simp, h⟩

/-! ### References and lines -/

/-- Which characters a call is made of. -/
theorem of_mem_call {q q' c : Char} {key : List Char} (hq : IsQuote q) (hkey : IsKey key)
    (hq' : IsQuote q') (hc : c ∈ call q key q') :
    isKeyChar c = true ∨ c = '(' ∨ isQuote c = true := by
  simp only [call, List.mem_cons, List.mem_append, List.not_mem_nil, or_false] at hc
  rcases hc with rfl | rfl | rfl | hc | rfl
  · exact .inl (by decide)
  · exact .inr (.inl rfl)
  · exact .inr (.inr (isQuote_iff.mpr hq))
  · exact .inl (isKeyChar_of_isKey (isKey_iff.mpr hkey) c hc)
  · exact .inr (.inr (isQuote_iff.mpr hq'))

/-- A call stands within a line. -/
theorem newline_not_mem_call {q q' : Char} {key : List Char} (hq : IsQuote q) (hkey : IsKey key)
    (hq' : IsQuote q') : '\n' ∉ call q key q' :=
  fun hc => absurd (of_mem_call hq hkey hq' hc) (by decide)

/-- Whether a reference is closed is seen within its line. -/
theorem closes_newline_iff {closing : Closing} {a b : List Char} :
    Closes closing (a ++ '\n' :: b) ↔ Closes closing a := by
  cases closing with
  | mark =>
      constructor
      · rintro ⟨c, s, he, hc⟩
        cases a with
        | nil =>
            cases he
            rcases hc with hc | hc <;> exact absurd hc (by decide)
        | cons d a =>
            cases he
            exact ⟨c, a, rfl, hc⟩
      · rintro ⟨c, s, rfl, hc⟩
        exact ⟨c, s ++ '\n' :: b, rfl, hc⟩
  | lineEnd =>
      constructor
      · rintro ⟨cr, s, he, hcr, hs⟩
        rcases List.append_eq_append_iff.mp he with ⟨a', rfl, h'⟩ | ⟨c, rfl, rfl⟩
        · cases a' with
          | nil => exact ⟨a, [], by simp, by simpa using hcr, .inl rfl⟩
          | cons d a' =>
              cases h'
              rcases hcr with hcr | hcr
              · exact absurd hcr (by simp)
              · cases a with
                | nil => cases hcr
                | cons d a => simp at hcr
        · cases c with
          | nil => exact ⟨cr, [], rfl, hcr, .inl rfl⟩
          | cons d c =>
              rcases hs with hs | ⟨s', hs⟩
              · cases hs
              · cases hs
                exact ⟨cr, '\n' :: c, rfl, hcr, .inr ⟨c, rfl⟩⟩
      · rintro ⟨cr, s, rfl, hcr, rfl | ⟨s', rfl⟩⟩
        · exact ⟨cr, '\n' :: b, by simp, hcr, .inr ⟨b, rfl⟩⟩
        · exact ⟨cr, '\n' :: (s' ++ '\n' :: b), by simp, hcr, .inr ⟨_, rfl⟩⟩

/-- Whether a reference begins a text is seen within the first line. -/
theorem exists_callAt_newline_iff {closing : Closing} {a b key : List Char} :
    (∃ n, callAt closing (a ++ '\n' :: b) = some (key, n)) ↔
      ∃ n, callAt closing a = some (key, n) := by
  rw [exists_callAt_iff, exists_callAt_iff]
  constructor
  · rintro ⟨hkey, q, q', rest, hq, hq', he, hrest⟩
    rcases List.append_eq_append_iff.mp he with ⟨c, hcall, h'⟩ | ⟨c, rfl, rfl⟩
    · cases c with
      | nil =>
          rw [List.append_nil] at hcall
          cases h'
          exact ⟨hkey, q, q', [], hq, hq', by rw [List.append_nil, hcall],
            (closes_newline_iff (a := [])).mp hrest⟩
      | cons d c =>
          cases h'
          exact absurd (hcall ▸ by simp) (newline_not_mem_call hq hkey hq')
    · exact ⟨hkey, q, q', c, hq, hq', rfl, closes_newline_iff.mp hrest⟩
  · rintro ⟨hkey, q, q', rest, hq, hq', rfl, hrest⟩
    exact ⟨hkey, q, q', rest ++ '\n' :: b, hq, hq', by simp, closes_newline_iff.mpr hrest⟩

/-- Of what stands before a text only matters whether a word may begin behind it. -/
theorem scan_congr_before {closing : Closing} {before before' : Option Char} {s : List Char}
    (h : beginsWord before = beginsWord before') :
    scan closing 0 before s = scan closing 0 before' s := by
  cases s with
  | nil => rfl
  | cons c s => rw [scan_cons, scan_cons, keyHere, keyHere, h]

/-- At the start of a line a word may begin. -/
theorem beginsWord_newline : beginsWord (some '\n') = beginsWord none := by
  have hfeed : Text.isWordChar '\n' = false := Text.not_isWordChar_of_mem (by decide)
  rw [beginsWord, beginsWord, hfeed]
  rfl

/-- **A scan finds what it finds in the lines above a line feed, and then what it finds in the
lines below.** -/
theorem scan_append_newline {closing : Closing} {before : Option Char} {a b : List Char} :
    scan closing 0 before (a ++ '\n' :: b) = scan closing 0 before a ++ scan closing 0 none b := by
  induction a generalizing before with
  | nil =>
      rw [List.nil_append, scan_cons, keyHere_eq_nil (by decide),
        scan_congr_before beginsWord_newline]
      rfl
  | cons c a ih =>
      have hhere : keyHere closing before (c :: (a ++ '\n' :: b)) =
          keyHere closing before (c :: a) :=
        keyHere_congr fun key => exists_callAt_newline_iff (a := c :: a)
      rw [List.cons_append, scan_cons, scan_cons, hhere, ih, List.append_assoc]

/-- **A reference stands within one line.** -/
theorem occurs_newline_iff {closing : Closing} {a b key : List Char} :
    Occurs closing (a ++ '\n' :: b) key ↔ Occurs closing a key ∨ Occurs closing b key := by
  rw [← mem_scan_iff_occurs, scan_append_newline, List.mem_append, mem_scan_iff_occurs,
    mem_scan_iff_occurs]

end KeyAudit.Reference

namespace KeyAudit

/-- **The keys of a text are exactly those it references.** -/
theorem mem_referencedKeys_iff {text key : String} :
    key ∈ referencedKeys text ↔ Reference.References text.toList key.toList := by
  rw [referencedKeys, KeySet.mem_ofList, List.mem_map]
  constructor
  · rintro ⟨key, hkey, rfl⟩
    rw [String.toList_ofList]
    exact Reference.mem_keysIn_iff.mp hkey
  · intro h
    exact ⟨key.toList, Reference.mem_keysIn_iff.mpr h, String.ofList_toList⟩

end KeyAudit
