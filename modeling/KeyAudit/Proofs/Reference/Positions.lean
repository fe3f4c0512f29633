/-
Which positions of a text a scan finds keys at (`Reference.ReadsAt`): all at which the text
reads as a reference, one key for each and in their order, whatever stands before them.

A scan skips what a reference covers, so it looks at some positions only. None of the
skipped ones begins a reference, and so a scan is a look at every position
(`scan_cons`), from which `exists_positions` follows by induction on the text.

* `referenced_at_every_position` — **the keys of a text are exactly those that some
  position reads.**
-/

import KeyAudit.Proofs.Reference.Occurrence
import Mathlib.Data.List.Forall2

namespace KeyAudit.Reference

/-! ### Positions -/

/-- No word goes on at this position: it is the first, or a character that stands outside of
words is before it. -/
def WordStartsAt (text : List Char) (i : Nat) : Prop :=
  i = 0 ∨ ∃ c, text[i - 1]? = some c ∧ Text.isWordChar c = false

/-- The text behind the closing quote is that of a reference: `)` or `,` follows, or the text
or the line ends, with or without a carriage return. -/
def EndsCall (rest : List Char) : Prop :=
  (∃ s, rest = ')' :: s) ∨ (∃ s, rest = ',' :: s) ∨ rest = [] ∨ (∃ s, rest = '\n' :: s) ∨
    rest = ['\r'] ∨ ∃ s, rest = '\r' :: '\n' :: s

/-- From this position on the text reads as a reference to the key, closed in this way. -/
def ReadsAt (closing : Closing) (text : List Char) (i : Nat) (key : List Char) : Prop :=
  IsKey key ∧ WordStartsAt text i ∧ ∃ q q' rest, IsQuote q ∧ IsQuote q' ∧
    text.drop i = call q key q' ++ rest ∧ Closes closing rest

theorem exists_closes_iff {rest : List Char} :
    (∃ closing, Closes closing rest) ↔ EndsCall rest := by
  constructor
  · rintro ⟨closing, hrest⟩
    cases closing with
    | mark =>
        obtain ⟨c, s, rfl, rfl | rfl⟩ := hrest
        · exact .inl ⟨s, rfl⟩
        · exact .inr (.inl ⟨s, rfl⟩)
    | lineEnd =>
        obtain ⟨cr, s, rfl, rfl | rfl, rfl | ⟨s', rfl⟩⟩ := hrest
        · exact .inr (.inr (.inl rfl))
        · exact .inr (.inr (.inr (.inl ⟨s', rfl⟩)))
        · exact .inr (.inr (.inr (.inr (.inl rfl))))
        · exact .inr (.inr (.inr (.inr (.inr ⟨s', rfl⟩))))
  · rintro (⟨s, rfl⟩ | ⟨s, rfl⟩ | rfl | ⟨s, rfl⟩ | rfl | ⟨s, rfl⟩)
    · exact ⟨.mark, ')', s, rfl, .inl rfl⟩
    · exact ⟨.mark, ',', s, rfl, .inr rfl⟩
    · exact ⟨.lineEnd, [], [], rfl, .inl rfl, .inl rfl⟩
    · exact ⟨.lineEnd, [], '\n' :: s, rfl, .inl rfl, .inr ⟨s, rfl⟩⟩
    · exact ⟨.lineEnd, ['\r'], [], rfl, .inr rfl, .inl rfl⟩
    · exact ⟨.lineEnd, ['\r'], '\n' :: s, rfl, .inr rfl, .inr ⟨s, rfl⟩⟩

/-- Behind a text, a word starts exactly where the text does not end in one. -/
theorem wordStartsAt_length_iff {before rest : List Char} :
    WordStartsAt (before ++ rest) before.length ↔ beginsWord before.getLast? = true := by
  rcases List.eq_nil_or_concat before with rfl | ⟨front, c, rfl⟩
  · simp [WordStartsAt, beginsWord]
  · simp [WordStartsAt, beginsWord]

/-- A position reads as a reference exactly where a scan that comes to it sees one. -/
theorem readsAt_length_iff {closing : Closing} {before rest key : List Char} :
    ReadsAt closing (before ++ rest) before.length key ↔
      beginsWord before.getLast? = true ∧ ∃ n, callAt closing rest = some (key, n) := by
  rw [ReadsAt, wordStartsAt_length_iff, List.drop_left, exists_callAt_iff]
  exact and_left_comm

/-- Behind its last character a text reads as nothing. -/
theorem not_readsAt_of_length_le {closing : Closing} {text key : List Char} {i : Nat}
    (h : text.length ≤ i) : ¬ ReadsAt closing text i key := by
  rintro ⟨-, -, q, q', rest, -, -, he, -⟩
  rw [List.drop_of_length_le h] at he
  cases he

/-! ### A scan is a look at every position -/

/-- At most one reference begins here. -/
theorem keyHere_eq (closing : Closing) (before : Option Char) (s : List Char) :
    keyHere closing before s = [] ∨ ∃ key, keyHere closing before s = [key] := by
  unfold keyHere
  split
  · cases callAt closing s with
    | none => exact .inl rfl
    | some found => exact .inr ⟨found.1, rfl⟩
  · exact .inl rfl

/-- **The keys of a scan are those at the positions that read as references**, position by
position. The induction is on what is left of the text; what was passed only tells the
positions and whether a word may begin. -/
theorem exists_positions (closing : Closing) (before text : List Char) :
    ∃ positions : List Nat, positions.Pairwise (· < ·) ∧
      (∀ i, i ∈ positions ↔
        before.length ≤ i ∧ ∃ key, ReadsAt closing (before ++ text) i key) ∧
      List.Forall₂ (ReadsAt closing (before ++ text)) positions
        (scan closing 0 before.getLast? text) := by
  induction text generalizing before with
  | nil =>
      refine ⟨[], .nil, ?_, .nil⟩
      intro i
      simp only [List.not_mem_nil, List.append_nil, false_iff]
      rintro ⟨hi, key, hkey⟩
      exact not_readsAt_of_length_le hi hkey
  | cons c cs ih =>
      obtain ⟨positions, hordered, hmem, hkeys⟩ := ih (before ++ [c])
      simp only [List.append_assoc, List.singleton_append, List.length_append, List.length_cons,
        List.length_nil, List.getLast?_concat] at hmem hkeys
      have hbehind (i : Nat) (hi : i ∈ positions) : before.length < i := ((hmem i).mp hi).1
      rw [scan_cons]
      rcases keyHere_eq closing before.getLast? (c :: cs) with hnone | ⟨key, hone⟩
      · -- Nothing begins here, so every position lies behind this one.
        refine ⟨positions, hordered, ?_, by rwa [hnone]⟩
        intro i
        rw [hmem]
        constructor
        · rintro ⟨hi, hreads⟩
          exact ⟨by omega, hreads⟩
        · rintro ⟨hi, key, hreads⟩
          have hne : i ≠ before.length := by
            rintro rfl
            have hhere := mem_keyHere_iff.mpr (readsAt_length_iff.mp hreads)
            rw [hnone] at hhere
            cases hhere
          exact ⟨by omega, key, hreads⟩
      · have hhere : ReadsAt closing (before ++ c :: cs) before.length key := by
          rw [readsAt_length_iff, ← mem_keyHere_iff, hone]
          exact List.mem_singleton_self key
        refine ⟨before.length :: positions, List.pairwise_cons.mpr ⟨hbehind, hordered⟩, ?_, ?_⟩
        · intro i
          rw [List.mem_cons, hmem]
          constructor
          · rintro (rfl | ⟨hi, hreads⟩)
            · exact ⟨Nat.le_refl _, key, hhere⟩
            · exact ⟨by omega, hreads⟩
          · rintro ⟨hi, hreads⟩
            rcases Nat.eq_or_lt_of_le hi with he | hlt
            · exact .inl he.symm
            · exact .inr ⟨hlt, hreads⟩
        · rw [hone]
          exact .cons hhere hkeys

/-- A reference stands at some position. -/
theorem references_iff_exists_position {text key : List Char} :
    References text key ↔ IsKey key ∧ ∃ i q q' rest, WordStartsAt text i ∧ IsQuote q ∧
      IsQuote q' ∧ text.drop i = call q key q' ++ rest ∧ EndsCall rest := by
  constructor
  · rintro ⟨closing, hkey, before, q, q', rest, rfl, hb, hq, hq', hclose⟩
    have hstart : beginsWord before.getLast? = true := by
      rw [← beginsWord_iff, lastOf, Option.or_none] at hb
      exact hb
    exact ⟨hkey, before.length, q, q', rest, wordStartsAt_length_iff.mpr hstart, hq, hq',
      List.drop_left, exists_closes_iff.mp ⟨closing, hclose⟩⟩
  · rintro ⟨hkey, i, q, q', rest, hstart, hq, hq', hdrop, hends⟩
    obtain ⟨closing, hclose⟩ := exists_closes_iff.mpr hends
    obtain ⟨before, rfl, rfl⟩ : ∃ before, text = before ++ (call q key q' ++ rest) ∧
        before.length = i := by
      have hlt : i < text.length := by
        apply Nat.lt_of_not_le
        intro hle
        rw [List.drop_of_length_le hle] at hdrop
        cases hdrop
      refine ⟨text.take i, ?_, List.length_take_of_le (Nat.le_of_lt hlt)⟩
      rw [← hdrop, List.take_append_drop]
    have hb : WordBegins before := by
      rw [← beginsWord_iff, lastOf, Option.or_none]
      exact wordStartsAt_length_iff.mp hstart
    exact ⟨closing, hkey, before, q, q', rest, rfl, hb, hq, hq', hclose⟩

end KeyAudit.Reference

namespace KeyAudit

/-- **The keys of a text are exactly those that some position reads**: there `t(`, a quote, the
key and a quote stand where a word may begin, and a mark or the end of the line behind them. Each
scan gives the key of every position that reads as a reference closed in its way, and none else,
whatever it has found or passed before. -/
theorem referenced_at_every_position (text : String) :
    (∀ key : String, key ∈ referencedKeys text ↔
      Reference.IsKey key.toList ∧ ∃ i q q' rest, Reference.WordStartsAt text.toList i ∧
        Reference.IsQuote q ∧ Reference.IsQuote q' ∧
        text.toList.drop i = Reference.call q key.toList q' ++ rest ∧ Reference.EndsCall rest) ∧
    ∀ closing, ∃ positions : List Nat, positions.Pairwise (· < ·) ∧
      (∀ i, i ∈ positions ↔ ∃ key, Reference.ReadsAt closing text.toList i key) ∧
      List.Forall₂ (Reference.ReadsAt closing text.toList) positions
        (Reference.scan closing 0 none text.toList) := by
  constructor
  · intro key
    rw [mem_referencedKeys_iff, Reference.references_iff_exists_position]
  · intro closing
    simpa using Reference.exists_positions closing [] text.toList

end KeyAudit
