/-
The regular expressions that are handed to the program, and what a search of one line for
them finds.

Each of the two is written as the text that the program is told (`text_callPattern`). What
it matches is a reference (`matches_callPattern_iff`), so a search of a line finds the keys
that a scan of this line finds, one by one (`searched_callPattern_iff`).
-/

import KeyAudit.Proofs.Reference.Occurrence
import KeyAudit.Proofs.Ripgrep.Regex
import KeyAudit.Scan.Ripgrep

namespace KeyAudit.Ripgrep

open Reference

/-! ### The patterns -/

/-- `['"]` -/
def quoteClass : OneChar := .oneOf [.char '\'', .char '"']

/-- `[a-zA-Z]` -/
def letterClass : OneChar := .oneOf [.range 'a' 'z', .range 'A' 'Z']

/-- `[a-zA-Z0-9._-]` -/
def innerClass : OneChar :=
  .oneOf [.range 'a' 'z', .range 'A' 'Z', .range '0' '9', .char '.', .char '_', .char '-']

/-- `[),]` -/
def markClass : OneChar := .oneOf [.char ')', .char ',']

/-- A key, as the one group of a pattern. -/
def keyPattern : Regex := .row [.one letterClass, .star innerClass]

/-- What stands behind the closing quote. -/
def closingParts : Closing → List Regex
  | .mark => [.one markClass]
  | .lineEnd => [.optional .carriageReturn, .lineEnd]

/-- A reference that is closed in one way. -/
def callPattern (closing : Closing) : Regex :=
  .row (.wordBoundary :: .one (.char 't') :: .one (.escaped '(') :: .one quoteClass ::
    .group keyPattern :: .one quoteClass :: closingParts closing)

/-- **The program is told this pattern.** -/
theorem text_callPattern (closing : Closing) : (callPattern closing).text = pattern closing := by
  cases closing <;> decide

theorem accepts_quoteClass_iff {c : Char} : quoteClass.Accepts c ↔ IsQuote c := by
  simp [quoteClass, OneChar.Accepts, ClassItem.Accepts, IsQuote]

theorem accepts_letterClass_iff {c : Char} : letterClass.Accepts c ↔ IsLetter c := by
  simp [letterClass, OneChar.Accepts, ClassItem.Accepts, IsLetter]

theorem accepts_innerClass_iff {c : Char} : innerClass.Accepts c ↔ IsInnerChar c := by
  simp [innerClass, OneChar.Accepts, ClassItem.Accepts, IsInnerChar, IsLetter, or_assoc]

theorem accepts_markClass_iff {c : Char} : markClass.Accepts c ↔ c = ')' ∨ c = ',' := by
  simp [markClass, OneChar.Accepts, ClassItem.Accepts]

/-! ### What they match -/

theorem matches_keyPattern_iff {before s after : List Char} {groups : List (List Char)} :
    keyPattern.Matches before s after groups ↔ groups = [] ∧ IsKey s := by
  simp only [keyPattern, Regex.matches_row_one_iff, Regex.matches_row_star_iff,
    Regex.matches_row_nil_iff, accepts_letterClass_iff, accepts_innerClass_iff]
  constructor
  · rintro ⟨c, s', rfl, hc, cs, _, rfl, hcs, rfl, rfl⟩
    exact ⟨rfl, c, cs, by rw [List.append_nil], hc, hcs⟩
  · rintro ⟨rfl, c, cs, rfl, hc, hcs⟩
    exact ⟨c, cs, rfl, hc, cs, [], by rw [List.append_nil], hcs, rfl, rfl⟩

/-- The part of a reference behind its closing quote, at the end of a match. -/
def ClosedBy : Closing → List Char → List Char → Prop
  | .mark, s, _ => ∃ c, s = [c] ∧ (c = ')' ∨ c = ',')
  | .lineEnd, s, after => (s = [] ∨ s = ['\r']) ∧ after = []

theorem matches_closingParts_iff {closing : Closing} {before s after : List Char}
    {groups : List (List Char)} :
    (Regex.row (closingParts closing)).Matches before s after groups ↔
      groups = [] ∧ ClosedBy closing s after := by
  cases closing with
  | mark =>
      simp only [closingParts, Regex.matches_row_one_iff, Regex.matches_row_nil_iff,
        accepts_markClass_iff, ClosedBy]
      constructor
      · rintro ⟨c, _, rfl, hc, rfl, rfl⟩
        exact ⟨rfl, c, rfl, hc⟩
      · rintro ⟨rfl, c, rfl, hc⟩
        exact ⟨c, [], rfl, hc, rfl, rfl⟩
  | lineEnd =>
      simp only [closingParts, Regex.matches_row_optional_iff, Regex.matches_row_lineEnd_iff,
        Regex.matches_row_nil_iff, OneChar.Accepts, ClosedBy]
      constructor
      · rintro ⟨s₁, _, rfl, hs, hafter, rfl, rfl⟩
        refine ⟨rfl, ?_, hafter⟩
        rcases hs with rfl | ⟨c, rfl, rfl⟩
        · exact .inl rfl
        · exact .inr rfl
      · rintro ⟨rfl, hs, rfl⟩
        refine ⟨s, [], (List.append_nil s).symm, ?_, rfl, rfl, rfl⟩
        rcases hs with rfl | rfl
        · exact .inl rfl
        · exact .inr ⟨'\r', rfl, rfl⟩

/-- Before a `t` there is a word boundary exactly where a word may begin. -/
theorem isWord_ne_iff {before rest : List Char} :
    Regex.isWord before.getLast? ≠ Regex.isWord ('t' :: rest).head? ↔ WordBegins before := by
  have ht : Regex.isWord ('t' :: rest).head? = true := by
    simp only [List.head?_cons, Regex.isWord]
    decide
  rw [ht]
  unfold WordBegins
  cases before.getLast? <;> simp [Regex.isWord]

/-- **A match is a reference**, with the key as its group. -/
theorem matches_callPattern_iff {closing : Closing} {before s after : List Char}
    {groups : List (List Char)} :
    (callPattern closing).Matches before s after groups ↔
      ∃ q key q' close, groups = [key] ∧ s = call q key q' ++ close ∧ WordBegins before ∧
        IsQuote q ∧ IsKey key ∧ IsQuote q' ∧ ClosedBy closing close after := by
  simp only [callPattern, Regex.matches_row_wordBoundary_iff, Regex.matches_row_one_iff,
    Regex.matches_row_group_iff, matches_keyPattern_iff, matches_closingParts_iff,
    accepts_quoteClass_iff]
  constructor
  · rintro ⟨hb, _, _, rfl, rfl, _, _, rfl, rfl, q, _, rfl, hq, key, _, _, _, rfl, rfl,
      ⟨rfl, hkey⟩, q', close, rfl, hq', rfl, hclose⟩
    exact ⟨q, key, q', close, rfl, by simp [call], isWord_ne_iff.mp hb, hq, hkey, hq', hclose⟩
  · rintro ⟨q, key, q', close, rfl, rfl, hb, hq, hkey, hq', hclose⟩
    exact ⟨isWord_ne_iff.mpr hb, 't', _, rfl, rfl, '(', _, rfl, rfl, q, key ++ q' :: close,
      by simp, hq, key, q' :: close, [], [], rfl, rfl, ⟨rfl, hkey⟩, q', close, rfl, hq',
      rfl, hclose⟩

/-! ### Matches and references of a line -/

/-- Within a line, a match ends where the reference does. -/
theorem closedBy_iff_length? {closing : Closing} {close after : List Char}
    (line : '\n' ∉ close ++ after) :
    ClosedBy closing close after ↔ closing.length? (close ++ after) = some close.length := by
  cases closing with
  | mark =>
      constructor
      · rintro ⟨c, rfl, rfl | rfl⟩ <;> rfl
      · intro h
        cases close with
        | nil =>
            cases after with
            | nil => cases h
            | cons d after =>
                simp only [List.nil_append, Closing.length?] at h
                split at h <;> simp at h
        | cons c close =>
            simp only [List.cons_append, Closing.length?] at h
            split at h
            · rename_i hc
              simp only [List.length_cons, Option.some.injEq, Nat.right_eq_add] at h
              refine ⟨c, by rw [List.length_eq_zero_iff.mp h], by simpa using hc⟩
            · cases h
  | lineEnd =>
      constructor
      · rintro ⟨rfl | rfl, rfl⟩ <;> rfl
      · intro h
        cases close with
        | nil =>
            refine ⟨.inl rfl, ?_⟩
            cases after with
            | nil => rfl
            | cons d after =>
                unfold Closing.length? at h
                split at h <;> simp_all
        | cons c close =>
            unfold Closing.length? at h
            split at h <;> simp_all [ClosedBy]

/-- **Within a line, matches are the references that a scan sees.** -/
theorem matches_iff_callAt {closing : Closing} {before s after : List Char}
    {groups : List (List Char)} (line : '\n' ∉ s ++ after) :
    (callPattern closing).Matches before s after groups ↔
      ∃ key, groups = [key] ∧ WordBegins before ∧
        callAt closing (s ++ after) = some (key, s.length) := by
  rw [matches_callPattern_iff]
  constructor
  · rintro ⟨q, key, q', close, rfl, rfl, hb, hq, hkey, hq', hclose⟩
    have hline : '\n' ∉ close ++ after := by
      intro hm
      exact line (by rw [List.append_assoc]; exact List.mem_append_right _ hm)
    refine ⟨key, rfl, hb, callAt_eq_some_iff.mpr ⟨q, q', close ++ after, close.length,
      by rw [List.append_assoc], isQuote_iff.mpr hq, isKey_iff.mpr hkey, isQuote_iff.mpr hq',
      (closedBy_iff_length? hline).mp hclose, ?_⟩⟩
    simp only [call, List.length_append, List.length_cons, List.length_nil]
    omega
  · rintro ⟨key, rfl, hb, hcall⟩
    obtain ⟨q, q', rest, n, hs, hq, hkey, hq', hn, hlen⟩ := callAt_eq_some_iff.mp hcall
    obtain ⟨u, r, rfl, rfl, -, -⟩ := take_of_length? hn
    have hlength : s.length = (call q key q' ++ u).length := by
      simp only [call, List.length_append, List.length_cons, List.length_nil]
      omega
    obtain ⟨rfl, rfl⟩ := List.append_inj (by rw [hs, List.append_assoc]) hlength
    have hline : '\n' ∉ u ++ after := by
      intro hm
      exact line (by rw [List.append_assoc]; exact List.mem_append_right _ hm)
    exact ⟨q, key, q', u, rfl, rfl, hb, isQuote_iff.mp hq, isKey_iff.mp hkey, isQuote_iff.mp hq',
      (closedBy_iff_length? hline).mpr hn⟩

/-- A match begins exactly where a word and a reference begin. -/
theorem matchesAt_iff {closing : Closing} {before rest : List Char} (line : '\n' ∉ rest) :
    (callPattern closing).MatchesAt before rest ↔
      WordBegins before ∧ ∃ found, callAt closing rest = some found := by
  constructor
  · rintro ⟨s, after, groups, rfl, hmatch⟩
    obtain ⟨key, -, hb, hcall⟩ := (matches_iff_callAt line).mp hmatch
    exact ⟨hb, _, hcall⟩
  · rintro ⟨hb, ⟨key, length⟩, hcall⟩
    obtain ⟨q, q', rest', n, rfl, -, -, -, hn, rfl⟩ := callAt_eq_some_iff.mp hcall
    obtain ⟨u, r, rfl, rfl, -, -⟩ := take_of_length? hn
    have hlength : (call q key q' ++ u).length = key.length + u.length + 4 := by
      simp only [call, List.length_append, List.length_cons, List.length_nil]
      omega
    rw [← List.append_assoc] at line hcall ⊢
    exact ⟨_, r, [key], rfl, (matches_iff_callAt line).mpr ⟨key, rfl, hb, by rw [hcall, hlength]⟩⟩

/-! ### What a search of a line finds -/

/-- A scan that passes over exactly this text goes on behind it. -/
theorem scan_covered_append {closing : Closing} {b : Option Char} {u text : List Char} :
    scan closing u.length b (u ++ text) = scan closing 0 (lastOf b u) text := by
  induction u generalizing b with
  | nil => simp [lastOf]
  | cons c u ih => rw [List.cons_append, List.length_cons, scan, ih, lastOf_cons]

/-- A scan takes the reference where it stands and goes on behind it. -/
theorem scan_of_callAt {closing : Closing} {b : Option Char} {s after key : List Char}
    (hb : beginsWord b = true) (hcall : callAt closing (s ++ after) = some (key, s.length))
    (hne : s ≠ []) :
    scan closing 0 b (s ++ after) = key :: scan closing 0 (lastOf b s) after := by
  cases s with
  | nil => exact absurd rfl hne
  | cons c cs =>
      rw [List.cons_append] at hcall ⊢
      simp only [scan, hb, if_pos, hcall, List.length_cons, Nat.add_sub_cancel]
      rw [scan_covered_append, lastOf_cons]

theorem lastOf_getLast? {before skipped : List Char} :
    lastOf before.getLast? skipped = (before ++ skipped).getLast? := by
  rw [List.getLast?_append, lastOf]

theorem beginsWord_getLast?_iff {before : List Char} :
    beginsWord before.getLast? = true ↔ WordBegins before := by
  rw [← beginsWord_iff, lastOf, Option.or_none]

/-- A scan passes over places where no reference begins. -/
theorem scan_append_of_free {closing : Closing} {before skipped text : List Char}
    (free : ∀ passed c tail, skipped = passed ++ c :: tail →
      ¬ (WordBegins (before ++ passed) ∧ ∃ found, callAt closing (c :: tail ++ text) = some found)) :
    scan closing 0 before.getLast? (skipped ++ text) =
      scan closing 0 (before ++ skipped).getLast? text := by
  induction skipped generalizing before with
  | nil => rw [List.nil_append, List.append_nil]
  | cons c skipped ih =>
      have hstep : scan closing 0 before.getLast? (c :: (skipped ++ text)) =
          scan closing 0 (some c) (skipped ++ text) := by
        have hhere := free [] c skipped rfl
        rw [List.append_nil] at hhere
        simp only [scan]
        split
        · rename_i hb
          cases hcall : callAt closing (c :: (skipped ++ text)) with
          | none => rfl
          | some found =>
              exact absurd ⟨beginsWord_getLast?_iff.mp hb, found, hcall⟩ hhere
        · rfl
      have hrest := @ih (before ++ [c]) (by
        intro passed d tail he
        have := free (c :: passed) d tail (by rw [he, List.cons_append])
        rwa [← List.append_cons])
      rw [List.cons_append, hstep]
      simpa using hrest

/-- **A search of a line finds what a scan of the line finds**, one key a match. The induction
is on the search; before each match it takes, nothing begins that the scan could take. -/
theorem found_eq_scan {closing : Closing} {before rest : List Char}
    {found : List (List (List Char))} (search : (callPattern closing).Searched before rest found)
    (line : '\n' ∉ rest) :
    found = (scan closing 0 before.getLast? rest).map fun key => [key] := by
  induction search with
  | @done before rest hnone =>
      have hnil : scan closing 0 before.getLast? rest = [] := by
        apply List.eq_nil_iff_forall_not_mem.mpr
        intro key hkey
        obtain ⟨skipped, tail, n, rfl, hb, hcall⟩ := mem_scan_iff.mp hkey
        rw [lastOf_getLast?, beginsWord_getLast?_iff] at hb
        refine hnone skipped tail rfl ((matchesAt_iff ?_).mpr ⟨hb, _, hcall⟩)
        exact fun hm => line (List.mem_append_right skipped hm)
      rw [hnil, List.map_nil]
  | @found before skipped s after groups more hfirst hmatch hne hmore ih =>
      have hline : '\n' ∉ s ++ after := fun hm => line (List.mem_append_right skipped hm)
      have hafter : '\n' ∉ after := fun hm => hline (List.mem_append_right s hm)
      obtain ⟨key, rfl, hb, hcall⟩ := (matches_iff_callAt hline).mp hmatch
      have hskip : scan closing 0 before.getLast? (skipped ++ (s ++ after)) =
          scan closing 0 (before ++ skipped).getLast? (s ++ after) := by
        apply scan_append_of_free
        intro passed c tail he hbegins
        refine hfirst passed c tail he ((matchesAt_iff ?_).mpr hbegins)
        intro hm
        apply line
        rw [he, List.append_assoc]
        exact List.mem_append_right passed hm
      rw [hskip, scan_of_callAt (beginsWord_getLast?_iff.mpr hb) hcall hne, lastOf_getLast?,
        List.map_cons, ih hafter]

/-- A match is never empty. -/
theorem not_matches_nil {closing : Closing} {before after : List Char}
    {groups : List (List Char)} : ¬ (callPattern closing).Matches before [] after groups := by
  rw [matches_callPattern_iff]
  rintro ⟨q, key, q', close, -, he, -⟩
  simp [call] at he

/-- **What a search of a line finds is fixed**: the keys that a scan of the line finds. -/
theorem searched_callPattern_iff {closing : Closing} {line : List Char}
    {found : List (List (List Char))} (feedless : '\n' ∉ line) :
    (callPattern closing).Searched [] line found ↔
      found = (scan closing 0 none line).map fun key => [key] := by
  constructor
  · intro search
    exact found_eq_scan search feedless
  · rintro rfl
    obtain ⟨found, search⟩ := (callPattern closing).exists_searched
      (fun _ _ _ => not_matches_nil) line []
    have hfound := found_eq_scan search feedless
    exact hfound ▸ search

end KeyAudit.Ripgrep
