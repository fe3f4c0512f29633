/-
Regular expressions as a line searcher reads them: how one is written (`Regex.text`), what
it matches between the texts on either side (`Regex.Matches`), and what a search of one
line finds from left to right (`Regex.Searched`).

A search goes on behind each match, and no match begins before the one it takes. Where a
regular expression never matches the empty text, every line has an outcome
(`exists_searched`).
-/

import KeyAudit.Text.WordChar

namespace KeyAudit

/-! ### How it is written -/

/-- A part of a bracketed class: one character, or those from the first to the last. -/
inductive ClassItem where
  | char (c : Char)
  | range (first last : Char)
  deriving DecidableEq, Repr

/-- One of certain characters. -/
inductive OneChar where
  | char (c : Char)
  /-- A character that means something else unless a backslash stands before it. -/
  | escaped (c : Char)
  | carriageReturn
  | oneOf (items : List ClassItem)
  deriving DecidableEq, Repr

/-- A regular expression with groups, without alternatives. -/
inductive Regex where
  | empty
  | wordBoundary
  | lineEnd
  | one (a : OneChar)
  | optional (a : OneChar)
  | star (a : OneChar)
  | group (r : Regex)
  | seq (r s : Regex)
  deriving DecidableEq, Repr

def ClassItem.text : ClassItem → String
  | .char c => c.toString
  | .range first last => first.toString ++ "-" ++ last.toString

def OneChar.text : OneChar → String
  | .char c => c.toString
  | .escaped c => "\\" ++ c.toString
  | .carriageReturn => "\\r"
  | .oneOf items => "[" ++ String.join (items.map ClassItem.text) ++ "]"

namespace Regex

/-- The regular expression as it is written on a command line. -/
def text : Regex → String
  | empty => ""
  | wordBoundary => "\\b"
  | lineEnd => "$"
  | one a => a.text
  | optional a => a.text ++ "?"
  | star a => a.text ++ "*"
  | group r => "(" ++ r.text ++ ")"
  | seq r s => r.text ++ s.text

/-- Regular expressions one behind the other. -/
def row (rs : List Regex) : Regex := rs.foldr seq empty

end Regex

/-! ### What it matches -/

def ClassItem.Accepts : ClassItem → Char → Prop
  | .char c, d => d = c
  | .range first last, d => first ≤ d ∧ d ≤ last

def OneChar.Accepts : OneChar → Char → Prop
  | .char c, d => d = c
  | .escaped c, d => d = c
  | .carriageReturn, d => d = '\r'
  | .oneOf items, d => ∃ item ∈ items, item.Accepts d

namespace Regex

/-- Does a word character stand there? -/
def isWord : Option Char → Bool
  | none => false
  | some c => Text.isWordChar c

/-- `r.Matches before s after groups`: between the texts `before` and `after` of its line,
`r` matches `s`, and `groups` are what its groups match, in the order in which they
open. -/
def Matches : Regex → List Char → List Char → List Char → List (List Char) → Prop
  | empty, _, s, _, groups => s = [] ∧ groups = []
  | wordBoundary, before, s, after, groups =>
    s = [] ∧ groups = [] ∧ isWord before.getLast? ≠ isWord after.head?
  | lineEnd, _, s, after, groups => s = [] ∧ groups = [] ∧ after = []
  | one a, _, s, _, groups => groups = [] ∧ ∃ c, s = [c] ∧ a.Accepts c
  | optional a, _, s, _, groups => groups = [] ∧ (s = [] ∨ ∃ c, s = [c] ∧ a.Accepts c)
  | star a, _, s, _, groups => groups = [] ∧ ∀ c ∈ s, a.Accepts c
  | group r, before, s, after, groups => ∃ inner, r.Matches before s after inner ∧
      groups = s :: inner
  | seq r r', before, s, after, groups => ∃ s₁ s₂ groups₁ groups₂, s = s₁ ++ s₂ ∧
      groups = groups₁ ++ groups₂ ∧ r.Matches before s₁ (s₂ ++ after) groups₁ ∧
      r'.Matches (before ++ s₁) s₂ after groups₂

section Rows

variable {rs : List Regex} {a : OneChar} {before s after : List Char} {groups : List (List Char)}

theorem matches_row_nil_iff :
    (row []).Matches before s after groups ↔ s = [] ∧ groups = [] := Iff.rfl

theorem matches_row_cons_iff {r : Regex} :
    (row (r :: rs)).Matches before s after groups ↔
      ∃ s₁ s₂ groups₁ groups₂, s = s₁ ++ s₂ ∧ groups = groups₁ ++ groups₂ ∧
        r.Matches before s₁ (s₂ ++ after) groups₁ ∧
        (row rs).Matches (before ++ s₁) s₂ after groups₂ := Iff.rfl

theorem matches_row_wordBoundary_iff :
    (row (wordBoundary :: rs)).Matches before s after groups ↔
      isWord before.getLast? ≠ isWord (s ++ after).head? ∧
        (row rs).Matches before s after groups := by
  rw [matches_row_cons_iff]
  constructor
  · rintro ⟨_, s₂, _, groups₂, rfl, rfl, ⟨rfl, rfl, hb⟩, hrest⟩
    rw [List.append_nil] at hrest
    exact ⟨hb, hrest⟩
  · rintro ⟨hb, hrest⟩
    exact ⟨[], s, [], groups, rfl, rfl, ⟨rfl, rfl, hb⟩, by rwa [List.append_nil]⟩

theorem matches_row_lineEnd_iff :
    (row (lineEnd :: rs)).Matches before s after groups ↔
      s ++ after = [] ∧ (row rs).Matches before s after groups := by
  rw [matches_row_cons_iff]
  constructor
  · rintro ⟨_, s₂, _, groups₂, rfl, rfl, ⟨rfl, rfl, hend⟩, hrest⟩
    rw [List.append_nil] at hrest
    exact ⟨hend, hrest⟩
  · rintro ⟨hend, hrest⟩
    exact ⟨[], s, [], groups, rfl, rfl, ⟨rfl, rfl, hend⟩, by rwa [List.append_nil]⟩

theorem matches_row_one_iff :
    (row (one a :: rs)).Matches before s after groups ↔
      ∃ c s', s = c :: s' ∧ a.Accepts c ∧ (row rs).Matches (before ++ [c]) s' after groups := by
  rw [matches_row_cons_iff]
  constructor
  · rintro ⟨_, s₂, _, groups₂, rfl, rfl, ⟨rfl, c, rfl, hc⟩, hrest⟩
    exact ⟨c, s₂, rfl, hc, hrest⟩
  · rintro ⟨c, s', rfl, hc, hrest⟩
    exact ⟨[c], s', [], groups, rfl, rfl, ⟨rfl, c, rfl, hc⟩, hrest⟩

theorem matches_row_optional_iff :
    (row (optional a :: rs)).Matches before s after groups ↔
      ∃ s₁ s₂, s = s₁ ++ s₂ ∧ (s₁ = [] ∨ ∃ c, s₁ = [c] ∧ a.Accepts c) ∧
        (row rs).Matches (before ++ s₁) s₂ after groups := by
  rw [matches_row_cons_iff]
  constructor
  · rintro ⟨s₁, s₂, _, groups₂, rfl, rfl, ⟨rfl, hs⟩, hrest⟩
    exact ⟨s₁, s₂, rfl, hs, hrest⟩
  · rintro ⟨s₁, s₂, rfl, hs, hrest⟩
    exact ⟨s₁, s₂, [], groups, rfl, rfl, ⟨rfl, hs⟩, hrest⟩

theorem matches_row_star_iff :
    (row (star a :: rs)).Matches before s after groups ↔
      ∃ s₁ s₂, s = s₁ ++ s₂ ∧ (∀ c ∈ s₁, a.Accepts c) ∧
        (row rs).Matches (before ++ s₁) s₂ after groups := by
  rw [matches_row_cons_iff]
  constructor
  · rintro ⟨s₁, s₂, _, groups₂, rfl, rfl, ⟨rfl, hs⟩, hrest⟩
    exact ⟨s₁, s₂, rfl, hs, hrest⟩
  · rintro ⟨s₁, s₂, rfl, hs, hrest⟩
    exact ⟨s₁, s₂, [], groups, rfl, rfl, ⟨rfl, hs⟩, hrest⟩

theorem matches_row_group_iff {r : Regex} :
    (row (group r :: rs)).Matches before s after groups ↔
      ∃ s₁ s₂ inner groups₂, s = s₁ ++ s₂ ∧ groups = s₁ :: (inner ++ groups₂) ∧
        r.Matches before s₁ (s₂ ++ after) inner ∧
        (row rs).Matches (before ++ s₁) s₂ after groups₂ := by
  rw [matches_row_cons_iff]
  constructor
  · rintro ⟨s₁, s₂, _, groups₂, rfl, rfl, ⟨inner, hr, rfl⟩, hrest⟩
    exact ⟨s₁, s₂, inner, groups₂, rfl, rfl, hr, hrest⟩
  · rintro ⟨s₁, s₂, inner, groups₂, rfl, rfl, hr, hrest⟩
    exact ⟨s₁, s₂, s₁ :: inner, groups₂, rfl, rfl, ⟨inner, hr, rfl⟩, hrest⟩

end Rows

/-! ### What a search finds -/

/-- A match begins where this part of a line begins. -/
def MatchesAt (r : Regex) (before rest : List Char) : Prop :=
  ∃ s after groups, rest = s ++ after ∧ r.Matches before s after groups

/-- `r.Searched before rest found`: in the part `rest` of a line, behind `before`, a search
from left to right finds the groups `found`, match by match. -/
inductive Searched (r : Regex) : List Char → List Char → List (List (List Char)) → Prop where
  | done {before rest : List Char} :
      (∀ skipped tail, rest = skipped ++ tail → ¬ r.MatchesAt (before ++ skipped) tail) →
      Searched r before rest []
  | found {before skipped s after : List Char} {groups : List (List Char)}
      {more : List (List (List Char))} :
      (∀ passed c tail, skipped = passed ++ c :: tail →
        ¬ r.MatchesAt (before ++ passed) (c :: tail ++ (s ++ after))) →
      r.Matches (before ++ skipped) s after groups → s ≠ [] →
      Searched r (before ++ skipped ++ s) after more →
      Searched r before (skipped ++ (s ++ after)) (groups :: more)

/-- Either no match begins in a part of a line, or a first one does. -/
theorem exists_first_match (r : Regex) (rest before : List Char) :
    (∀ skipped tail, rest = skipped ++ tail → ¬ r.MatchesAt (before ++ skipped) tail) ∨
      ∃ skipped tail, rest = skipped ++ tail ∧ r.MatchesAt (before ++ skipped) tail ∧
        ∀ passed c behind, skipped = passed ++ c :: behind →
          ¬ r.MatchesAt (before ++ passed) (c :: behind ++ tail) := by
  induction rest generalizing before with
  | nil =>
      by_cases h : r.MatchesAt before []
      · refine .inr ⟨[], [], rfl, by rwa [List.append_nil], ?_⟩
        intro passed c behind he
        simp at he
      · left
        intro skipped tail he
        obtain ⟨rfl, rfl⟩ := List.append_eq_nil_iff.mp he.symm
        rwa [List.append_nil]
  | cons d rest ih =>
      by_cases h : r.MatchesAt before (d :: rest)
      · refine .inr ⟨[], d :: rest, rfl, by rwa [List.append_nil], ?_⟩
        intro passed c behind he
        simp at he
      · rcases ih (before ++ [d]) with hnone | ⟨skipped, tail, rfl, hmatch, hfirst⟩
        · left
          intro skipped tail he
          cases skipped with
          | nil =>
              cases he
              rwa [List.append_nil]
          | cons e skipped =>
              cases he
              simpa using hnone skipped tail rfl
        · refine .inr ⟨d :: skipped, tail, rfl, by simpa using hmatch, ?_⟩
          intro passed c behind he
          cases passed with
          | nil =>
              cases he
              rwa [List.append_nil]
          | cons e passed =>
              cases he
              simpa using hfirst passed c behind rfl

/-- **Where no match is empty, every search has an outcome.** The induction is on the length
of what is left, which each match makes shorter. -/
theorem exists_searched {r : Regex}
    (solid : ∀ before after groups, ¬ r.Matches before [] after groups) (rest before : List Char) :
    ∃ found, r.Searched before rest found := by
  generalize hn : rest.length = n
  induction n using Nat.strongRecOn generalizing rest before with
  | ind n ih =>
      rcases r.exists_first_match rest before with hnone | ⟨skipped, tail, rfl, hmatch, hfirst⟩
      · exact ⟨[], .done hnone⟩
      · obtain ⟨s, after, groups, rfl, hs⟩ := hmatch
        have hne : s ≠ [] := by
          rintro rfl
          exact solid _ _ _ hs
        have hlt : after.length < n := by
          have := List.length_pos_iff.mpr hne
          simp only [List.length_append] at hn
          omega
        obtain ⟨more, hmore⟩ := ih after.length hlt after (before ++ skipped ++ s) rfl
        exact ⟨groups :: more, .found hfirst hs hne hmore⟩

end Regex

end KeyAudit
