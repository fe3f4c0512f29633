/-
Blank characters (Unicode's white space) and the texts around them: trimming,
blank texts, and the lines of a text that hold something. A text trims to nothing
exactly when it is blank (`trim_eq_nil_iff`).
-/

namespace KeyAudit.Text

/-- White space: the ASCII blanks, NEL, and the separators of every width. -/
def isBlank (c : Char) : Bool :=
  let n := c.toNat
  (9 ≤ n && n ≤ 13) || n == 0x20 || n == 0x85 || n == 0xA0 || n == 0x1680 ||
    (0x2000 ≤ n && n ≤ 0x200A) || n == 0x2028 || n == 0x2029 || n == 0x202F ||
    n == 0x205F || n == 0x3000

/-- The text without the blanks before it. -/
def trimStart (s : List Char) : List Char := s.dropWhile isBlank

/-- The text without the blanks after it. -/
def trimEnd (s : List Char) : List Char := (s.reverse.dropWhile isBlank).reverse

/-- The text without the blanks on either side. -/
def trim (s : List Char) : List Char := trimEnd (trimStart s)

/-- The lines of a text, told apart by line feeds. -/
def lines : List Char → List (List Char)
  | [] => [[]]
  | '\n' :: s => [] :: lines s
  | c :: s =>
    match lines s with
    | [] => [[c]]
    | l :: ls => (c :: l) :: ls

/-- The lines that hold more than blanks, each trimmed. -/
def filledLines (s : List Char) : List (List Char) :=
  ((lines s).map trim).filter fun l => !l.isEmpty

/-! ### Blank texts -/

theorem dropWhile_eq_nil_of_all {p : Char → Bool} :
    ∀ {s : List Char}, (∀ c ∈ s, p c = true) → s.dropWhile p = []
  | [], _ => rfl
  | c :: r, h => by
    rw [List.dropWhile_cons_of_pos (h c (by simp))]
    exact dropWhile_eq_nil_of_all fun d hd => h d (by simp [hd])

theorem mem_of_dropWhile_eq_nil {p : Char → Bool} :
    ∀ {s : List Char}, s.dropWhile p = [] → ∀ c ∈ s, p c = true
  | [], _, _, hc => by simp at hc
  | d :: r, h, c, hc => by
    by_cases hd : p d = true
    · rw [List.dropWhile_cons_of_pos hd] at h
      rcases List.mem_cons.1 hc with rfl | hc
      · exact hd
      · exact mem_of_dropWhile_eq_nil h c hc
    · rw [List.dropWhile_cons_of_neg hd] at h
      cases h

/-- A text trims to nothing exactly when it holds blanks only. -/
theorem trim_eq_nil_iff {s : List Char} : trim s = [] ↔ ∀ c ∈ s, isBlank c = true := by
  constructor
  · intro h
    have hr : (trimStart s).reverse.dropWhile isBlank = [] := by
      simpa [trim, trimEnd] using h
    have hall : ∀ c ∈ trimStart s, isBlank c = true := fun c hc =>
      mem_of_dropWhile_eq_nil hr c (by simpa using hc)
    have hnil : trimStart s = [] := by
      cases hs : trimStart s with
      | nil => rfl
      | cons d r =>
        have hd := hall d (by simp [hs])
        have hne : s.dropWhile isBlank ≠ [] := by
          simp only [trimStart] at hs
          rw [hs]; simp
        have := List.head_dropWhile_not isBlank hne
        simp only [trimStart] at hs
        simp [hs, hd] at this
    exact mem_of_dropWhile_eq_nil hnil
  · intro h
    have : trimStart s = [] := dropWhile_eq_nil_of_all h
    simp [trim, trimEnd, this]

end KeyAudit.Text
