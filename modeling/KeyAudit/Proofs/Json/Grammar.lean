/-
What a JSON text is, said without a reader.

`IsValue` says which texts are JSON values: words, numbers, quoted texts with escapes, and
lists and objects with blanks wherever they may stand. A quoted text need not make sense; an
escape may give half of a surrogate pair. `Spells` says which text the characters between
quotes stand for, so that a name or a text may be spelled in many ways.

* `IsValue.exists_head` — a value begins with one of few characters.
* `endsNumber_blank` — nothing that follows a value goes on with a number.
-/

import KeyAudit.Json.Writer
import KeyAudit.Proofs.Json.Numeral

namespace KeyAudit.Json

/-! ### Blanks -/

/-- Nothing but blanks. -/
def IsBlank (s : List Char) : Prop := ∀ c ∈ s, c ∈ [' ', '\t', '\n', '\r']

instance : DecidablePred IsBlank := fun s =>
  decidable_of_iff (s.all fun c => decide (c ∈ [' ', '\t', '\n', '\r'])) (by
    simp only [List.all_eq_true, decide_eq_true_iff, IsBlank])

theorem isBlank_nil : IsBlank [] := fun _ h => nomatch h

theorem isSpace_of_isBlank {s : List Char} (h : IsBlank s) : ∀ c ∈ s, isSpace c = true := by
  intro c hc
  have hmem := h c hc
  simp only [List.mem_cons, List.not_mem_nil, or_false] at hmem
  rcases hmem with rfl | rfl | rfl | rfl <;> rfl

theorem skipSpace_blank {b : List Char} (hb : IsBlank b) (s : List Char) :
    skipSpace (b ++ s) = skipSpace s :=
  List.dropWhile_append_of_pos (isSpace_of_isBlank hb)

theorem skipSpace_cons {c : Char} (hc : isSpace c = false) (s : List Char) :
    skipSpace (c :: s) = c :: s :=
  List.dropWhile_cons_of_neg (by simp [hc])

/-! ### Numbers -/

/-- One digit or more. -/
def IsDigits (s : List Char) : Prop := s ≠ [] ∧ ∀ c ∈ s, c.isDigit = true

instance : DecidablePred IsDigits := fun s =>
  decidable_of_iff (s ≠ [] ∧ s.all Char.isDigit) (by rw [List.all_eq_true, IsDigits])

/-- The digits before the point: no zero stands before another digit. -/
def IsWhole (s : List Char) : Prop := IsDigits s ∧ ∀ r, s = '0' :: r → r = []

/-- A point with digits, or nothing. -/
def IsFraction (s : List Char) : Prop := s = [] ∨ ∃ ds, IsDigits ds ∧ s = '.' :: ds

/-- An exponent, or nothing. -/
def IsExponent (s : List Char) : Prop :=
  s = [] ∨ ∃ e sign ds, e ∈ ['e', 'E'] ∧ sign ∈ [[], ['+'], ['-']] ∧ IsDigits ds ∧
    s = e :: (sign ++ ds)

/-- A number. -/
inductive IsNumber : List Char → Prop where
  | mk {sign whole fraction exponent : List Char} : sign ∈ [[], ['-']] → IsWhole whole →
      IsFraction fraction → IsExponent exponent →
      IsNumber (sign ++ (whole ++ (fraction ++ exponent)))

/-! ### Quoted texts -/

/-- A hexadecimal digit and its value. -/
def HexDigit (c : Char) (n : Nat) : Prop :=
  n < 16 ∧ (c = Nat.digitChar n ∨ c = (Nat.digitChar n).toUpper)

/-- Four hexadecimal digits and their value. -/
inductive CodeUnit : List Char → Nat → Prop where
  | mk {a b c d : Char} {w x y z : Nat} : HexDigit a w → HexDigit b x → HexDigit c y →
      HexDigit d z → CodeUnit [a, b, c, d] (((w * 16 + x) * 16 + y) * 16 + z)

/-- May stand for itself between quotes. -/
def IsPlain (c : Char) : Prop := c ≠ '"' ∧ c ≠ '\\' ∧ 0x20 ≤ c.toNat

instance : DecidablePred IsPlain := fun c =>
  inferInstanceAs (Decidable (c ≠ '"' ∧ c ≠ '\\' ∧ 0x20 ≤ c.toNat))

/-- The letters that stand for a character behind a backslash. -/
def letterEscapes : List (Char × Char) :=
  [('"', '"'), ('\\', '\\'), ('/', '/'), ('b', '\x08'), ('f', '\x0c'), ('n', '\n'), ('r', '\r'),
    ('t', '\t')]

/-- What may stand between quotes. -/
inductive IsTextBody : List Char → Prop where
  | nil : IsTextBody []
  | plain {c : Char} {s : List Char} : IsPlain c → IsTextBody s → IsTextBody (c :: s)
  | letter {l c : Char} {s : List Char} : (l, c) ∈ letterEscapes → IsTextBody s →
      IsTextBody ('\\' :: l :: s)
  | code {digits s : List Char} {n : Nat} : CodeUnit digits n → IsTextBody s →
      IsTextBody ('\\' :: 'u' :: (digits ++ s))

/-- What stands between quotes, and the text that it stands for. A character beyond the first
plane takes the two code units that UTF-16 gives it. -/
inductive Spells : List Char → List Char → Prop where
  | nil : Spells [] []
  | plain {c : Char} {s t : List Char} : IsPlain c → Spells s t → Spells (c :: s) (c :: t)
  | letter {l c : Char} {s t : List Char} : (l, c) ∈ letterEscapes → Spells s t →
      Spells ('\\' :: l :: s) (c :: t)
  | code {c : Char} {digits s t : List Char} : CodeUnit digits c.toNat → Spells s t →
      Spells ('\\' :: 'u' :: (digits ++ s)) (c :: t)
  | pair {c : Char} {high low s t : List Char} {m n : Nat} : CodeUnit high (0xD800 + m) →
      CodeUnit low (0xDC00 + n) → m < 0x400 → n < 0x400 → c.toNat = 0x10000 + m * 0x400 + n →
      Spells s t → Spells ('\\' :: 'u' :: (high ++ '\\' :: 'u' :: (low ++ s))) (c :: t)

theorem spells_of_isPlain {s : List Char} (h : s.all fun c => decide (IsPlain c)) : Spells s s := by
  induction s with
  | nil => exact .nil
  | cons c s ih =>
      rw [List.all_cons, Bool.and_eq_true, decide_eq_true_iff] at h
      exact .plain h.1 (ih h.2)

theorem Spells.isTextBody {s t : List Char} (h : Spells s t) : IsTextBody s := by
  induction h with
  | nil => exact .nil
  | plain hc _ ih => exact .plain hc ih
  | letter hl _ ih => exact .letter hl ih
  | code hcode _ ih => exact .code hcode ih
  | pair hhigh hlow _ _ _ _ ih => exact .code hhigh (.code hlow ih)

/-! ### Values -/

/-- A value among blanks. -/
structure Item where
  before : List Char
  value : List Char
  after : List Char

/-- A name between quotes and a value, among blanks. -/
structure Member where
  before : List Char
  body : List Char
  beforeColon : List Char
  item : Item

namespace Item

def chars (i : Item) : List Char := i.before ++ (i.value ++ i.after)

theorem chars_append (i : Item) (rest : List Char) :
    i.chars ++ rest = i.before ++ (i.value ++ (i.after ++ rest)) := by
  simp only [chars, List.append_assoc]

theorem length_value_le (i : Item) : i.value.length ≤ i.chars.length := by
  simp only [chars, List.length_append]
  omega

structure Spaced (i : Item) : Prop where
  before : IsBlank i.before
  after : IsBlank i.after

instance : DecidablePred Spaced := fun i =>
  decidable_of_iff (IsBlank i.before ∧ IsBlank i.after)
    ⟨fun h => ⟨h.1, h.2⟩, fun h => ⟨h.before, h.after⟩⟩

end Item

namespace Member

def chars (m : Member) : List Char :=
  m.before ++ '"' :: (m.body ++ '"' :: (m.beforeColon ++ ':' :: m.item.chars))

theorem chars_append (m : Member) (rest : List Char) :
    m.chars ++ rest = m.before ++
      '"' :: (m.body ++ '"' :: (m.beforeColon ++ ':' :: (m.item.chars ++ rest))) := by
  simp only [chars, List.append_assoc, List.cons_append]

theorem length_value_le (m : Member) : m.item.value.length ≤ m.chars.length := by
  have hitem := m.item.length_value_le
  simp only [chars, List.length_append, List.length_cons]
  omega

structure Spaced (m : Member) : Prop where
  before : IsBlank m.before
  beforeColon : IsBlank m.beforeColon
  item : m.item.Spaced

instance : DecidablePred Spaced := fun m =>
  decidable_of_iff (IsBlank m.before ∧ IsBlank m.beforeColon ∧ m.item.Spaced)
    ⟨fun h => ⟨h.1, h.2.1, h.2.2⟩, fun h => ⟨h.before, h.beforeColon, h.item⟩⟩

end Member

/-- What stands between brackets: nothing but blanks, or parts with commas between them. -/
inductive Inside {α : Type} (chars : α → List Char) : List α → List Char → Prop where
  | empty {s : List Char} : IsBlank s → Inside chars [] s
  | parts {xs : List α} : xs ≠ [] → Inside chars xs (commaSeparated (xs.map chars))

/-- The text of a value. -/
inductive IsValue : List Char → Prop where
  | word {w : String} : w ∈ ["null", "true", "false"] → IsValue w.toList
  | number {s : List Char} : IsNumber s → IsValue s
  | text {s : List Char} : IsTextBody s → IsValue ('"' :: (s ++ ['"']))
  | list {items : List Item} {s : List Char} : Inside Item.chars items s →
      (∀ i ∈ items, i.Spaced) → (∀ i ∈ items, IsValue i.value) → IsValue ('[' :: (s ++ [']']))
  | object {members : List Member} {s : List Char} : Inside Member.chars members s →
      (∀ m ∈ members, m.Spaced ∧ IsTextBody m.body) → (∀ m ∈ members, IsValue m.item.value) →
      IsValue ('\x7b' :: (s ++ ['\x7d']))

/-- The text of an object with these members, among blanks. -/
structure IsObject (members : List Member) (text : List Char) : Prop where
  spaced : ∀ m ∈ members, m.Spaced
  values : ∀ m ∈ members, IsValue m.item.value
  text : ∃ before s after, IsBlank before ∧ Inside Member.chars members s ∧ IsBlank after ∧
    text = before ++ '\x7b' :: (s ++ '\x7d' :: after)

/-! ### How a value begins, and what may follow it -/

/-- The first character of some value. -/
def BeginsValue (c : Char) : Prop :=
  c.isDigit = true ∨ c ∈ ['n', 't', 'f', '-', '"', '[', '\x7b']

theorem BeginsValue.isSpace {c : Char} (h : BeginsValue c) : isSpace c = false := by
  rcases h with h | h
  · exact isSpace_of_isDigit h
  · simp only [List.mem_cons, List.not_mem_nil, or_false] at h
    rcases h with rfl | rfl | rfl | rfl | rfl | rfl | rfl <;> rfl

theorem BeginsValue.ne {c d : Char} (h : BeginsValue c) (hd : d ∈ [']', '\x7d', ',', ':']) :
    c ≠ d := by
  rintro rfl
  simp only [List.mem_cons, List.not_mem_nil, or_false] at hd
  rcases hd with rfl | rfl | rfl | rfl <;> rcases h with h | h <;> exact absurd h (by decide)

theorem IsDigits.exists_cons {s : List Char} (h : IsDigits s) :
    ∃ c r, s = c :: r ∧ c.isDigit = true := by
  cases s with
  | nil => exact absurd rfl h.1
  | cons c r => exact ⟨c, r, rfl, h.2 c List.mem_cons_self⟩

/-- **How a value begins.** -/
theorem IsValue.exists_head {v : List Char} (h : IsValue v) : ∃ c r, v = c :: r ∧ BeginsValue c := by
  cases h with
  | word hw =>
      simp only [List.mem_cons, List.not_mem_nil, or_false] at hw
      rcases hw with rfl | rfl | rfl
      · exact ⟨'n', _, rfl, .inr (by decide)⟩
      · exact ⟨'t', _, rfl, .inr (by decide)⟩
      · exact ⟨'f', _, rfl, .inr (by decide)⟩
  | number hs =>
      obtain ⟨hsign, ⟨hdigits, -⟩, -, -⟩ := hs
      obtain ⟨c, r, rfl, hc⟩ := hdigits.exists_cons
      simp only [List.mem_cons, List.not_mem_nil, or_false] at hsign
      rcases hsign with rfl | rfl
      · exact ⟨c, _, rfl, .inl hc⟩
      · exact ⟨'-', _, rfl, .inr (by decide)⟩
  | text => exact ⟨'"', _, rfl, .inr (by decide)⟩
  | list => exact ⟨'[', _, rfl, .inr (by decide)⟩
  | object => exact ⟨'\x7b', _, rfl, .inr (by decide)⟩

/-- A comma or a closing bracket. -/
def Stops : List Char → Prop
  | [] => False
  | c :: _ => c ∈ [',', ']', '\x7d']

/-- **Nothing that follows a value goes on with a number.** -/
theorem endsNumber_blank {b s : List Char} (hb : IsBlank b) (hs : Stops s) :
    endsNumber (b ++ s) = true := by
  cases b with
  | nil =>
      cases s with
      | nil => exact absurd hs id
      | cons c s =>
          simp only [Stops, List.mem_cons, List.not_mem_nil, or_false] at hs
          rcases hs with rfl | rfl | rfl <;> rfl
  | cons c b =>
      have hc := hb c List.mem_cons_self
      simp only [List.mem_cons, List.not_mem_nil, or_false] at hc
      rcases hc with rfl | rfl | rfl | rfl <;> rfl

/-! ### Parts between commas

A reader that has read one part stands before the blanks behind it. So what is left of a list
or of an object is blanks first, and then parts that each follow a comma. -/

/-- What stands before a part: a comma behind these blanks, unless it is the first part. -/
def lead : Bool → List Char → List Char
  | true, _ => []
  | false, b => b ++ [',']

/-- What is left of the inside of brackets: these parts behind these blanks. -/
def remaining : Bool → List Char → List (List Char) → List Char
  | _, b, [] => b
  | first, b, t :: ts => lead first b ++ (t ++ remaining false [] ts)

theorem append_remaining (b : List Char) (ts : List (List Char)) :
    b ++ remaining false [] ts = remaining false b ts := by
  cases ts with
  | nil => exact List.append_nil b
  | cons t ts => simp only [remaining, lead, List.nil_append, List.append_assoc]

theorem commaSeparated_eq (b : List Char) (t : List Char) (ts : List (List Char)) :
    commaSeparated (t :: ts) = remaining true b (t :: ts) := by
  induction ts generalizing b t with
  | nil => exact (List.append_nil t).symm
  | cons u ts ih =>
      rw [commaSeparated, ih [] u]
      rfl

theorem Inside.exists_remaining {α : Type} {chars : α → List Char} {xs : List α} {s : List Char}
    (h : Inside chars xs s) : ∃ b, IsBlank b ∧ s = remaining true b (xs.map chars) := by
  cases h with
  | empty hb => exact ⟨s, hb, rfl⟩
  | parts hne =>
      obtain ⟨x, xs, rfl⟩ := List.exists_cons_of_ne_nil hne
      exact ⟨[], isBlank_nil, commaSeparated_eq [] (chars x) (xs.map chars)⟩

theorem stops_remaining (ts : List (List Char)) {close : Char} (hclose : close ∈ [']', '\x7d'])
    (rest : List Char) : Stops (remaining false [] ts ++ close :: rest) := by
  cases ts with
  | nil => exact List.mem_cons_of_mem _ hclose
  | cons t ts => exact List.mem_cons_self

theorem length_remaining (b : List Char) (ts : List (List Char)) :
    ts.length ≤ (remaining false b ts).length ∧
      ∀ t ∈ ts, t.length ≤ (remaining false b ts).length := by
  induction ts generalizing b with
  | nil => exact ⟨Nat.zero_le _, fun _ h => nomatch h⟩
  | cons t ts ih =>
      obtain ⟨hcount, hlater⟩ := ih []
      have hlength : (remaining false b (t :: ts)).length =
          b.length + 1 + (t.length + (remaining false [] ts).length) := by
        simp only [remaining, lead, List.length_append, List.length_singleton]
      constructor
      · rw [List.length_cons]
        omega
      · intro u hu
        rcases List.mem_cons.mp hu with rfl | hu
        · omega
        · have hle := hlater u hu
          omega

/-- Brackets hold at most one part more than characters, and no part longer than their
inside. -/
theorem Inside.length_le {α : Type} {chars : α → List Char} {xs : List α} {s : List Char}
    (h : Inside chars xs s) :
    xs.length ≤ s.length + 1 ∧ ∀ x ∈ xs, (chars x).length ≤ s.length := by
  obtain ⟨b, -, rfl⟩ := h.exists_remaining
  cases xs with
  | nil => exact ⟨Nat.zero_le _, fun _ hx => nomatch hx⟩
  | cons x xs =>
      obtain ⟨hcount, hlater⟩ := length_remaining [] (xs.map chars)
      rw [List.length_map] at hcount
      have hlength : (remaining true b ((x :: xs).map chars)).length =
          (chars x).length + (remaining false [] (xs.map chars)).length := by
        simp only [List.map_cons, remaining, lead, List.nil_append, List.length_append]
      constructor
      · rw [List.length_cons]
        omega
      · intro y hy
        rcases List.mem_cons.mp hy with rfl | hy
        · omega
        · have hle := hlater (chars y) (List.mem_map_of_mem hy)
          omega

end KeyAudit.Json
