/-
Writing JSON text: quoted texts, whole values in one line, and objects of scalar
values with one member a line.

`readTextFrom_written` says that a written text is read back, whatever it holds.
-/

import KeyAudit.Json.Reader

namespace KeyAudit.Json

/-! ### Quoted texts -/

/-- Two hexadecimal digits. -/
def hexPair (n : Nat) : List Char := [Nat.digitChar (n / 16), Nat.digitChar (n % 16)]

/-- How a character stands in a written text. -/
def writtenChar (c : Char) : List Char :=
  if c = '"' then ['\\', '"']
  else if c = '\\' then ['\\', '\\']
  else if c = '\x08' then ['\\', 'b']
  else if c = '\t' then ['\\', 't']
  else if c = '\n' then ['\\', 'n']
  else if c = '\x0c' then ['\\', 'f']
  else if c = '\r' then ['\\', 'r']
  else if isControl c then ['\\', 'u', '0', '0'] ++ hexPair c.toNat
  else [c]

/-- A text in quotes. -/
def writtenText (s : List Char) : List Char := '"' :: s.flatMap writtenChar ++ ['"']

theorem hexValue?_digits :
    ∀ n : Fin 32, hexValue? (Nat.digitChar (n.val / 16)) = some (n.val / 16) ∧
      hexValue? (Nat.digitChar (n.val % 16)) = some (n.val % 16) := by decide

theorem readEscape_control {c : Char} (h : isControl c = true) (rest : List Char) :
    readEscape ('u' :: '0' :: '0' :: hexPair c.toNat ++ rest) = .ok (c, 5) := by
  have hlt : c.toNat < 32 := by
    have hv : c.val < 0x20 := by simpa [isControl] using h
    exact UInt32.lt_iff_toNat_lt.1 hv
  obtain ⟨h₁, h₂⟩ := hexValue?_digits ⟨c.toNat, hlt⟩
  have h0 : hexValue? '0' = some 0 := by decide
  have hsum : ((0 * 16 + 0) * 16 + c.toNat / 16) * 16 + c.toNat % 16 = c.toNat := by omega
  have hread : readHex ('0' :: '0' :: hexPair c.toNat ++ rest) = .ok (c.toNat, rest) := by
    simp only [hexPair, List.cons_append, List.nil_append, readHex, h0, h₁, h₂, hsum]
  have hlow : isLowSurrogate c.toNat = false := by
    simp only [isLowSurrogate, Bool.and_eq_false_iff, decide_eq_false_iff_not]; omega
  have hhigh : isHighSurrogate c.toNat = false := by
    simp only [isHighSurrogate, Bool.and_eq_false_iff, decide_eq_false_iff_not]; omega
  have hcode : readCodePoint ('0' :: '0' :: hexPair c.toNat ++ rest) = .ok (c, 4) := by
    simp only [readCodePoint, hread, hlow, hhigh, Bool.false_eq_true, if_false, Char.ofNat_toNat]
  simp only [List.cons_append] at hcode ⊢
  simp only [readEscape, hcode, if_true]

theorem readTextFrom_escape {x : Char} {n : Nat} {s : List Char}
    (h : readEscape s = .ok (x, n)) :
    readTextFrom 0 ('\\' :: s) =
      match readTextFrom n s with
      | .error e => .error e
      | .ok (xs, r) => .ok (x :: xs, r) := by
  have hbs : ('\\' : Char) ≠ '"' := by decide
  cases hr : readTextFrom n s <;> simp only [readTextFrom, hbs, if_false, if_true, h, hr]

/-- One written character is read back. -/
theorem readTextFrom_writtenChar (c : Char) (s : List Char) :
    readTextFrom 0 (writtenChar c ++ s) =
      match readTextFrom 0 s with
      | .error e => .error e
      | .ok (xs, r) => .ok (c :: xs, r) := by
  simp only [writtenChar]
  split
  · rename_i h; subst h; rfl
  split
  · rename_i h; subst h; rfl
  split
  · rename_i h; subst h; rfl
  split
  · rename_i h; subst h; rfl
  split
  · rename_i h; subst h; rfl
  split
  · rename_i h; subst h; rfl
  split
  · rename_i h; subst h; rfl
  split
  · rename_i h
    have hesc := readEscape_control h s
    have hskip := readTextFrom_covered ('u' :: '0' :: '0' :: hexPair c.toNat) s
    have hlen : ('u' :: '0' :: '0' :: hexPair c.toNat).length = 5 := rfl
    rw [hlen] at hskip
    simp only [List.cons_append, List.nil_append] at hesc hskip ⊢
    rw [readTextFrom_escape hesc, hskip]
  · rename_i hq hb _ _ _ _ _ hc
    simp only [List.cons_append, List.nil_append, readTextFrom, hq, hb, hc, if_false]
    cases readTextFrom 0 s <;> rfl

/-- **A written text is read back**, whatever characters it holds. -/
theorem readTextFrom_written (rest : List Char) :
    ∀ xs : List Char, readTextFrom 0 (xs.flatMap writtenChar ++ '"' :: rest) = .ok (xs, rest)
  | [] => by simp [readTextFrom]
  | c :: xs => by
    rw [List.flatMap_cons, List.append_assoc, readTextFrom_writtenChar,
      readTextFrom_written rest xs]

/-! ### Values in one line -/

/-- The text of a number. -/
def Number.written : Number → List Char
  | .int n => (toString n).toList
  | .real x => Decimal.shortestText (Decimal.read x.toBits)

/-- Texts with a comma between each and the next. -/
def commaSeparated : List (List Char) → List Char
  | [] => []
  | [t] => t
  | t :: u :: ts => t ++ ',' :: commaSeparated (u :: ts)

mutual

/-- The text of a value, without blanks. -/
def written : Json → List Char
  | .null => "null".toList
  | .bool true => "true".toList
  | .bool false => "false".toList
  | .num n => n.written
  | .str s => writtenText s.toList
  | .arr items => '[' :: commaSeparated (writtenItems items) ++ [']']
  | .obj members => '\x7b' :: commaSeparated (writtenMembers members) ++ ['\x7d']

def writtenItems : List Json → List (List Char)
  | [] => []
  | v :: vs => written v :: writtenItems vs

def writtenMembers : List (String × Json) → List (List Char)
  | [] => []
  | (name, v) :: ms => (writtenText name.toList ++ ':' :: written v) :: writtenMembers ms

end

/-! ### Objects with one member a line -/

/-- A member on a line of its own. -/
def memberLine (member : String × Json) : List Char :=
  ' ' :: ' ' :: writtenText member.1.toList ++ ':' :: ' ' :: written member.2

/-- Lines with a comma at the end of each but the last. -/
def commaLines : List (List Char) → List Char
  | [] => []
  | [l] => l
  | l :: k :: ls => l ++ ',' :: '\n' :: commaLines (k :: ls)

/-- An object with one member a line, each indented by two blanks. -/
def writtenRecord (members : List (String × Json)) : List Char :=
  '\x7b' :: '\n' :: commaLines (members.map memberLine) ++ ['\n', '\x7d']

end KeyAudit.Json
