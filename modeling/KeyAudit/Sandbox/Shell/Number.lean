/-
Numbers as a script writes them: decimal, octal behind a zero, hexadecimal behind
`0x`, binary behind `0b`, in 64 bits.
-/

import KeyAudit.Sandbox.Shell.Command

namespace KeyAudit.Sandbox.Shell

def isSpace (c : Char) : Bool := c == ' ' || (9 ≤ c.toNat && c.toNat ≤ 13)

/-- The value of a digit, up to 36. -/
def digitValue (c : Char) : Nat :=
  if c.isDigit then c.toNat - '0'.toNat
  else if c.isLower then c.toNat - 'a'.toNat + 10
  else if c.isUpper then c.toNat - 'A'.toNat + 10
  else 36

/-- The number that digits of a base write. -/
def ofDigits (base : Nat) (digits : Bytes) : Nat :=
  digits.foldl (fun n c => n * base + digitValue c) 0

/-- The base that digits announce by how they begin, and the digits themselves. -/
def announcedBase (digits : Bytes) : Nat × Bytes :=
  match digits with
  | '0' :: x :: d :: rest =>
    if (x == 'x' || x == 'X') && digitValue d < 16 then (16, d :: rest)
    else if (x == 'b' || x == 'B') && digitValue d < 2 then (2, d :: rest)
    else (8, digits)
  | '0' :: _ => (8, digits)
  | _ => (10, digits)

/-- An integer at the front of a text, and the text behind it. -/
structure Numeral where
  negative : Bool
  magnitude : Nat
  rest : Bytes

namespace Numeral

/-- Reads an integer. Base 0 stands for the one that the digits announce. -/
def read? (base : Nat) (text : Bytes) : Option Numeral :=
  let (negative, digits) := match text.dropWhile isSpace with
    | '-' :: cs => (true, cs)
    | '+' :: cs => (false, cs)
    | cs => (false, cs)
  let (base, digits) := if base = 0 then announcedBase digits else (base, digits)
  let own := digits.takeWhile fun c => digitValue c < base
  if own.isEmpty then none
  else some ⟨negative, ofDigits base own, digits.drop own.length⟩

def maxSigned : Nat := Nat.pow 2 63 - 1
def maxUnsigned : Nat := Nat.pow 2 64 - 1

/-- Is the number too large for 64 bits with a sign? -/
def overflows (n : Numeral) : Bool :=
  if n.negative then maxSigned + 1 < n.magnitude else maxSigned < n.magnitude

/-- The nearest number in 64 bits with a sign. -/
def signed (n : Numeral) : Int :=
  if n.negative then -(Nat.min n.magnitude (maxSigned + 1) : Nat) else (Nat.min n.magnitude maxSigned : Nat)

/-- The number in 64 bits without a sign; a negative one is counted from the end. -/
def unsigned (n : Numeral) : Nat :=
  if maxUnsigned < n.magnitude then maxUnsigned
  else if n.negative then (maxUnsigned + 1 - n.magnitude) % (maxUnsigned + 1) else n.magnitude

end Numeral

/-- A whole text as an integer, with blanks around it. Only where the base is announced
can the text be blank, and then it is zero. -/
def integer? (base : Nat) (text : Bytes) : Option Int :=
  match Numeral.read? base text with
  | none => if base = 0 && text.all isSpace then some 0 else none
  | some n => if n.overflows || !n.rest.all isSpace then none else some n.signed

/-- A whole text as a count or a status. -/
def count? (text : Bytes) : Option Nat :=
  match integer? 10 text with
  | some n => if 0 ≤ n && n < Nat.pow 2 31 then some n.toNat else none
  | none => none

/-- A number of 64 bits with a sign, as the lowest bits of any number. -/
def wrap (n : Int) : Int := n.bmod (Nat.pow 2 64)

end KeyAudit.Sandbox.Shell
