/-
JSON numbers.

An integer literal that fits 64 bits is an integer; every other number is a
double. Its digits are gathered into a 64-bit significand as far as they fit, and
the significand is then scaled by a power of ten in double arithmetic, so the last
place may differ from the nearest double. A number that is too large for a double
is a failure.
-/

import KeyAudit.Json.Basic
import KeyAudit.Json.Token

namespace KeyAudit.Json

/-! ### Digits -/

def digitValue (c : Char) : Nat := c.toNat - 48

/-- The largest 64-bit natural number. -/
def maxWord : Nat := Nat.pow 2 64 - 1

/-- Takes in digits while the value stays below a bound; gives the value and the
digits that were left over. -/
def gather (bound : Nat) : Nat → List Char → Nat × List Char
  | n, [] => (n, [])
  | n, c :: cs =>
    if n * 10 + digitValue c ≤ bound then gather bound (n * 10 + digitValue c) cs
    else (n, c :: cs)

/-! ### Scaling by a power of ten -/

/-- A power of ten as a double. -/
def tenTo (k : Nat) : Float := Float.ofScientific 1 false k

/-- The largest power of ten that is a double. -/
def maxTenExponent : Nat := 308

/-- `x · 10^e`, or nothing if that is too large. Large negative exponents are taken
in steps, of which three always bring the value to zero. -/
def scaled : Nat → Float → Int → Option Float
  | 0, x, _ => some x
  | steps + 1, x, e =>
    if e.natAbs ≤ maxTenExponent then
      if 0 ≤ e then
        let y := x * tenTo e.natAbs
        if y.isInf then none else some y
      else some (x / tenTo e.natAbs)
    else if x == 0 then some x
    else if 0 ≤ e then none
    else scaled steps (x / tenTo maxTenExponent) (e + maxTenExponent)

/-- A double with its sign. -/
def signed (negative : Bool) (x : Float) : Float := if negative then -x else x

/-- The number `± n · 10^e`. -/
def readReal (negative : Bool) (n : Nat) (e : Int) : Reader Number := fun s =>
  match scaled 4 n.toUInt64.toFloat e with
  | some x => .ok (.real (signed negative x), s)
  | none => .error (failAt .numberOutOfRange s)

/-! ### The parts of a number -/

/-- The largest exponent that is told apart from infinity. -/
def maxExponent : Nat := Nat.pow 2 31 - 1

/-- The exponent, after its letter. `n` and `e` are the significand and the
exponent so far. -/
def readExponent (negative : Bool) (n : Nat) (e : Int) : Reader Number := fun s =>
  let (down, s) : Bool × List Char := match s with
    | '+' :: r => (false, r)
    | '-' :: r => (true, r)
    | _ => (false, s)
  match s with
  | [] => .error (failAt .valueUnfinished [])
  | c :: r =>
    if c.isDigit then
      let rest := s.dropWhile Char.isDigit
      match gather maxExponent 0 (s.takeWhile Char.isDigit) with
      | (k, []) => readReal negative n (if down then e - k else e + k) rest
      | (_, excess) =>
        if n ≠ 0 ∧ ¬ down then .error (failAfter .numberOutOfRange 1 (excess ++ rest))
        else .ok (.real (signed negative 0), rest)
    else .error (failAfter .numberInvalid 1 (c :: r))

/-- The digits behind the point, and what follows them. -/
def readFraction (negative : Bool) (n : Nat) (e : Int) : Reader Number := fun s =>
  let digits := s.takeWhile Char.isDigit
  let rest := s.dropWhile Char.isDigit
  match digits, rest with
  | [], [] => .error (failAt .valueUnfinished [])
  | [], _ => .error (failBehind .numberInvalid rest)
  | _, _ =>
    let (n, excess) := gather maxWord n digits
    let e := e - (digits.length - excess.length : Nat)
    match rest with
    | 'e' :: r => readExponent negative n e r
    | 'E' :: r => readExponent negative n e r
    | _ => readReal negative n e rest

/-- The integer `± n` where it fits 64 bits; minus zero is a double. -/
def integer (negative : Bool) (n : Nat) : Number :=
  if !negative then .int n
  else if 0 < n ∧ n ≤ Nat.pow 2 63 then .int (-n)
  else .real (-(n.toUInt64.toFloat))

/-- What follows the digits before the point: `n` is what they come to, and `excess`
says how many of them did not fit. -/
def readTail (negative : Bool) (n excess : Nat) : Reader Number := fun s =>
  match s with
  | '.' :: r => readFraction negative n excess r
  | 'e' :: r => readExponent negative n excess r
  | 'E' :: r => readExponent negative n excess r
  | _ => if excess = 0 then .ok (integer negative n, s) else readReal negative n excess s

/-- A number, after its sign. -/
def readNumber (negative : Bool) : Reader Number := fun s =>
  match s with
  | [] => .error (failAt .valueUnfinished [])
  | '0' :: r =>
    match r with
    | d :: _ => if d.isDigit then .error (failBehind .numberInvalid r) else readTail negative 0 0 r
    | [] => readTail negative 0 0 r
  | c :: _ =>
    if c.isDigit then
      let (n, excess) := gather maxWord 0 (s.takeWhile Char.isDigit)
      readTail negative n excess.length (s.dropWhile Char.isDigit)
    else .error (failAfter .numberInvalid 1 s)

end KeyAudit.Json
