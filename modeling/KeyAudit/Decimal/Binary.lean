/-
Doubles taken apart: a finite double is a natural number times a power of two,
with a sign. The two decimal texts of a double (`Decimal.Fixed`,
`Decimal.Shortest`) start from this reading and go on in exact arithmetic.
-/

namespace KeyAudit.Decimal

/-- A finite double: the mantissa times two to the exponent. -/
structure Binary where
  negative : Bool
  mantissa : Nat
  exponent : Int
  deriving DecidableEq, Repr

/-- What the bits of a double stand for. -/
inductive Reading where
  | finite (x : Binary)
  | infinite (negative : Bool)
  | notANumber
  deriving DecidableEq, Repr

/-- Reads one sign bit, eleven exponent bits and 52 fraction bits. -/
def read (bits : UInt64) : Reading :=
  let n := bits.toNat
  let negative := decide (Nat.pow 2 63 ≤ n)
  let exponent : Nat := n / Nat.pow 2 52 % Nat.pow 2 11
  let fraction := n % Nat.pow 2 52
  if exponent = 0 then .finite ⟨negative, fraction, -1074⟩
  else if exponent < Nat.pow 2 11 - 1 then .finite ⟨negative, Nat.pow 2 52 + fraction, (exponent : Int) - 1075⟩
  else if fraction = 0 then .infinite negative
  else .notANumber

namespace Binary

/-- The numerator of the absolute value as a fraction. -/
def numerator (x : Binary) : Nat := x.mantissa * Nat.pow 2 x.exponent.toNat

/-- The denominator of the absolute value as a fraction. -/
def denominator (x : Binary) : Nat := Nat.pow 2 (-x.exponent).toNat

end Binary

/-- The decimal digits of a number, first digit first. -/
def digits (n : Nat) : List Char := Nat.toDigits 10 n

end KeyAudit.Decimal
