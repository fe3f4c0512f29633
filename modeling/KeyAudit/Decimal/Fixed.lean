/-
A double with a set number of decimal places.

The exact value is rounded to the nearest number with so many places, and a value
halfway between two goes to the one with the even last digit.
-/

import KeyAudit.Decimal.Binary

namespace KeyAudit.Decimal

/-- The quotient rounded to the nearest natural number, a tie to the even one. -/
def roundDiv (n d : Nat) : Nat :=
  let q := n / d
  let twice := 2 * (n % d)
  if twice < d then q
  else if d < twice then q + 1
  else if q % 2 = 0 then q
  else q + 1

/-- Digits filled up with zeros in front. -/
def padded (width n : Nat) : List Char :=
  List.replicate (width - (digits n).length) '0' ++ digits n

/-- The text of a double with `places` decimal places. A negative zero keeps its
sign. -/
def fixed (places : Nat) : Reading → List Char
  | .notANumber => "NaN".toList
  | .infinite negative => (if negative then ['-'] else []) ++ "inf".toList
  | .finite x =>
    let scaled := roundDiv (x.numerator * Nat.pow 10 places) x.denominator
    (if x.negative then ['-'] else []) ++ digits (scaled / Nat.pow 10 places) ++
      (if places = 0 then [] else '.' :: padded places (scaled % Nat.pow 10 places))

end KeyAudit.Decimal
