/-
The shortest decimal text of a double: of the decimals that read back as the
same double the fewest digits win, and of those the decimal nearest to it.

Around a double lies the interval of the reals that round to it; its ends belong
to it when the mantissa is even. For one digit, two digits and so on, the two
decimals next to the value on that grid are tested against the interval
(`candidate?`).
-/

import KeyAudit.Decimal.Binary

namespace KeyAudit.Decimal

/-- The decimal `digits · 10^exponent`. -/
structure Scientific where
  digits : Nat
  exponent : Int
  deriving DecidableEq, Repr

namespace Shortest

/-! ### The interval of a double -/

/-- A point on a fine grid: `points` units of `2^exponent`. The unit is a quarter
of the last place of the double's mantissa. -/
structure Interval where
  low : Nat
  value : Nat
  high : Nat
  closed : Bool
  exponent : Int
  deriving DecidableEq, Repr

/-- The reals that round to the double. Below a power of two the next double is
only half as far away. -/
def interval (x : Binary) : Interval where
  low := if x.mantissa = Nat.pow 2 52 ∧ -1074 < x.exponent then 4 * x.mantissa - 1 else 4 * x.mantissa - 2
  value := 4 * x.mantissa
  high := 4 * x.mantissa + 2
  closed := x.mantissa % 2 == 0
  exponent := x.exponent - 2

/-- Grid points `n` of the interval and decimals `d · 10^g` are compared as
`n * up` with `d * down`. -/
def up (i : Interval) (g : Int) : Nat := Nat.pow 2 i.exponent.toNat * Nat.pow 10 (-g).toNat

def down (i : Interval) (g : Int) : Nat := Nat.pow 2 (-i.exponent).toNat * Nat.pow 10 g.toNat

/-- Does `d · 10^g` lie in the interval? -/
def readsBack (i : Interval) (g : Int) (d : Nat) : Bool :=
  let a := up i g
  let b := d * down i g
  if i.closed then i.low * a ≤ b && b ≤ i.high * a
  else i.low * a < b && b < i.high * a

/-! ### Choosing the digits -/

/-- The decimal on the grid `10^g` that reads back and is nearest to the value,
the one with the even digit if both are as near. -/
def candidate? (i : Interval) (g : Int) : Option Nat :=
  let d := i.value * up i g / down i g
  let rest := i.value * up i g % down i g
  match readsBack i g d, readsBack i g (d + 1) with
  | false, false => none
  | true, false => some d
  | false, true => some (d + 1)
  | true, true =>
    if 2 * rest < down i g then some d
    else if down i g < 2 * rest then some (d + 1)
    else if d % 2 = 0 then some d
    else some (d + 1)

/-- The first hit on finer and finer grids, beginning with `10^g`. -/
def search (i : Interval) : Nat → Int → Option Scientific
  | 0, _ => none
  | n + 1, g =>
    match candidate? i g with
    | some d => some ⟨d, g⟩
    | none => search i n (g - 1)

/-- A power of ten that is at most the value of the double: the value has one
digit above the point of the grid `10^g`. -/
def leadingExponent (x : Binary) : Int :=
  let shift : Nat := 400
  ((digits (x.numerator * Nat.pow 10 shift / x.denominator)).length : Int) - 1 - shift

/-- Moves zeros at the end of the digits into the exponent. -/
def stripZeros : Nat → Scientific → Scientific
  | 0, x => x
  | n + 1, x =>
    if x.digits % 10 = 0 ∧ x.digits ≠ 0 then stripZeros n ⟨x.digits / 10, x.exponent + 1⟩ else x

end Shortest

/-- The shortest decimal that reads back as this double, without its sign. No more
than 17 digits are ever needed; the whole part stands in where none was found. -/
def shortest (x : Binary) : Scientific :=
  if x.mantissa = 0 then ⟨0, 0⟩
  else match Shortest.search (Shortest.interval x) 17 (Shortest.leadingExponent x) with
    | some s => Shortest.stripZeros 20 s
    | none => ⟨x.numerator / x.denominator, 0⟩

/-- The shortest text of a double: positional while the first digit stands between
the fifth place after the point and the sixteenth before it, with a fraction
always; beyond, one digit, the fraction if there is one, and a signed exponent. -/
def shortestText : Reading → List Char
  | .notANumber => "NaN".toList
  | .infinite negative => (if negative then ['-'] else []) ++ "inf".toList
  | .finite x =>
    let s := shortest x
    let ds := digits s.digits
    let leading : Int := ds.length - 1 + s.exponent
    let body :=
      if leading < -5 ∨ 15 < leading then
        ds.take 1 ++ (if ds.length = 1 then [] else '.' :: ds.drop 1) ++
          'e' :: (if leading < 0 then '-' else '+') :: digits leading.natAbs
      else if 0 ≤ s.exponent then ds ++ List.replicate s.exponent.toNat '0' ++ ['.', '0']
      else if 0 ≤ leading then
        ds.take (leading.toNat + 1) ++ '.' :: ds.drop (leading.toNat + 1)
      else '0' :: '.' :: (List.replicate (-leading - 1).toNat '0' ++ ds)
    (if x.negative then ['-'] else []) ++ body

end KeyAudit.Decimal
