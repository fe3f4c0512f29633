/-
Closed ranges of code points, in which the character classes of this library
are written down.
-/

namespace KeyAudit.Text

/-- Does one of the closed ranges hold the code point `n`? -/
def covers (ranges : List (Nat × Nat)) (n : Nat) : Bool :=
  ranges.any fun r => r.1 ≤ n && n ≤ r.2

end KeyAudit.Text
