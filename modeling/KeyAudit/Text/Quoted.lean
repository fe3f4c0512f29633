/-
Quoted texts, as messages show the names they are about: between double quotes,
with the quote and the backslash escaped, the four common controls by letter and
every other hidden character by its code point.
-/

import KeyAudit.Text.Hidden

namespace KeyAudit.Text

/-- Lower-case hexadecimal digits of a number. -/
def hexDigits (n : Nat) : List Char := Nat.toDigits 16 n

/-- How one character stands between the quotes. -/
def escaped (c : Char) : List Char :=
  if c = '"' || c = '\\' then ['\\', c]
  else if c = '\n' then ['\\', 'n']
  else if c = '\r' then ['\\', 'r']
  else if c = '\t' then ['\\', 't']
  else if c = '\x00' then ['\\', '0']
  else if isHidden c then ['\\', 'u', '\x7b'] ++ hexDigits c.toNat ++ ['\x7d']
  else [c]

/-- The text between double quotes, every character spelled so that it can be seen. -/
def quoted (s : String) : String :=
  String.ofList ('"' :: s.toList.flatMap escaped ++ ['"'])

end KeyAudit.Text
