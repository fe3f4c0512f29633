/-
Patterns: what a text has to look like.

A pattern is compiled from characters that are each marked as quoted or not
(`Pattern.ofMarked`); a quoted character stands for itself. `Pattern.matchesAll` is
the test, and `Pattern.trim` cuts off what matches at an end.
-/

import KeyAudit.Sandbox.Shell.Command

namespace KeyAudit.Sandbox.Shell

/-- Separates arguments where nothing else does. -/
def argumentMark : Char := '\x00'

/-- Characters that are each marked as quoted or not. -/
abbrev Marked := List (Bool × Char)

/-- A class of characters that has a name. -/
inductive CharClass where
  | alnum | alpha | blank | cntrl | digit | graph | lower | print | punct | space | upper | xdigit
  deriving DecidableEq, Repr

namespace CharClass

def ofName? (name : Bytes) : Option CharClass :=
  [("alnum", alnum), ("alpha", alpha), ("blank", blank), ("cntrl", cntrl), ("digit", digit),
    ("graph", graph), ("lower", lower), ("print", print), ("punct", punct), ("space", space),
    ("upper", upper), ("xdigit", xdigit)].lookup (String.ofList name)

def contains (k : CharClass) (c : Char) : Bool :=
  let n := c.toNat
  match k with
  | .alnum => c.isAlphanum
  | .alpha => c.isAlpha
  | .blank => c == ' ' || c == '\t'
  | .cntrl => n < 32 || n == 127
  | .digit => c.isDigit
  | .graph => 32 < n && n < 127
  | .lower => c.isLower
  | .print => 32 ≤ n && n < 127
  | .punct => 32 < n && n < 127 && !c.isAlphanum
  | .space => n == 32 || (9 ≤ n && n ≤ 13)
  | .upper => c.isUpper
  | .xdigit => c.isDigit || "abcdefABCDEF".toList.contains c

end CharClass

/-- What a bracket lists. -/
inductive Member where
  | range (low high : Char)
  | named (k : CharClass)
  deriving DecidableEq, Repr

/-- Bytes above 127 are below all others in a range. -/
def signedByte (c : Char) : Int := if c.toNat < 128 then c.toNat else (c.toNat : Int) - 256

def Member.contains (c : Char) : Member → Bool
  | .range low high => signedByte low ≤ signedByte c && signedByte c ≤ signedByte high
  | .named k => k.contains c

/-- What stands for a part of the text. -/
inductive Glyph where
  | exact (c : Char)
  | any
  /-- Any number of characters. -/
  | many
  | bracket (inverted : Bool) (members : List Member)
  deriving DecidableEq, Repr

abbrev Pattern := List Glyph

namespace Pattern

/-! ### Reading -/

/-- The name of a class behind its mark, and what follows it. -/
def className? : Marked → Option (Bytes × Marked)
  | (false, ':') :: (false, ']') :: cs => some ([], cs)
  | (_, c) :: cs => (className? cs).map fun (name, rest) => (c :: name, rest)
  | [] => none

/-- The class that is named behind its mark, and what follows it. -/
def charClass? (named : Marked) : Option (CharClass × Marked) :=
  (className? named).bind fun (name, rest) => (CharClass.ofName? name).map (·, rest)

/-- The members of a bracket, and what follows it. The first member may be a closing
bracket. -/
def members? : Nat → Bool → Marked → Option (List Member × Marked)
  | 0, _, _ => none
  | _ + 1, _, [] => none
  | n + 1, first, (quoted, c) :: cs =>
    if !first && !quoted && c == ']' then some ([], cs)
    else
      let single : Option (List Member × Marked) :=
        match cs with
        | (false, '-') :: (q, high) :: rest =>
          if high == ']' && !q then (members? n false cs).map fun (ms, r) => (.range c c :: ms, r)
          else (members? n false rest).map fun (ms, r) => (.range c high :: ms, r)
        | _ => (members? n false cs).map fun (ms, r) => (.range c c :: ms, r)
      match !quoted && c == '[', cs with
      | true, (false, ':') :: named =>
        match charClass? named with
        | some (k, rest) => (members? n false rest).map fun (ms, r) => (.named k :: ms, r)
        | none => single
      | _, _ => single

/-- A backslash that is not quoted quotes the character behind it. -/
def escape : Marked → Marked
  | (false, '\\') :: (_, c) :: cs => (true, c) :: escape cs
  | c :: cs => c :: escape cs
  | [] => []

/-- The pattern that marked characters make. -/
def ofEscaped : Nat → Marked → Pattern
  | 0, _ => []
  | _ + 1, [] => []
  | n + 1, (quoted, c) :: cs =>
    if quoted then .exact c :: ofEscaped n cs
    else if c == '?' then .any :: ofEscaped n cs
    else if c == '*' then .many :: ofEscaped n cs
    else if c == '[' then
      let (inverted, inside) := match cs with
        | (false, '!') :: rest => (true, rest)
        | _ => (false, cs)
      match members? (inside.length + 1) true inside with
      | some (members, rest) => .bracket inverted members :: ofEscaped n rest
      | none => .exact c :: ofEscaped n cs
    else .exact c :: ofEscaped n cs

def ofMarked (chars : Marked) : Pattern := ofEscaped (chars.length + 1) (escape chars)

/-! ### Matching -/

def accepts (c : Char) : Glyph → Bool
  | .exact d => c == d
  | .any => true
  | .many => true
  | .bracket inverted members => members.any (Member.contains c) != inverted

/-- Does any end of the first characters of a text pass the test? The number of those
characters goes with the text. -/
def anySuffix (test : Nat → Bytes → Bool) : Nat → Bytes → Bool
  | n + 1, c :: s => test (n + 1) (c :: s) || anySuffix test n s
  | n, s => test n s

/-- Does the pattern match the first characters of a text, all of them? -/
def matchesFirst : Pattern → Nat → Bytes → Bool
  | [], n, s => n == 0 || s.isEmpty
  | .many :: p, n, s => if p.isEmpty then true else anySuffix (matchesFirst p) n s
  | g :: p, n + 1, c :: s => accepts c g && matchesFirst p n s
  | _ :: _, _, _ => false

/-- Does the pattern match the whole text? -/
def matchesAll (p : Pattern) (s : Bytes) : Bool := p.matchesFirst s.length s

/-- The ends of a text, each with the number of characters before it, the shortest
end first. -/
def ends : Nat → List (Nat × Bytes) → Bytes → List (Nat × Bytes)
  | n, acc, [] => (n, []) :: acc
  | n, acc, c :: s => ends (n + 1) ((n, c :: s) :: acc) s

/-- A text without what the pattern matches at its front or back, as short or as long
as it can be. Only the first of several arguments can be matched at the front, and one
that is matched takes all that follow it along. -/
def trim (p : Pattern) (front longest : Bool) (s : Bytes) : Bytes :=
  let several := s.contains argumentMark
  let own (cs : Bytes) : Bytes := if several then cs.takeWhile (· != argumentMark) else cs
  let first := (own s).length
  let length := s.length
  let backwards := ends 0 [] s
  let places := if front != longest then (backwards.reverse.take (first + 1)) else backwards
  let place? := places.find? fun (n, rest) =>
    if front then p.matchesFirst (min n first) s else p.matchesFirst (length - n) (own rest)
  match place? with
  | some (n, rest) => if front then rest else s.take n
  | none => s

end Pattern

end KeyAudit.Sandbox.Shell
