/-
Key references in source text.

A reference is `t(` directly followed by a quoted key: a letter, then letters,
digits, `.`, `_` or `-`. The quote may be single or double on either side. The
quoted key is closed by `)` or `,`, or stands at the end of a line, where the
arguments go on below. The `t` must begin a word, so that a call of `get` or
`format` never counts.

A text is scanned once for each way to close (`Closing`), from left to right;
a scan goes on behind each reference it finds. `referencedKeys` is the set of
keys found.
-/

import KeyAudit.KeySet
import KeyAudit.Text.WordChar

namespace KeyAudit.Reference

/-! ### Parts of a reference -/

def isQuote (c : Char) : Bool := c == '\'' || c == '"'

/-- May begin a key. -/
def isKeyHead (c : Char) : Bool := c.isAlpha

/-- May stand in a key. -/
def isKeyChar (c : Char) : Bool := c.isAlphanum || c == '.' || c == '_' || c == '-'

/-- A letter and any key characters. -/
def isKey : List Char → Bool
  | [] => false
  | c :: cs => isKeyHead c && cs.all isKeyChar

/-- What may follow the closing quote of a key. -/
inductive Closing where
  /-- The call goes on in the same line: `)` or `,`. -/
  | mark
  /-- The line ends, with or without a carriage return. -/
  | lineEnd
  deriving DecidableEq, Repr

/-- The ways to close a reference, in the order in which a text is scanned. -/
def Closing.all : List Closing := [.mark, .lineEnd]

/-- How many characters close the reference, if the text after the closing quote
closes it. -/
def Closing.length? : Closing → List Char → Option Nat
  | .mark, c :: _ => if c == ')' || c == ',' then some 1 else none
  | .mark, [] => none
  | .lineEnd, [] => some 0
  | .lineEnd, '\n' :: _ => some 0
  | .lineEnd, ['\r'] => some 1
  | .lineEnd, '\r' :: '\n' :: _ => some 1
  | .lineEnd, _ => none

/-- The reference at the start of a text: its key and its length. -/
def callAt (closing : Closing) : List Char → Option (List Char × Nat)
  | 't' :: '(' :: q :: s =>
    let key := s.takeWhile isKeyChar
    match s.dropWhile isKeyChar with
    | q' :: rest =>
      if isQuote q && isKey key && isQuote q' then
        (closing.length? rest).map fun n => (key, key.length + n + 4)
      else none
    | [] => none
  | _ => none

/-! ### Scanning a text -/

/-- Does a word begin behind this character? Nothing stands before the first
character of a text. -/
def beginsWord : Option Char → Bool
  | none => true
  | some c => !Text.isWordChar c

/-- The keys of the references in a text, from left to right. `before` is the
character before the text, and its first `covered` characters belong to the
reference found last. -/
def scan (closing : Closing) : (covered : Nat) → (before : Option Char) → List Char →
    List (List Char)
  | _, _, [] => []
  | covered + 1, _, c :: cs => scan closing covered (some c) cs
  | 0, before, c :: cs =>
    if beginsWord before then
      match callAt closing (c :: cs) with
      | some (key, length) => key :: scan closing (length - 1) (some c) cs
      | none => scan closing 0 (some c) cs
    else scan closing 0 (some c) cs

/-- The keys referenced in a text, scan by scan. -/
def keysIn (text : List Char) : List (List Char) :=
  Closing.all.flatMap fun closing => scan closing 0 none text

end KeyAudit.Reference

namespace KeyAudit

/-- The set of keys referenced in a text. -/
def referencedKeys (text : String) : KeySet :=
  KeySet.ofList ((Reference.keysIn text.toList).map String.ofList)

end KeyAudit
