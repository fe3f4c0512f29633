/-
What a shell script says: words, redirections and commands.

A script is read as bytes, and a byte is held as the character of its number
(`Bytes`). A word keeps its parts apart, because what is quoted is neither split into
fields nor read as a pattern, and because parameters and commands inside it are
expanded only when the word is used.

The shell is no part of the audit. Scripts stand in for external programs where
commands are tried out (`Sandbox.host`).
-/

import KeyAudit.Text.Utf8

namespace KeyAudit.Sandbox.Shell

/-- Bytes, each as the character of its number. -/
abbrev Bytes := List Char

/-- The character that a byte is held as. -/
def ofByte (b : UInt8) : Char := Char.ofNat b.toNat

def ofBytes (bytes : List UInt8) : Bytes := bytes.map ofByte

def toBytes (text : Bytes) : List UInt8 := text.map fun c => c.toNat.toUInt8

/-- The bytes of a text. -/
def ofText (text : String) : Bytes := ofBytes text.toUTF8.data.toList

/-- Do bytes stand before others in a listing, or at the same place? -/
def standsBefore (a b : Bytes) : Bool := !(b.lex a fun c d => decide (c < d))

/-- The text that bytes encode. -/
def toText (bytes : Bytes) : String := String.ofList (Text.Utf8.decodeLossy (toBytes bytes))

/-- A number in decimal digits. -/
def ofInt (n : Int) : Bytes := (toString n).toList

/-! ### Characters -/

def isNameStart (c : Char) : Bool := c.isAlpha || c == '_'

def isNameChar (c : Char) : Bool := c.isAlphanum || c == '_'

/-- Names a parameter by itself. -/
def isSpecialName (c : Char) : Bool := c.isDigit || "@*#?$-!".toList.contains c

def isName : Bytes → Bool
  | [] => false
  | c :: cs => isNameStart c && cs.all isNameChar

def isBlank (c : Char) : Bool := c == ' ' || c == '\t' || c == '\n'

/-! ### Words -/

/-- What is made of the value of a parameter. -/
inductive Use where
  | plain
  | length
  /-- The word in place of a value that is missing, or empty too. -/
  | default (orEmpty : Bool)
  /-- The word in place of a value that is there, and not empty either. -/
  | alternative (orEmpty : Bool)
  /-- As `default`, and the parameter keeps the word. -/
  | assign (orEmpty : Bool)
  /-- The word is the complaint if the value is missing, or empty too. -/
  | demand (orEmpty : Bool)
  /-- The value without what the word matches at its front or at its back. -/
  | trim (front longest : Bool)
  /-- No use at all, which is found out only in the expansion. -/
  | malformed
  deriving DecidableEq, Repr

/-- How a file is opened. -/
inductive Opening where
  | read
  | replace
  /-- As `replace`, even where files are not to be overwritten. -/
  | overwrite
  | append
  | readWrite
  deriving DecidableEq, Repr

mutual

/-- A part of a word. -/
inductive Part where
  | text (quoted : Bool) (chars : Bytes)
  | parameter (quoted : Bool) (name : Bytes) (use : Use) (word : List Part)
  | output (quoted : Bool) (body : Option Command)
  | arithmetic (quoted : Bool) (word : List Part)

/-- Where a descriptor of a command leads. -/
inductive Redirection where
  | file (descriptor : Nat) (opening : Opening) (target : List Part)
  /-- To where another descriptor leads, or nowhere. -/
  | copy (descriptor : Nat) (target : List Part)
  /-- From a text of the script, by its number; the text is expanded if no part of its
  end mark was quoted. -/
  | here (descriptor : Nat) (expanded : Bool) (document : Nat)

inductive Command where
  | simple (line : Nat) (assignments : List (Bytes × List Part)) (words : List (List Part))
      (redirections : List Redirection)
  | pipeline (background : Bool) (stages : List Command)
  | redirected (line : Nat) (body : Command) (redirections : List Redirection)
  | background (line : Nat) (body : Command) (redirections : List Redirection)
  | subshell (line : Nat) (body : Command) (redirections : List Redirection)
  /-- One after the other. -/
  | sequence (commands : List Command)
  | both (first second : Command)
  | either (first second : Command)
  | negation (body : Command)
  | choice (test body : Command) (otherwise : Option Command)
  /-- Runs the body as long as the test succeeds, or fails. -/
  | loop (succeeds : Bool) (test body : Command)
  | each (line : Nat) (name : Bytes) (words : List (List Part)) (body : Command)
  | select (line : Nat) (word : List Part) (arms : List (List (List Part) × Option Command))
  | define (name : Bytes) (body : Command)

end

abbrev Word := List Part

instance : Inhabited Command := ⟨.simple 0 [] [] []⟩

/-- The name and the rest of a word that begins as an assignment does. -/
def assignment? : Word → Option (Bytes × Word)
  | .text false chars :: parts =>
    let name := chars.takeWhile (· != '=')
    if isName name && name.length < chars.length then
      some (name, .text false (chars.drop (name.length + 1)) :: parts)
    else none
  | _ => none

end KeyAudit.Sandbox.Shell
