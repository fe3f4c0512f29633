/-
The tokens of a script.

A script is read character by character from a `Source`, which also knows the line,
the text that an alias stands for, and the documents that later lines bring. A word is
first read into a flat list of items, with the quotes and substitutions still open and
closed one by one (`Item`), and then put together to its parts (`wordOf`).
-/

import KeyAudit.Sandbox.Shell.Command

namespace KeyAudit.Sandbox.Shell

/-! ### Repetition -/

/-- Repeats a step until it gives a result, or until the steps run out. -/
@[specialize] def iterate {m : Type → Type} [Monad m] {σ α : Type} (step : σ → m (σ ⊕ α))
    (exhausted : m α) : Nat → σ → m α
  | 0, _ => exhausted
  | n + 1, s => do
    match ← step s with
    | .inl s => iterate step exhausted n s
    | .inr a => pure a

/-- How often a step of a reading or of a run is repeated. -/
def maxTurns : Nat := 1000000000

/-! ### Items -/

/-- What a word is made of, in the order in which it is written. -/
inductive Item where
  | char (escaped : Bool) (c : Char)
  | quote
  | openParameter (name : Bytes) (use : Use)
  | openArithmetic
  | close
  | output (body : Option Command)

/-- The characters of a word without its quotes. -/
def plainChars (items : List Item) : Bytes :=
  items.filterMap fun
    | .char _ c => some c
    | _ => none

/-- Puts a text in front of parts that are held in reverse. -/
def addText (quoted : Bool) (chars : Bytes) (parts : Word) : Word :=
  match parts with
  | .text q cs :: rest => if q = quoted then .text q (chars ++ cs) :: rest else .text quoted chars :: parts
  | _ => .text quoted chars :: parts

/-- Parts that were put together in reverse. -/
def inOrder (parts : Word) : Word :=
  parts.reverse.map fun
    | .text quoted chars => .text quoted chars.reverse
    | part => part

/-- Puts items together, up to the one that closes what was open, and gives the items
behind it. Quotes around nothing but all arguments leave nothing if there are none, so
they are no text of their own. -/
def assemble : Nat → Bool → Word → List Item → Word × List Item
  | 0, _, parts, items => (inOrder parts, items)
  | _ + 1, _, parts, [] => (inOrder parts, [])
  | _ + 1, _, parts, .close :: items => (inOrder parts, items)
  | n + 1, quoted, parts, .char escaped c :: items =>
    assemble n quoted (addText (quoted || escaped) [c] parts) items
  | n + 1, false, parts, .quote :: .openParameter ['@'] .plain :: .quote :: items =>
    assemble n false (.parameter true ['@'] .plain [] :: parts) items
  | n + 1, quoted, parts, .quote :: items => assemble n (!quoted) (addText true [] parts) items
  | n + 1, quoted, parts, .openParameter name .plain :: items =>
    assemble n quoted (.parameter quoted name .plain [] :: parts) items
  | n + 1, quoted, parts, .openParameter name use :: items =>
    match assemble n false [] items with
    | (word, rest) => assemble n quoted (.parameter quoted name use word :: parts) rest
  | n + 1, quoted, parts, .openArithmetic :: items =>
    match assemble n false [] items with
    | (word, rest) => assemble n quoted (.arithmetic quoted word :: parts) rest
  | n + 1, quoted, parts, .output body :: items =>
    assemble n quoted (.output quoted body :: parts) items

/-- The word that items make. -/
def wordOf (items : List Item) : Word := (assemble (items.length + 1) false [] items).1

/-! ### Tokens -/

/-- What an arrow asks for. -/
inductive Arrow where
  | file (opening : Opening)
  | copy
  | here (stripTabs : Bool)
  deriving DecidableEq, Repr

inductive Token where
  /-- A word, and whether any of it was quoted. -/
  | word (items : List Item) (quoted : Bool)
  | redirect (descriptor : Nat) (arrow : Arrow)
  | keyword (text : Bytes)
  | newline
  | semicolon
  | armEnd
  | ampersand
  | both
  | bar
  | either
  | opening
  | closing
  | endOfFile

/-- The words that rule commands. -/
def keywords : List Bytes :=
  ["!", "case", "do", "done", "elif", "else", "esac", "fi", "for", "if", "in", "then", "until",
    "while", "\x7b", "\x7d"].map String.toList

/-- The keywords that end a list of commands. -/
def closers : List Bytes :=
  ["do", "done", "elif", "else", "esac", "fi", "then", "\x7d"].map String.toList

namespace Token

/-- The token as complaints name it. -/
def name : Token → String
  | .word _ _ => "word"
  | .redirect _ _ => "redirection"
  | .keyword text => "\"" ++ String.ofList text ++ "\""
  | .newline => "newline"
  | .semicolon => "\";\""
  | .armEnd => "\";;\""
  | .ampersand => "\"&\""
  | .both => "\"&&\""
  | .bar => "\"|\""
  | .either => "\"||\""
  | .opening => "\"(\""
  | .closing => "\")\""
  | .endOfFile => "end of file"

def isKeyword (text : String) : Token → Bool
  | .keyword cs => cs == text.toList
  | _ => false

/-- Can a list of commands end before this token? -/
def endsList : Token → Bool
  | .keyword text => closers.contains text
  | .armEnd | .closing | .endOfFile => true
  | _ => false

end Token

/-! ### Sources -/

/-- A document that a later line brings. -/
structure Awaited where
  number : Nat
  endMark : Bytes
  expanded : Bool
  stripTabs : Bool

/-- The text behind an alias. -/
structure Outer where
  name : Bytes
  /-- The next word can be an alias too. -/
  endsInBlank : Bool
  text : Bytes

/-- A script that is being read. -/
structure Source where
  text : Bytes
  line : Nat
  aliases : List (Bytes × Bytes)
  /-- The documents read so far, by number. -/
  documents : Array Word
  outer : List Outer
  aliasNext : Bool
  awaited : List Awaited
  /-- A token that has been read and given back. -/
  returned : Option Token

/-- What of the script itself is still to be read. -/
def Source.unread (s : Source) : Bytes := (s.outer.getLast?.map Outer.text).getD s.text

/-- Why a script cannot be read, in which line, and what of it was not read. -/
structure Complaint where
  line : Nat
  message : String
  unread : Bytes

abbrev Reader := StateT Source (Except Complaint)

namespace Reader

def fail {α : Type} (message : String) : Reader α := fun s => .error ⟨s.line, message, s.unread⟩

/-- Complains about a token. -/
def unexpected {α : Type} (token : Token) (expected : Option Token) : Reader α :=
  fail (match expected with
    | some e => token.name ++ " unexpected (expecting " ++ e.name ++ ")"
    | none => token.name ++ " unexpected")

/-! ### Characters -/

/-- Goes back to the text behind the aliases that are used up. -/
def leaveAliases (s : Source) : List Outer → Source
  | [] => s
  | o :: os =>
    if s.text.isEmpty then
      leaveAliases { s with text := o.text, outer := os, aliasNext := s.aliasNext || o.endsInBlank } os
    else s

/-- The next character, which stays. -/
def peek : Reader (Option Char) := fun s =>
  let s := if s.text.isEmpty then leaveAliases s s.outer else s
  .ok (s.text.head?, s)

/-- Leaves out the ends of lines that go on in the next line. -/
def joinLines : Bytes → Nat → Bytes × Nat
  | '\\' :: '\n' :: cs, lines => joinLines cs (lines + 1)
  | cs, lines => (cs, lines)

/-- The next character of a line that may go on in the next line; it stays. -/
def peekJoined : Reader (Option Char) := do
  match ← peek with
  | some '\\' =>
    modify fun s =>
      match joinLines s.text 0 with
      | (text, lines) => { s with text := text, line := s.line + lines }
    peek
  | c => return c

/-- Passes the next character. -/
def advance : Reader Unit := modify fun s => { s with text := s.text.drop 1 }

/-- Passes the end of a line. -/
def advanceLine : Reader Unit := modify fun s => { s with text := s.text.drop 1, line := s.line + 1 }

/-- Passes a character if it comes next. -/
def accept (c : Char) : Reader Bool := do
  if (← peekJoined) == some c then
    advance
    return true
  else return false

/-- Passes the characters of a class, at most as many as given. -/
def takeWhile (p : Char → Bool) (most : Nat) : Reader Bytes :=
  iterate (fun (n, cs) => do
    match ← peekJoined with
    | some c =>
      if n < most && p c then
        advance
        return .inl (n + 1, c :: cs)
      else return .inr cs.reverse
    | none => return .inr cs.reverse) (return []) maxTurns (0, [])

end Reader

end KeyAudit.Sandbox.Shell
