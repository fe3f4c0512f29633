/-
Fields: the words that a command gets, cut out of what a word expands to.

An expansion gives chunks. Some are kept whole, some are cut wherever they hold a
separator (`Splitter`), and the arguments of a script stay apart. Blanks that separate
count only once, any other separator counts each time.
-/

import KeyAudit.Sandbox.Shell.Pattern

namespace KeyAudit.Sandbox.Shell

/-- A part of a field. What is quoted stands for itself where a pattern is read. -/
structure Piece where
  quoted : Bool
  chars : Bytes
  deriving DecidableEq, Repr

abbrev Field := List Piece

/-- The text of a field. -/
def Field.text (f : Field) : Bytes := f.flatMap Piece.chars

/-- The characters of a field, each with its quoting. -/
def Field.marked (f : Field) : Marked := f.flatMap fun p => p.chars.map (p.quoted, ·)

/-- What a part of a word expands to. -/
inductive Chunk where
  | kept (quoted : Bool) (chars : Bytes)
  /-- Cut at separators. -/
  | split (chars : Bytes)
  /-- Arguments that stay apart. -/
  | arguments (args : List Bytes)

/-- The text of chunks where nothing is cut. -/
def textOf (chunks : List Chunk) : Bytes :=
  chunks.flatMap fun
    | .kept _ cs => cs
    | .split cs => cs
    | .arguments args => [' '].intercalate args

/-- The characters of chunks, each with its quoting. -/
def markedOf (chunks : List Chunk) : Marked :=
  chunks.flatMap fun
    | .kept quoted cs => cs.map (quoted, ·)
    | .split cs => cs.map (false, ·)
    | .arguments args => ([' '].intercalate args).map (true, ·)

/-! ### Splitting -/

/-- A field that is being put together: its pieces and their characters are in
reverse. -/
structure Splitter where
  fields : List Field
  field : Field
  /-- The last separator was a blank: more blanks, and one other separator, belong to
  it. -/
  afterBlank : Bool
  /-- The last chunk was arguments. -/
  afterArguments : Bool
  /-- How many more fields there can be, if that is limited. -/
  left : Option Nat
  /-- The last field as it would be without the separators at its end. -/
  bare : Option Field

namespace Splitter

def start (limit : Option Nat) : Splitter := ⟨[], [], false, false, limit, none⟩

/-- Puts a character into the field. -/
def put (s : Splitter) (quoted : Bool) (c : Char) : Splitter :=
  { s with field := match s.field with
    | p :: ps => if p.quoted = quoted then { p with chars := c :: p.chars } :: ps else ⟨quoted, [c]⟩ :: p :: ps
    | [] => [⟨quoted, [c]⟩] }

/-- Puts a text into the field. -/
def putAll (s : Splitter) (quoted : Bool) (cs : Bytes) : Splitter :=
  { s with field := ⟨quoted, cs.reverse⟩ :: s.field }

/-- Ends the field. -/
def cut (s : Splitter) : Splitter := { s with fields := s.field :: s.fields, field := [] }

/-- Takes the next character of a chunk that is cut. -/
def step (separators : Bytes) (loose : Bool) (s : Splitter) (c : Char) : Splitter :=
  let separates := separators.contains c || c == argumentMark
  let blank := separates && (isBlank c || c == argumentMark)
  if s.left = some 0 then
    if blank then { s with bare := some (s.bare.getD s.field) }.put false c
    else
      let s := if separates && s.afterBlank then s else { s with bare := none }
      { s with afterBlank := false }.put false c
  else if s.afterBlank && blank then s
  else if s.afterBlank && separates then { s with afterBlank := false }
  else
    let s := { s with afterBlank := false }
    if !separates then s.put false c
    else
      let blank := blank && !loose
      if s.field.isEmpty && blank then s
      else
        let s := { s with afterBlank := blank }
        if s.left = some 1 then { s with left := some 0, bare := some s.field }.put false c
        else { s.cut with left := s.left.map (· - 1) }

/-- Takes arguments: each ends the field before it. -/
def takeArguments (s : Splitter) : List Bytes → Splitter
  | [] => s
  | [a] => s.putAll true a
  | a :: as => takeArguments (s.putAll true a).cut as

/-- Takes the next chunk. -/
def take (separators : Bytes) (s : Splitter) : Chunk → Splitter
  | .kept quoted cs => if quoted || !cs.isEmpty then s.putAll quoted cs else s
  | .split cs =>
    { cs.foldl (step separators s.afterArguments) { s with afterBlank := false } with
      afterArguments := false }
  | .arguments args => { s.takeArguments args with afterArguments := true, afterBlank := false }

/-- The fields. -/
def finish (s : Splitter) : List Field :=
  let field := s.bare.getD s.field
  let all := if field.isEmpty && !s.afterArguments then s.fields else field :: s.fields
  all.reverse.map fun f => f.reverse.map fun p => { p with chars := p.chars.reverse }

end Splitter

/-- The fields of chunks. -/
def fieldsOf (separators : Bytes) (limit : Option Nat) (chunks : List Chunk) : List Field :=
  (chunks.foldl (Splitter.take separators) (.start limit)).finish

end KeyAudit.Sandbox.Shell
