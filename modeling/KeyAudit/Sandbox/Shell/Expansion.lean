/-
What words expand to.

The parts of a word become chunks (`expandParts`), which are cut into fields, and
fields that are patterns are replaced by the paths they match (`expandFields`). A word
that is not cut gives its text (`expandText`). The output of a command inside a word
comes from the function `capture`.
-/

import KeyAudit.Sandbox.Shell.Arithmetic
import KeyAudit.Sandbox.Shell.Field
import KeyAudit.Sandbox.Shell.Pathname
import KeyAudit.Sandbox.Shell.State

namespace KeyAudit.Sandbox.Shell

/-- How a word is expanded. -/
structure Manner where
  /-- It stands in double quotes. -/
  quoted : Bool
  /-- It gives fields, and arguments stay apart. -/
  fields : Bool
  /-- Its plain text is cut too, because it stands for a value. -/
  asValue : Bool
  /-- A tilde at its start stands for a directory. -/
  tilde : Bool
  /-- So does a tilde behind a colon. -/
  tildeInList : Bool

namespace Manner

def plain : Manner := ⟨false, false, false, true, false⟩
def field : Manner := ⟨false, true, false, true, false⟩
def assignment : Manner := ⟨false, false, false, true, true⟩
/-- As in double quotes. -/
def document : Manner := ⟨true, false, false, false, false⟩

end Manner

/-! ### Tildes -/

/-- The users of a system and their directories. -/
def users : List (String × String) :=
  [("root", "/root"), ("daemon", "/usr/sbin"), ("bin", "/bin"), ("sys", "/dev"), ("sync", "/bin"),
    ("games", "/usr/games"), ("man", "/var/cache/man"), ("lp", "/var/spool/lpd"),
    ("mail", "/var/mail"), ("news", "/var/spool/news"), ("uucp", "/var/spool/uucp"),
    ("proxy", "/bin"), ("www-data", "/var/www"), ("backup", "/var/backups"),
    ("list", "/var/list"), ("irc", "/run/ircd"), ("nobody", "/nonexistent")]

/-- The directory that a name behind a tilde stands for. -/
def State.home? (s : State) (name : Bytes) : Option Bytes :=
  if name.isEmpty then s.valueOf? "HOME".toList
  else (users.lookup (toText name)).map String.toList

/-- Plain text with its tildes: what they stand for is not cut and no pattern. `open'`
says whether a tilde can come next, and `last` whether the word ends with the text. -/
def State.tildes (s : State) (inList last : Bool) : Nat → Bool → Bytes → List (Bool × Bytes)
  | 0, _, cs => [(false, cs)]
  | n + 1, open', cs =>
    let literal (cs : Bytes) : List (Bool × Bytes) :=
      if !inList then [(false, cs)]
      else
        let before := cs.takeWhile (· != ':')
        match cs.drop before.length with
        | [] => [(false, before)]
        | colon :: rest => (false, before ++ [colon]) :: s.tildes inList last n true rest
    match open', cs with
    | true, '~' :: rest =>
      let name := rest.takeWhile fun c => c != '/' && !(inList && c == ':')
      let behind := rest.drop name.length
      match if behind.isEmpty && !last then none else s.home? name with
      | some [] => literal behind
      | some home => (true, home) :: literal behind
      | none => literal cs
    | _, _ => literal cs

/-! ### Parameters -/

/-- The value of a parameter. -/
inductive Value where
  | text (cs : Bytes)
  /-- All arguments, apart. -/
  | arguments (args : List Bytes)

/-- The options that are on, as letters. -/
def State.optionText (s : State) : Bytes :=
  (optionLetters.map (·.1)).filter fun c => c.isAlpha && s.hasOption c

/-- All arguments in one text. -/
def State.joinedArguments (s : State) (quoted fields : Bool) : Bytes :=
  let mark : Bytes := match s.valueOf? "IFS".toList with
    | none => [' ']
    | some separators => if !quoted && fields then [argumentMark] else separators.take 1
  mark.intercalate s.arguments

/-- The value of a parameter, if it has one. -/
def State.parameter? (s : State) (quoted fields : Bool) (name : Bytes) : Option Value :=
  match name with
  | ['$'] => some (.text (ofInt s.process))
  | ['?'] => some (.text (ofInt s.status))
  | ['#'] => some (.text (ofInt s.arguments.length))
  | ['!'] => s.background.map fun n => .text (ofInt n)
  | ['-'] => some (.text s.optionText)
  | ['@'] =>
    if quoted && fields then some (.arguments s.arguments)
    else some (.text (s.joinedArguments quoted fields))
  | ['*'] => some (.text (s.joinedArguments quoted fields))
  | c :: _ =>
    if c.isDigit then
      let n := ofDigits 10 name
      if n = 0 then some (.text s.name) else s.arguments[n - 1]?.map .text
    else (s.valueOf? name).map .text
  | [] => none

def Value.cs : Value → Bytes
  | .text cs => cs
  | .arguments args => [argumentMark].intercalate args

/-- The value with another text. -/
def Value.withText (cs : Bytes) : Value → Value
  | .text _ => .text cs
  | .arguments [] => .arguments []
  | .arguments _ => .arguments (cs.splitOn argumentMark)

/-- The chunks of a value. -/
def Value.chunks (quoted : Bool) : Value → List Chunk
  | .text cs => if cs.isEmpty then [] else if quoted then [.kept true cs] else [.split cs]
  | .arguments [] => []
  | .arguments args => [.arguments args]

/-- Complains about a parameter without a value. -/
def unset {α : Type} (name : Bytes) (message : Bytes) : Session α :=
  fail (name ++ ": ".toList ++ message)

def notSet : String := "parameter not set"

/-- Expands a parameter; `expand` expands its word. -/
def expandParameter (expand : Manner → Word → Session (List Chunk)) (m : Manner) (quoted : Bool)
    (name : Bytes) (use : Use) (word : Word) : Session (List Chunk) := do
  let s ← get
  let value := s.parameter? quoted m.fields name
  let present (orEmpty : Bool) : Bool := match value with
    | some v => !(orEmpty && v.cs.isEmpty)
    | none => false
  let required : Session Value := match value with
    | some v => return v
    | none => if s.hasOption 'u' then unset name notSet.toList else return .text []
  let chunks (v : Value) : List Chunk := v.chunks quoted
  let inner : Manner := { m with quoted := quoted, asValue := !quoted, tilde := true }
  match use with
  | .plain => return chunks (← required)
  | .length =>
    let v ← required
    let n := match v with
      | .text cs => cs.length
      | .arguments args => ([argumentMark].intercalate args).length
    return chunks (.text (ofInt n))
  | .default orEmpty =>
    match value, present orEmpty with
    | some v, true => return chunks v
    | _, _ => expand inner word
  | .alternative orEmpty => if present orEmpty then expand inner word else return []
  | .assign orEmpty =>
    match value, present orEmpty with
    | some v, true => return chunks v
    | _, _ =>
      let text := textOf (← expand .plain word)
      assign name text
      return chunks (.text text)
  | .demand orEmpty =>
    match value, present orEmpty with
    | some v, true => return chunks v
    | _, _ =>
      if word.isEmpty then unset name (notSet ++ if orEmpty then " or null" else "").toList
      else unset name (textOf (← expand .plain word))
  | .trim front longest =>
    let v ← required
    if value.isNone then return []
    else
      let pattern := Pattern.ofMarked (markedOf (← expand .plain word))
      return chunks (v.withText (pattern.trim front longest v.cs))
  | .malformed => failText "Bad substitution"

/-! ### Arithmetic -/

/-- The value of an expression. -/
def calculate (text : Bytes) : Session Int := do
  let s ← get
  let (value, assigned) := Arithmetic.evaluate s.valueOf? text
  assigned.forM fun (name, n) => assign name (ofInt n)
  match value with
  | .ok n => return n
  | .error (.expression message) =>
    fail (("arithmetic expression: " ++ message ++ ": \"").toList ++ text ++ ['"'])
  | .error (.value text) => illegalNumber text
  | .error .trap => throw (.killed Arithmetic.trapSignal)

/-! ### Words -/

/-- The chunks of the parts of a word. -/
def expandParts (capture : Option Command → Session Bytes) :
    Nat → Manner → Bool → Word → Session (List Chunk)
  | 0, _, _, _ => return []
  | _ + 1, _, _, [] => return []
  | n + 1, m, first, part :: parts => do
    let chunks ← match part with
      | .text true cs => pure [.kept true cs]
      | .text false cs =>
        let plain (quoted : Bool) (cs : Bytes) : Chunk :=
          if m.asValue && !quoted then .split cs else .kept (quoted || m.quoted) cs
        if (m.tilde || m.tildeInList) && cs.contains '~' then
          pure (((← get).tildes m.tildeInList parts.isEmpty (cs.length + 1) (m.tilde && first) cs).map
            fun (quoted, cs) => plain quoted cs)
        else pure [plain false cs]
      | .parameter quoted name use word =>
        expandParameter (fun m w => expandParts capture n m true w) m (m.quoted || quoted) name use word
      | .output quoted body =>
        pure (Value.chunks (m.quoted || quoted) (.text (← capture body)))
      | .arithmetic quoted word =>
        let text := textOf (← expandParts capture n ⟨true, false, false, false, false⟩ true word)
        pure (Value.chunks (m.quoted || quoted) (.text (ofInt (← calculate text))))
    return chunks ++ (← expandParts capture n m false parts)

/-- The chunks of a word. -/
def expandWord (capture : Option Command → Session Bytes) (m : Manner) (w : Word) :
    Session (List Chunk) := expandParts capture maxTurns m true w

/-- The text of a word that is not cut. -/
def expandText (capture : Option Command → Session Bytes) (m : Manner) (w : Word) : Session Bytes :=
  return textOf (← expandWord capture m w)

/-- The pattern that a word is. -/
def expandPattern (capture : Option Command → Session Bytes) (w : Word) : Session Pattern :=
  return Pattern.ofMarked (markedOf (← expandWord capture .plain w))

/-- The fields of a word. -/
def expandFields (capture : Option Command → Session Bytes) (w : Word) : Session (List Bytes) := do
  let chunks ← expandWord capture .field w
  let s ← get
  return (fieldsOf s.separators none chunks).flatMap fun f =>
    match if s.hasOption 'f' then [] else pathnames s.view s.directory f.marked with
    | [] => [f.text]
    | paths => paths

/-- The fields of words. -/
def expandAll (capture : Option Command → Session Bytes) (ws : List Word) : Session (List Bytes) :=
  return (← ws.mapM (expandFields capture)).flatten

end KeyAudit.Sandbox.Shell
