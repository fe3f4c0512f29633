/-
The grammar of commands: how tokens make lists, pipelines and commands.

`Reader.parse` reads a list or a single command. It calls itself only for what stands
inside of another command, so its fuel is a bound on how deep commands nest; the
functions before it take it as an argument. `Source.nextCommand` reads what one line
brings, so that a script can run before it has been read to its end.
-/

import KeyAudit.Sandbox.Shell.Word

namespace KeyAudit.Sandbox.Shell

/-- What is read. -/
inductive Goal where
  /-- The commands of one line. -/
  | line
  /-- Commands up to the token that ends them. -/
  | body
  /-- As `body`, and there can be none. -/
  | optional
  | command

/-- What a line brings. -/
inductive Line where
  | blank
  | command (c : Command)
  | endOfScript

/-- The built-in commands that belong to the language. -/
def specialBuiltins : List Bytes :=
  [".", ":", "break", "continue", "eval", "exec", "exit", "export", "local", "readonly", "return",
    "set", "shift", "times", "trap", "unset"].map String.toList

namespace Reader

/-- Reads what is inside of a command. -/
abbrev Parse := Goal → Reader (Option Command)

/-! ### Tokens, with the substitutions in them -/

/-- The commands between backquotes; what is left over is not heeded. -/
def backquoted (parse : Parse) : Reader (Option Command) := do
  let command ← parse .optional
  modify fun s => { s with returned := none }
  return command

/-- The commands up to a closing parenthesis. Documents that they await are empty. -/
def parenthesized (parse : Parse) : Reader (Option Command) := do
  let awaited := (← get).awaited
  modify fun s => { s with awaited := [] }
  let command ← parse .optional
  match ← readToken (pure none) (pure none) .ordinary .none with
  | .closing =>
    modify fun s => { s with awaited := awaited }
    return command
  | t => unexpected t (some .closing)

/-- The next token. -/
def token (parse : Parse) (heed : Heed) : Reader Token :=
  readToken (backquoted parse) (parenthesized parse) .ordinary heed

/-- The documents below this line. -/
def documents (parse : Parse) : Reader Unit :=
  readDocuments (backquoted parse) (parenthesized parse)

/-- A token that has to come next. -/
def expect (parse : Parse) (heed : Heed) (expected : Token) : Reader Unit := do
  let t ← token parse heed
  if t.name != expected.name then unexpected t (some expected)

/-- The commands inside of another. The token behind them shows whether they are
missing. -/
def body (parse : Parse) : Reader Command := do return (← parse .body).getD default

/-! ### Redirections -/

/-- The target of an arrow that has been read. -/
def readTarget (parse : Parse) (descriptor : Nat) (arrow : Arrow) : Reader Redirection := do
  let purpose : Purpose := if arrow matches .here _ then .endMark else .ordinary
  let t ← if arrow matches .here _ then readToken (pure none) (pure none) purpose .none
    else token parse .none
  match t, arrow with
  | .word items _, .file opening => return .file descriptor opening (wordOf items)
  | .word items _, .copy => return .copy descriptor (wordOf items)
  | .word items quoted, .here stripTabs =>
    let number := (← get).documents.size
    modify fun s => { s with
      documents := s.documents.push []
      awaited := s.awaited ++ [⟨number, plainChars items, !quoted, stripTabs⟩] }
    return .here descriptor (!quoted) number
  | _, _ => unexpected t none

/-- The redirections behind a command. A word behind the target of one is no keyword and
no alias. -/
def redirections (parse : Parse) : Reader (List Redirection) :=
  iterate (fun rs => do
    match ← token parse (if rs.isEmpty then .commandStart else .none) with
    | .redirect descriptor arrow => return .inl ((← readTarget parse descriptor arrow) :: rs)
    | t =>
      giveBack t
      return .inr rs.reverse) (return []) maxTurns []

/-! ### Simple commands and functions -/

/-- A simple command that is being read; its parts are in reverse. -/
structure Simple where
  assignments : List (Bytes × Word)
  words : List (List Item × Word)
  redirections : List Redirection

/-- The name of the function that a word defines. -/
def functionName (items : List Item) : Reader Bytes := do
  let name := plainChars items
  let isPlain := items.all fun item => item matches .char false _
  if isPlain && isName name && !specialBuiltins.contains name then return name
  else fail "Bad function name"

def stepSimple (parse : Parse) (line : Nat) (c : Simple) : Reader (Simple ⊕ Command) := do
  let finished : Command :=
    .simple line c.assignments.reverse (c.words.reverse.map (·.2)) c.redirections.reverse
  let t ← token parse (if c.words.isEmpty then .aliasesOnly else .none)
  match t with
  | .word items _ =>
    let word := wordOf items
    match if c.words.isEmpty then assignment? word else none with
    | some a => return .inl { c with assignments := a :: c.assignments }
    | none => return .inl { c with words := (items, word) :: c.words }
  | .redirect descriptor arrow =>
    return .inl { c with redirections := (← readTarget parse descriptor arrow) :: c.redirections }
  | .opening =>
    match c.words, c.assignments, c.redirections with
    | [(items, _)], [], [] =>
      expect parse .none .closing
      let name ← functionName items
      match ← token parse .nextCommand with
      | t =>
        giveBack t
        return .inr (.define name ((← parse .command).getD default))
    | _, _, _ =>
      giveBack t
      return .inr finished
  | _ =>
    giveBack t
    return .inr finished

def simpleCommand (parse : Parse) : Reader Command := do
  let line := (← get).line
  iterate (stepSimple parse line) (return default) maxTurns ⟨[], [], []⟩

/-! ### Compound commands -/

/-- The rest of a choice, behind its keyword. -/
def choiceRest (parse : Parse) : Nat → Reader Command
  | 0 => return default
  | n + 1 => do
    let test ← body parse
    expect parse .none (.keyword "then".toList)
    let first ← body parse
    let t ← token parse .none
    if t.isKeyword "elif" then return .choice test first (some (← choiceRest parse n))
    else if t.isKeyword "else" then return .choice test first (← parse .body)
    else
      giveBack t
      return .choice test first none

/-- The words of a `for`, up to the token behind them. -/
def eachWords (parse : Parse) : Reader (List Word) :=
  iterate (fun ws => do
    match ← token parse .none with
    | .word items _ => return .inl (wordOf items :: ws)
    | .newline | .semicolon => return .inr ws.reverse
    | t => unexpected t none) (return []) maxTurns []

/-- The rest of a `for`, behind its keyword. -/
def eachRest (parse : Parse) (line : Nat) : Reader Command := do
  match ← token parse .none with
  | .word items false =>
    let name := plainChars items
    if items.length != name.length || !isName name then fail "Bad for loop variable"
    let t ← token parse .nextCommand
    let words ← if t.isKeyword "in" then eachWords parse
      else
        unless t matches .semicolon do giveBack t
        pure [[.parameter true ['@'] .plain []]]
    expect parse .nextCommand (.keyword "do".toList)
    return .each line name words (← body parse)
  | _ => fail "Bad for loop variable"

/-- The patterns of an arm, from the first word on. -/
def armPatterns (parse : Parse) (first : Token) : Reader (List Word) :=
  iterate (fun (t, ws) => do
    let word : Word := match t with
      | .word items _ => wordOf items
      | .keyword text => [.text false text]
      | _ => []
    match ← token parse .none with
    | .bar => return .inl (← token parse .none, word :: ws)
    | .closing => return .inr (word :: ws).reverse
    | t => unexpected t (some .closing)) (return []) maxTurns (first, [])

/-- The arms of a `case`. -/
def arms (parse : Parse) : Reader (List (List Word × Option Command)) :=
  iterate (fun (arms, mustEnd) => do
    let t ← token parse .arm
    if t.isKeyword "esac" then return .inr arms.reverse
    else
      if mustEnd then unexpected t (some .armEnd)
      let first ← if t matches .opening then token parse .none else pure t
      let patterns ← armPatterns parse first
      let command ← parse .optional
      let arms := (patterns, command) :: arms
      match ← token parse .arm with
      | .armEnd => return .inl (arms, false)
      | t =>
        giveBack t
        return .inl (arms, true)) (return []) maxTurns ([], false)

/-- The rest of a `case`, behind its keyword. -/
def selectRest (parse : Parse) (line : Nat) : Reader Command := do
  match ← token parse .none with
  | .word items _ =>
    expect parse .nextCommand (.keyword "in".toList)
    return .select line (wordOf items) (← arms parse)
  | t => unexpected t (some (.word [] false))

/-- Puts redirections around a command. -/
def withRedirections (line : Nat) (c : Command) : List Redirection → Command
  | [] => c
  | rs =>
    match c with
    | .subshell l b _ => .subshell l b rs
    | c => .redirected line c rs

/-- A loop, behind its keyword. -/
def loopRest (parse : Parse) (succeeds : Bool) : Reader Command := do
  let test ← body parse
  expect parse .none (.keyword "do".toList)
  let repeated ← body parse
  expect parse .none (.keyword "done".toList)
  return .loop succeeds test repeated

/-- A command. -/
def commandWith (parse : Parse) : Reader Command := do
  let t ← token parse .none
  let line := (← get).line
  let compound (c : Reader Command) : Reader Command := do
    let c ← c
    return withRedirections line c (← redirections parse)
  let ended (c : Reader Command) (last : Token) : Reader Command := compound do
    let c ← c
    expect parse .none last
    return c
  match t with
  | .word _ _ | .redirect _ _ =>
    giveBack t
    simpleCommand parse
  | .opening => ended (return .subshell line (← body parse) []) .closing
  | .keyword text =>
    match String.ofList text with
    | "if" => ended (choiceRest parse maxTurns) (.keyword "fi".toList)
    | "while" => compound (loopRest parse true)
    | "until" => compound (loopRest parse false)
    | "for" => ended (eachRest parse line) (.keyword "done".toList)
    | "case" => compound (selectRest parse line)
    | "\x7b" => ended (body parse) (.keyword "\x7d".toList)
    | _ => unexpected t none
  | _ => unexpected t none

/-! ### Pipelines and lists -/

/-- A pipeline. -/
def pipeline (parse : Parse) : Reader Command := do
  let t ← token parse .none
  let negated := t.isKeyword "!"
  if negated then
    giveBack (← token parse .commandStart)
  else giveBack t
  let first ← commandWith parse
  let stages ← iterate (fun stages => do
    match ← token parse .none with
    | .bar =>
      giveBack (← token parse .nextCommand)
      return .inl ((← commandWith parse) :: stages)
    | t =>
      giveBack t
      return .inr stages.reverse) (return []) maxTurns [first]
  let c := match stages with
    | [c] => c
    | cs => .pipeline false cs
  return if negated then .negation c else c

/-- Pipelines that are joined by what the one before them gives. -/
def joined (parse : Parse) : Reader Command := do
  let first ← pipeline parse
  iterate (fun c => do
    let next : Reader Command := do
      giveBack (← token parse .nextCommand)
      pipeline parse
    match ← token parse .none with
    | .both => return .inl (.both c (← next))
    | .either => return .inl (.either c (← next))
    | t =>
      giveBack t
      return .inr c) (return default) maxTurns first

/-- A command that is not waited for. -/
def inBackground (line : Nat) : Command → Command
  | .pipeline _ stages => .pipeline true stages
  | .redirected l b rs => .background l b rs
  | c => .background line c []

/-- The commands of a list, which are held in reverse. -/
def sequenceOf? : List Command → Option Command
  | [] => none
  | [c] => some c
  | cs => some (.sequence cs.reverse)

/-- A list of commands. -/
def listWith (parse : Parse) (goal : Goal) : Reader (Option Command) :=
  let isLine := goal matches .line
  let heed : Heed := if isLine then .commandStart else .nextCommand
  iterate (fun (before, mayEnd) => do
    let t ← token parse heed
    match t with
    | .newline =>
      documents parse
      return .inr (sequenceOf? before)
    | .endOfFile =>
      documents parse
      giveBack t
      return .inr (sequenceOf? before)
    | _ =>
      giveBack t
      if mayEnd && t.endsList then return .inr (sequenceOf? before)
      else
        let c ← joined parse
        let t ← token parse .none
        let line := (← get).line
        let all := (if t matches .ampersand then inBackground line c else c) :: before
        match t with
        | .semicolon | .ampersand => return .inl (all, !isLine)
        | .newline =>
          giveBack t
          return .inl (all, !isLine)
        | .endOfFile =>
          documents parse
          giveBack t
          return .inr (sequenceOf? all)
        | t =>
          if isLine then unexpected t none
          else
            giveBack t
            return .inr (sequenceOf? all)) (return none) maxTurns ([], goal matches .optional)

/-- Reads a list or a command. The fuel bounds how deep commands nest. -/
def parse : Nat → Goal → Reader (Option Command)
  | 0, _ => fail "nested too deep"
  | n + 1, .command => do return some (← commandWith (parse n))
  | n + 1, goal => listWith (parse n) goal

/-- How deep commands nest at most. -/
def maxDepth : Nat := 10000

/-- The commands of the next line. -/
def nextLine : Reader Line := do
  modify fun s => { s with returned := none, awaited := [], aliasNext := false }
  match ← parse maxDepth .line with
  | some c => return .command c
  | none =>
    match (← get).returned with
    | some _ => return .endOfScript
    | none => return .blank

end Reader

/-- A text as a script. -/
def Source.ofText (text : Bytes) (aliases : List (Bytes × Bytes)) (documents : Array Word) : Source :=
  ⟨text, 1, aliases, documents, [], false, [], none⟩

end KeyAudit.Sandbox.Shell
