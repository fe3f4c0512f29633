/-
How words are read: quotes, parameters, substitutions, and the documents that stand
below a command.

What a character means depends on the quotes and braces it stands in. A `Level` holds
those of one substitution; a substitution in other quotes than the text around it
opens a new one. The commands of a substitution are read by the function `inner`,
which reads a list of commands that may be empty.
-/

import KeyAudit.Sandbox.Shell.Token

namespace KeyAudit.Sandbox.Shell

/-- What kind of text is being read. -/
inductive Mode where
  | bare
  | single
  | double
  | arithmetic
  deriving DecidableEq, Repr

/-- The quotes and braces around a character. -/
structure Level where
  mode : Mode
  /-- A backslash here keeps its place before most characters. -/
  doubled : Bool
  /-- Braces that are open. -/
  braces : Nat
  /-- Those of them that stand in double quotes. -/
  doubledBraces : Nat
  /-- Double quotes are open inside the braces. -/
  innerQuotes : Bool
  /-- The level ends with its last brace. -/
  ofBrace : Bool
  /-- Parentheses that are open in arithmetic. -/
  parentheses : Nat

namespace Level

def start (mode : Mode) : Level := ⟨mode, mode == .double, 0, 0, false, false, 0⟩

end Level

/-- A word that is being read; the items are in reverse. -/
structure Progress where
  level : Level
  below : List Level
  items : List Item
  quoted : Bool

/-- What a word is read for. -/
inductive Purpose where
  | ordinary
  /-- The end mark of a document, in which nothing is substituted. -/
  | endMark
  /-- The text of a document. -/
  | document (awaited : Awaited)

namespace Purpose

def isDocument : Purpose → Bool
  | .document _ => true
  | _ => false

end Purpose

namespace Progress

def push (p : Progress) (item : Item) : Progress := { p with items := item :: p.items }

def char (p : Progress) (c : Char) : Progress := p.push (.char false c)

def escaped (p : Progress) (c : Char) : Progress := p.push (.char true c)

def setLevel (p : Progress) (level : Level) : Progress := { p with level := level }

/-- Leaves a level. -/
def pop (p : Progress) : Progress :=
  match p.below with
  | l :: ls => { p with level := l, below := ls }
  | [] => p

/-- A mark of a quote. Documents have none. -/
def quoteMark (p : Progress) (purpose : Purpose) : Progress :=
  if purpose.isDocument then p else p.push .quote

/-- Opens a single quote. -/
def openSingle (p : Progress) (purpose : Purpose) : Progress :=
  (p.setLevel { p.level with mode := .single }).quoteMark purpose

/-- Turns the double quotes inside braces on or off. -/
def toggle (p : Progress) (purpose : Purpose) : Progress :=
  let inside := if 0 < p.level.braces then !p.level.innerQuotes else p.level.innerQuotes
  (p.setLevel { p.level with innerQuotes := inside }).quoteMark purpose

def openDouble (p : Progress) (purpose : Purpose) : Progress :=
  (p.setLevel { p.level with mode := .double, doubled := true }).toggle purpose

/-- Ends a quote, or keeps the quote character where it ends nothing. -/
def closeQuote (p : Progress) (purpose : Purpose) (c : Char) : Progress :=
  if purpose.isDocument && p.level.braces == 0 then p.char c
  else
    let p := if p.level.doubledBraces == 0 then
      p.setLevel { p.level with mode := .bare, doubled := false } else p
    let p := { p with quoted := true }
    if c == '"' then p.toggle purpose else p.quoteMark purpose

/-- A closing brace: it ends a parameter if one is open. -/
def closeBrace (p : Progress) : Progress :=
  let l := p.level
  if !l.innerQuotes && 0 < l.braces then
    let p := if l.braces == 1 && l.ofBrace then { p with level := { l with braces := 0 } }.pop
      else p.setLevel { l with braces := l.braces - 1, doubledBraces := l.doubledBraces - 1 }
    p.push .close
  else p.char '\x7d'

/-- The text of a parameter's word begins. -/
def openBrace (p : Progress) (bare : Bool) : Progress :=
  let mode := if bare then .bare else if p.level.mode = .arithmetic then .double else p.level.mode
  let p := if mode != p.level.mode || p.level.innerQuotes then
    { p with below := p.level :: p.below
             level := { Level.start mode with doubled := mode != .bare, ofBrace := true } }
    else p
  let l := p.level
  p.setLevel { l with
    braces := l.braces + 1
    doubledBraces := if l.doubled then l.doubledBraces + 1 else l.doubledBraces }

end Progress

namespace Reader

/-! ### Parameters -/

/-- The use of a parameter in braces, behind its name, and whether a word follows. -/
def readUse : Reader (Use × Bool) := do
  let orEmpty ← accept ':'
  let taken (use : Use) (word : Bool) : Reader (Use × Bool) := do
    advance
    return (use, word)
  match ← peekJoined with
  | some '-' => taken (.default orEmpty) true
  | some '+' => taken (.alternative orEmpty) true
  | some '?' => taken (.demand orEmpty) true
  | some '=' => taken (.assign orEmpty) true
  | some '\x7d' => taken .plain orEmpty
  | some c =>
    advance
    if (c == '%' || c == '#') && !orEmpty then return (.trim (c == '#') (← accept c), true)
    else return (.malformed, true)
  | none => return (.malformed, true)

/-- The rest of a name of which the first character comes next. -/
def readName (mostDigits : Nat) : Reader Bytes := do
  match ← peekJoined with
  | some c => if c.isDigit then takeWhile Char.isDigit mostDigits else takeWhile isNameChar maxTurns
  | none => return []

/-- The name and the use of a parameter that stands in braces, and whether a word
follows. -/
def readBraced : Reader (Bytes × Use × Bool) := do
  let used (name : Bytes) : Reader (Bytes × Use × Bool) := do
    return (name, ← readUse)
  match ← peekJoined with
  | none => return ([], .malformed, true)
  | some '\x7d' => return ([], .malformed, true)
  | some '#' =>
    advance
    match ← peekJoined with
    | none => return (['#'], .malformed, true)
    | some c =>
      if isNameChar c then return (← readName maxTurns, .length, true)
      else if c == '\x7d' then used ['#']
      else
        let before ← get
        advance
        if (← peekJoined) == some '\x7d' then
          return if isSpecialName c then ([c], .length, true) else ([c], .malformed, true)
        else
          set before
          used ['#']
  | some c =>
    if isNameChar c then used (← readName maxTurns)
    else
      advance
      if isSpecialName c then used [c] else return ([c], .malformed, true)

/-! ### Substitutions -/

/-- The text up to a closing backquote. -/
def readBackquoted (doubled : Bool) : Reader Bytes :=
  iterate (fun cs => do
    match ← peekJoined with
    | none => fail "EOF in backquote substitution"
    | some '\x60' =>
      advance
      return .inr cs.reverse
    | some '\n' =>
      advanceLine
      return .inl ('\n' :: cs)
    | some '\\' =>
      advance
      match ← peek with
      | none => fail "EOF in backquote substitution"
      | some c =>
        advance
        if c == '\\' || c == '\x60' || c == '$' || (doubled && c == '"') then return .inl (c :: cs)
        else return .inl (c :: '\\' :: cs)
    | some c =>
      advance
      return .inl (c :: cs)) (return []) maxTurns []

/-- Does the text begin with a line that is the end mark? Gives what is behind it. -/
def behindMark? (mark text : Bytes) : Option Bytes :=
  if mark.isPrefixOf text then
    match text.drop mark.length with
    | [] => some []
    | '\n' :: rest => some rest
    | _ => none
  else none

/-- At the start of a line of a document: is the end mark there? Leaves out tabs. -/
def atEndMark (mode : Mode) : Purpose → Reader Bool
  | .document awaited => do
    discard (if mode = .single then peek else peekJoined)
    let s ← get
    let text := if awaited.stripTabs then s.text.dropWhile (· == '\t') else s.text
    match behindMark? awaited.endMark text with
    | some rest =>
      set { s with text := rest, line := s.line + 1 }
      return true
    | none =>
      set { s with text := text }
      return false
  | _ => return false

/-- What is escaped in double quotes, because it could mean something elsewhere. -/
def escapedInQuotes (c : Char) : Bool := "!*?[=~:/-]".toList.contains c

/-- Ends a word unless it is inside braces. -/
def endsWord (c : Char) : Bool := " \t<>();&|".toList.contains c

/-- Reads on with another text, and comes back. -/
def within {α : Type} (text : Bytes) (act : Reader α) : Reader α := fun s =>
  match act { s with text := text, line := 1, outer := [], awaited := [] } with
  | .error complaint => .error { complaint with unread := s.unread }
  | .ok (a, t) => .ok (a, { t with
    text := s.text, line := s.line, outer := s.outer, awaited := s.awaited, returned := none })

/-- A dollar sign has been passed. -/
def readDollar (newStyle : Reader (Option Command)) (purpose : Purpose) (p : Progress) :
    Reader Progress := do
  match purpose, ← peekJoined with
  | .endMark, _ => return p.char '$'
  | _, some '(' =>
    advance
    if ← accept '(' then
      return { p.push .openArithmetic with
        below := p.level :: p.below
        level := { Level.start .arithmetic with doubled := true } }
    else return p.push (.output (← newStyle))
  | _, some '\x7b' =>
    advance
    match ← readBraced with
    | (name, use, word) =>
      let p := p.push (.openParameter name use)
      return if word then p.openBrace (use matches .trim _ _) else p
  | _, some c =>
    if isNameChar c then return p.push (.openParameter (← readName 1) .plain)
    else if isSpecialName c then
      advance
      return p.push (.openParameter [c] .plain)
    else return p.char '$'
  | _, none => return p.char '$'

/-- A backslash has been passed. -/
def readEscape (purpose : Purpose) (p : Progress) : Reader Progress := do
  match ← peek with
  | none => return p.escaped '\\'
  | some c =>
    advance
    let l := p.level
    let keeps := l.doubled && c != '\\' && c != '\x60' && c != '$' &&
      (c != '"' || (purpose.isDocument && l.braces == 0)) && (c != '\x7d' || l.braces == 0)
    let p := if keeps then p.escaped '\\' else p
    return { p.escaped c with quoted := true }

/-- A closing parenthesis in arithmetic has been passed. -/
def readParenthesis (p : Progress) : Reader Progress := do
  if 0 < p.level.parentheses then
    return (p.setLevel { p.level with parentheses := p.level.parentheses - 1 }).char ')'
  else if ← accept ')' then return (p.push .close).pop
  else return p.char ')'

/-- One step of reading a word: the next character, if it belongs to the word. -/
def stepWord (oldStyle newStyle : Reader (Option Command)) (purpose : Purpose) (p : Progress) :
    Reader (Progress ⊕ Progress) := do
  let next ← if p.level.mode = .single then peek else peekJoined
  match next with
  | none => return .inr p
  | some '\n' =>
    if p.level.mode = .bare && p.level.braces == 0 then return .inr p
    else
      advanceLine
      if ← atEndMark p.level.mode purpose then return .inr (p.char '\n') else return .inl (p.char '\n')
  | some c =>
    let l := p.level
    if l.mode = .single then
      advance
      return .inl (if c == '\'' then p.closeQuote purpose c else p.escaped c)
    else if c == '\\' then
      advance
      return .inl (← readEscape purpose p)
    else if c == '$' then
      advance
      return .inl (← readDollar newStyle purpose p)
    else if c == '\x60' then
      advance
      match purpose with
      | .endMark => return .inl { p.char c with quoted := true }
      | _ => return .inl (p.push (.output (← within (← readBackquoted l.doubled) oldStyle)))
    else if c == '\x7d' then
      advance
      return .inl p.closeBrace
    else if l.mode = .bare && c == '\'' then
      advance
      return .inl (p.openSingle purpose)
    else if l.mode = .bare && c == '"' then
      advance
      return .inl (p.openDouble purpose)
    else if l.mode = .double && c == '"' then
      advance
      return .inl (p.closeQuote purpose c)
    else if l.mode = .bare && endsWord c && l.braces == 0 then return .inr p
    else if l.mode = .arithmetic && c == ')' then
      advance
      return .inl (← readParenthesis p)
    else
      advance
      let p := if l.mode = .arithmetic && c == '(' then
        p.setLevel { l with parentheses := l.parentheses + 1 } else p
      return .inl (if l.mode = .double && escapedInQuotes c then p.escaped c else p.char c)

/-- Reads a word to its end: its items, and whether any of it was quoted. -/
def readItems (oldStyle newStyle : Reader (Option Command)) (purpose : Purpose) (mode : Mode) :
    Reader (List Item × Bool) := do
  let start : Progress := ⟨.start mode, [], [], false⟩
  let p ← if ← atEndMark mode purpose then pure start
    else iterate (stepWord oldStyle newStyle purpose) (return start) maxTurns start
  if p.level.mode = .arithmetic then fail "Missing '))'"
  if p.level.mode != .bare && !purpose.isDocument then fail "Unterminated quoted string"
  if p.level.braces != 0 then fail "Missing '\x7d'"
  return (p.items.reverse, p.quoted)

/-- Reads the documents that are awaited. -/
def readDocuments (oldStyle newStyle : Reader (Option Command)) : Reader Unit := do
  let awaited := (← get).awaited
  modify fun s => { s with awaited := [] }
  awaited.forM fun a => do
    let (items, _) ← readItems oldStyle newStyle (.document a) (if a.expanded then .double else .single)
    modify fun s => { s with documents := s.documents.setIfInBounds a.number (wordOf items) }

/-! ### Tokens -/

/-- The arrow that stands next, and the descriptor it is for if no number says so. -/
def readArrow : Reader (Nat × Arrow) := do
  if ← accept '>' then
    if ← accept '>' then return (1, .file .append)
    else if ← accept '|' then return (1, .file .overwrite)
    else if ← accept '&' then return (1, .copy)
    else return (1, .file .replace)
  else
    advance
    if ← accept '<' then return (0, .here (← accept '-'))
    else if ← accept '&' then return (0, .copy)
    else if ← accept '>' then return (0, .file .readWrite)
    else return (0, .file .read)

/-- A word, or an arrow with the number before it. -/
def readWordToken (oldStyle newStyle : Reader (Option Command)) (purpose : Purpose) :
    Reader Token := do
  let (items, quoted) ← readItems oldStyle newStyle purpose .bare
  let arrow (number : Option Nat) : Reader Token := do
    let (n, arrow) ← readArrow
    return .redirect (number.getD n) arrow
  let c ← peekJoined
  if (c == some '<' || c == some '>') && !quoted then
    match items with
    | [] => arrow none
    | [.char _ d] => if d.isDigit then arrow (some (d.toNat - '0'.toNat)) else return .word items quoted
    | _ => return .word items quoted
  else return .word items quoted

/-- The next token of the text. -/
def readFresh (oldStyle newStyle : Reader (Option Command)) (purpose : Purpose) : Reader Token :=
  let double (c : Char) (two one : Token) : Reader (Unit ⊕ Token) := do
    advance
    return .inr (if ← accept c then two else one)
  let single (t : Token) : Reader (Unit ⊕ Token) := do
    advance
    return .inr t
  iterate (fun () => do
    match ← peekJoined with
    | none => return .inr .endOfFile
    | some '\n' =>
      advanceLine
      return .inr .newline
    | some '#' =>
      modify fun s => { s with text := s.text.dropWhile (· != '\n') }
      return .inl ()
    | some '&' => double '&' .both .ampersand
    | some '|' => double '|' .either .bar
    | some ';' => double ';' .armEnd .semicolon
    | some '(' => single .opening
    | some ')' => single .closing
    | some c =>
      if c == ' ' || c == '\t' then
        advance
        return .inl ()
      else return .inr (← readWordToken oldStyle newStyle purpose)) (return .endOfFile) maxTurns ()

/-- What is heeded as the next token is read. -/
structure Heed where
  keywords : Bool
  aliases : Bool
  newlines : Bool

namespace Heed

def none : Heed := ⟨false, false, false⟩
def aliasesOnly : Heed := ⟨false, true, false⟩
def commandStart : Heed := ⟨true, true, false⟩
/-- As `commandStart`, and newlines are passed. -/
def nextCommand : Heed := ⟨true, true, true⟩
def arm : Heed := ⟨true, false, true⟩

end Heed

/-- Gives a token back. -/
def giveBack (t : Token) : Reader Unit := modify fun s => { s with returned := some t }

/-- The token given back, or the next one; and whether it is a new one. -/
def readRaw (oldStyle newStyle : Reader (Option Command)) (purpose : Purpose) :
    Reader (Token × Bool) := do
  match (← get).returned with
  | some t =>
    modify fun s => { s with returned := none }
    return (t, false)
  | none => return (← readFresh oldStyle newStyle purpose, true)

/-- Puts the text of an alias in front of what is left. -/
def enterAlias (name value : Bytes) : Reader Unit := modify fun s =>
  let blank := value.getLast? == some ' ' || value.getLast? == some '\t'
  { s with text := value, outer := ⟨name, blank, s.text⟩ :: s.outer }

/-- The next token, with the keywords and aliases that are heeded. -/
def readToken (oldStyle newStyle : Reader (Option Command)) (purpose : Purpose) (heed : Heed) :
    Reader Token :=
  iterate (fun () => do
    let (t, fresh) ← readRaw oldStyle newStyle purpose
    match t with
    | .newline =>
      if heed.newlines then
        readDocuments oldStyle newStyle
        return .inl ()
      else return .inr t
    | .word items false =>
      let s ← get
      let aliases := (heed.aliases || s.aliasNext) && fresh
      set { s with aliasNext := false }
      let text := plainChars items
      if text.length != items.length then return .inr t
      else if heed.keywords && keywords.contains text then return .inr (.keyword text)
      else if aliases && !s.outer.any fun o => o.name == text then
        match s.aliases.lookup text with
        | some value =>
          enterAlias text value
          return .inl ()
        | none => return .inr t
      else return .inr t
    | _ => return .inr t) (return .endOfFile) maxTurns ()

end Reader

end KeyAudit.Sandbox.Shell
