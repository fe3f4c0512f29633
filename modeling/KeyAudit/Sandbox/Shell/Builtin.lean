/-
The built-in commands that run no other command.

Each takes its words and gives a status. What it writes appears when it ends; what it
complains about appears at once. `plainBuiltin?` finds a command by its name.
-/

import KeyAudit.Sandbox.Shell.Condition
import KeyAudit.Sandbox.Shell.Field
import KeyAudit.Sandbox.Shell.Format
import KeyAudit.Sandbox.Shell.Job

namespace KeyAudit.Sandbox.Shell

/-! ### Options of a command -/

/-- The options in front of words, with their own words, and the words behind them.
`known` are the letters, each with whether a word belongs to it. -/
def takeOptions (known : List (Char × Bool)) (words : List Bytes) :
    Session (List (Char × Bytes) × List Bytes) :=
  let letters (found : List (Char × Bytes)) (cs : Bytes) (ws : List Bytes) :
      Session (List (Char × Bytes) × List Bytes) :=
    iterate (fun (found, cs, ws) => do
      match cs with
      | [] => return .inr (found, ws)
      | c :: cs =>
        match known.lookup c, cs, ws with
        | none, _, _ => failText ("Illegal option -" ++ String.singleton c)
        | some false, _, _ => return .inl ((c, []) :: found, cs, ws)
        | some true, [], [] => failText ("No arg for -" ++ String.singleton c ++ " option")
        | some true, [], w :: ws => return .inl ((c, w) :: found, [], ws)
        | some true, cs, _ => return .inl ((c, cs) :: found, [], ws))
      (return (found, ws)) maxTurns (found, cs, ws)
  iterate (fun (found, ws) => do
    match ws with
    | ['-', '-'] :: rest => return .inr (found.reverse, rest)
    | ('-' :: c :: cs) :: rest => return .inl (← letters found (c :: cs) rest)
    | _ => return .inr (found.reverse, ws)) (return ([], words)) maxTurns ([], words)

/-! ### Texts -/

/-- A text in quotes that a script can read back. -/
def inQuotes (text : Bytes) : Bytes :=
  let quoted (run : Bytes) : Bytes :=
    if run.head? == some '\'' then '"' :: run ++ ['"'] else '\'' :: run ++ ['\'']
  (if text.head?.all (· == '\'') then ['\'', '\''] else []) ++
    (text.splitBy fun a b => (a == '\'') == (b == '\'')).flatMap quoted

/-- A number in octal digits. -/
def octal (digits n : Nat) : Bytes :=
  let own := Nat.toDigits 8 n
  List.replicate (digits - own.length) '0' ++ own

/-! ### Variables -/

/-- Shows variables with their values, in the order of their names. -/
def showVariables (command : Bytes) (shown : Variable → Bool) : Session Unit := do
  let vs := ((← get).store.filter fun v => shown v.2).mergeSort fun a b => standsBefore a.1 b.1
  vs.forM fun (name, v) =>
    let front := if command.isEmpty then [] else command ++ [' ']
    put (front ++ name ++ (match v.value with
      | some value => '=' :: inQuotes value
      | none => []) ++ ['\n'])

/-- A word as a name and a value, if it has one. -/
def namedValue (word : Bytes) : Bytes × Option Bytes :=
  let name := word.takeWhile (· != '=')
  (name, if name.length < word.length then some (word.drop (name.length + 1)) else none)

/-- Marks variables, and assigns those that have a value. -/
def mark (command : Bytes) (readOnly : Bool) (words : List Bytes) : Session Nat := do
  let (found, words) ← takeOptions [('p', false)] words
  if found.isEmpty && !words.isEmpty then
    words.forM fun w => do
      let (name, value) := namedValue w
      match value with
      | some v => assign name v
      | none => pure ()
      markVariable name readOnly
  else showVariables command fun v => if readOnly then v.readOnly else v.exported
  return 0

def unsetAll (words : List Bytes) : Session Nat := do
  let (found, words) ← takeOptions [('v', false), ('f', false)] words
  if (found.getLast?.map (·.1)) == some 'f' then
    modify fun s => { s with functions := s.functions.filter fun f => !words.contains f.1 }
  else words.forM unassign
  return 0

/-- Makes variables belong to the function that runs. -/
def makeLocal (words : List Bytes) : Session Nat := do
  if (← get).locals.isEmpty then failText "not in a function"
  words.forM fun w => do
    let (name, value) := namedValue w
    if !isName name then fail (name ++ ": bad variable name".toList)
    keepVariable name
    match value with
    | some v => assign name v
    | none => pure ()
  return 0

/-! ### Options and arguments of the script -/

/-- Prints the options: as a table, or as the commands that would set them. -/
def showOptions (asTable : Bool) : Session Unit := do
  let s ← get
  if asTable then putText "Current option settings\n"
  optionLetters.reverse.forM fun (c, name) => putText (
    if asTable then
      name ++ String.ofList (List.replicate (16 - name.length) ' ') ++
        (if s.hasOption c then "on\n" else "off\n")
    else "set " ++ (if s.hasOption c then "-o " else "+o ") ++ name ++ "\n")

/-- The option of a shell that takes its commands from a word. -/
def takesCommand : Char := 'c'

/-- Turns options on or off that are given by letters or, behind an `o`, by name, and
gives the words behind them, if there are any. A shell that starts has some more. -/
def changeOptions (starts : Bool) (words : List Bytes) : Session (Option (List Bytes)) :=
  iterate (fun ws => do
    match ws with
    | [] => return .inr none
    | ['-', '-'] :: rest => return .inr (some rest)
    | ['-'] :: rest =>
      setOption false 'x'
      setOption false 'v'
      return .inr (if rest.isEmpty then none else some rest)
    | (sign :: letters) :: rest =>
      if sign != '-' && sign != '+' then return .inr (some ws)
      else
        let on := sign == '-'
        let rest ← letters.foldlM (fun rest c => do
          if c == 'o' then
            match rest with
            | [] =>
              showOptions on
              return []
            | name :: rest =>
              match optionLetters.find? fun o => o.2.toList == name with
              | some (c, _) =>
                setOption on c
                return rest
              | none => fail ("Illegal option -o ".toList ++ name)
          else if starts && c == takesCommand then
            modify fun s => { s with options := takesCommand :: s.options }
            return rest
          else if starts && c == 'l' then return rest
          else if c.isDigit then failText ("Illegal option -" ++ String.singleton c)
          else
            setOption on c
            return rest) rest
        return .inl rest
    | _ => return .inr (some ws)) (return none) maxTurns words

def changeSettings (words : List Bytes) : Session Nat := do
  if words.isEmpty then showVariables [] fun v => v.value.isSome
  else
    match ← changeOptions false words with
    | some args => modify fun s => { s with arguments := args, optionWord := 1, optionPlace := none }
    | none => pure ()
  return 0

def shift (words : List Bytes) : Session Nat := do
  let n ← match words with
    | [] => pure 1
    | w :: _ => countOf w
  let s ← get
  if s.arguments.length < n then failText "can't shift that many"
  set { s with arguments := s.arguments.drop n, optionWord := 1, optionPlace := none }
  return 0

/-- What the next option is, with its word; none at the end of the options. -/
inductive Option' where
  | found (letter : Char) (word : Bytes)
  | illegal (letter : Char)
  | lacking (letter : Char)
  | none

/-- Looks for the next option from a place in the words; also gives the next word and
the place in the word before it. -/
def nextOption (known : Bytes) (words : List Bytes) (word : Nat) (place : Option Nat) :
    Option' × Nat × Option Nat :=
  let current : Bytes := match place with
    | some p => ((words[word - 2]?).getD []).drop p
    | none => []
  let read (word : Nat) (cs : Bytes) : Option' × Nat × Option Nat :=
    let placeIn : Option Nat :=
      (words[word - 2]?).map fun w => w.length - (cs.length - 1)
    match cs with
    | [] => (.none, word, none)
    | c :: rest =>
      match (known.dropWhile (· == ':')).dropWhile (· != c) with
      | _ :: ':' :: _ =>
        if !rest.isEmpty then (.found c rest, word, none)
        else
          match words[word - 1]? with
          | some w => (.found c w, word + 1, none)
          | none => (.lacking c, word, placeIn)
      | _ :: _ => (.found c [], word, placeIn)
      | [] => (.illegal c, word, placeIn)
  if !current.isEmpty then read word current
  else
    match words[word - 1]? with
    | some ['-', '-'] => (.none, word + 1, none)
    | some ('-' :: c :: cs) => read (word + 1) (c :: cs)
    | _ => (.none, word, none)

def getOptions (words : List Bytes) : Session Nat := do
  match words with
  | known :: name :: own =>
    let s ← get
    let args := if own.isEmpty then s.arguments else own
    let (word, place) := if args.length + 1 < s.optionWord then (1, none)
      else (s.optionWord, s.optionPlace)
    let (option, word, place) := nextOption known args word place
    let silent := known.head? == some ':'
    let letter ← match option with
      | .found c w =>
        assign "OPTARG".toList w
        pure c
      | .illegal c =>
        if silent then assign "OPTARG".toList [c]
        else
          putError ("Illegal option -".toList ++ [c, '\n'])
          unassign "OPTARG".toList
        pure '?'
      | .lacking c =>
        if silent then
          assign "OPTARG".toList [c]
          pure ':'
        else
          putError ("No arg for -".toList ++ [c] ++ " option\n".toList)
          unassign "OPTARG".toList
          pure '?'
      | .none => pure '?'
    assign "OPTIND".toList (ofInt word)
    assign name [letter]
    modify fun s => { s with optionWord := word, optionPlace := place }
    return if option matches .none then 1 else 0
  | _ => failText "Usage: getopts optstring var [arg...]"

/-! ### Input -/

/-- A line that is read: the characters up to its end, each with whether it was
escaped, how many bytes that takes, and whether the end is there. A backslash escapes
the next character, or joins the next line, unless `raw`. -/
def lineOf (raw : Bool) : Nat → Marked → List UInt8 → Marked × Nat × Bool
  | n, acc, [] => (acc.reverse, n, false)
  | n, acc, b :: bs =>
    let keep (escaped : Bool) (c : Char) : Marked := if c == '\x00' then acc else (escaped, c) :: acc
    let c := ofByte b
    if c == '\n' then (acc.reverse, n + 1, true)
    else if c == '\\' && !raw then
      match bs with
      | [] => (acc.reverse, n + 1, false)
      | b :: bs => lineOf raw (n + 2) (if ofByte b == '\n' then acc else keep true (ofByte b)) bs
    else lineOf raw (n + 1) (keep false c) bs

/-- Runs of characters as chunks; those that were escaped are not cut. -/
def lineChunks (line : Marked) : List Chunk :=
  (line.splitBy fun a b => a.1 == b.1).map fun run =>
    let cs := run.map (·.2)
    if run.head?.any (·.1) then .kept false cs else .split cs

def readLine (words : List Bytes) : Session Nat := do
  let (found, names) ← takeOptions [('p', true), ('r', false)] words
  if names.isEmpty then failText "arg count"
  let raw := found.any fun o => o.1 == 'r'
  let (line, length, ended) := lineOf raw 0 [] ((← readable 0).getD [])
  passRead 0 length
  let fields := fieldsOf (← get).separators (some names.length) (lineChunks line)
  let values := fields.map Field.text ++ List.replicate names.length []
  (names.zip values).forM fun (name, value) => assign name value
  return if ended then 0 else 1

/-! ### Printing and conditions -/

def print (words : List Bytes) : Session Nat := do
  let (_, words) ← takeOptions [] words
  match words with
  | [] => failText "usage: printf format [arg ...]"
  | format :: words =>
    let p := printed format words
    p.complaints.forM complain
    put p.output
    match p.failure with
    | some message => fail message
    | none => return if p.complaints.isEmpty then 0 else 1

def test (words : List Bytes) : Session Nat := do
  match Condition.holds (← get) false words with
  | .ok holds => return if holds then 0 else 1
  | .error message => fail message

/-! ### Directories -/

/-- A path without `.` and `..`, taken from a directory. -/
def logicalPath (directory path : Bytes) : Bytes :=
  let start := if path.head? == some '/' then [] else (Path.pieces directory).filter (!·.isEmpty)
  let pieces := (Path.pieces path).foldl (fun acc p =>
    if p.isEmpty || p == ['.'] then acc else if p == ['.', '.'] then acc.dropLast else acc ++ [p]) start
  '/' :: Path.joinPieces pieces

/-- Goes to a directory, if there is one. -/
def enter (physical : Bool) (path : Bytes) : Session Bool := do
  let s ← get
  let path := if physical then path else logicalPath s.path path
  match s.find .content path with
  | .ok (place, .directory _) =>
    let old := s.path
    let new := if physical then pathOfPlace place else path
    let found := s.found.map fun f => { f with isStale := true }
    set { s with directory := place, path := new, found := found }
    assign "OLDPWD".toList old
    markVariable "OLDPWD".toList false
    assign "PWD".toList new
    markVariable "PWD".toList false
    return true
  | _ => return false

/-- The parts of a text between colons. -/
def listParts (text : Bytes) : List Bytes :=
  text.foldr (fun c parts =>
    match parts with
    | [] => [[c]]
    | p :: ps => if c == ':' then [] :: p :: ps else (c :: p) :: ps) [[]]

/-- A name below a directory of a search list. -/
def belowPart (part name : Bytes) : Bytes := if part.isEmpty then name else part ++ '/' :: name

/-- Does a path begin at the root, or at the directory or one above it? -/
def isAnchored (path : Bytes) : Bool :=
  match path with
  | '/' :: _ | ['.'] | '.' :: '/' :: _ | ['.', '.'] | '.' :: '.' :: '/' :: _ => true
  | _ => false

def changeDirectory (words : List Bytes) : Session Nat := do
  let (found, words) ← takeOptions [('L', false), ('P', false)] words
  let physical := (found.getLast?.map (·.1)) == some 'P'
  let s ← get
  let (target, shown) : Bytes × Bool := match words with
    | [] => ((s.valueOf? "HOME".toList).getD [], false)
    | ['-'] :: _ => ((s.valueOf? "OLDPWD".toList).getD [], true)
    | w :: _ => (w, false)
  let isDirectory (path : Bytes) : Bool :=
    match s.find .content path with
    | .ok (_, .directory _) => true
    | _ => false
  let path := if target.isEmpty then ['.'] else target
  let found : Option (Bytes × Bool) :=
    if isAnchored target then none
    else
      match s.valueOf? "CDPATH".toList with
      | none => none
      | some list => (listParts list).findSome? fun part =>
          let below := belowPart part path
          if isDirectory below then some (below, !part.isEmpty) else none
  let (path, listed) := found.getD (path, false)
  if ← enter physical path then
    if shown || listed then put ((← get).path ++ ['\n'])
    return 0
  else fail ("can't cd to ".toList ++ target)

def printDirectory (words : List Bytes) : Session Nat := do
  let (found, _) ← takeOptions [('L', false), ('P', false)] words
  let s ← get
  let path := if (found.getLast?.map (·.1)) == some 'P' then pathOfPlace s.directory else s.path
  put (path ++ ['\n'])
  return 0

/-- The rights that a mask leaves, in words. -/
def maskText (mask : Nat) : Bytes :=
  let rights (n : Nat) : Bytes :=
    (if n / 4 % 2 = 0 then ['r'] else []) ++ (if n / 2 % 2 = 0 then ['w'] else []) ++
      (if n % 2 = 0 then ['x'] else [])
  "u=".toList ++ rights (mask / 64) ++ ",g=".toList ++ rights (mask / 8 % 8) ++ ",o=".toList ++
    rights (mask % 8) ++ ['\n']

/-- The rights that clauses such as `u=rwx` leave of those before. Whom a clause is for
holds for the next one too if no comma stands between them. -/
def rightsAfter (before : Nat) : Nat → Nat → Nat → Bytes → Option Nat
  | 0, _, _, _ => none
  | _ + 1, _, rights, [] => some rights
  | n + 1, whom, rights, text =>
    let groups := text.takeWhile "augo".toList.contains
    let whom := groups.foldl (fun whom c => whom ||| match c with
      | 'u' => 0o100
      | 'g' => 0o010
      | 'o' => 0o001
      | _ => 0o111) whom
    let whom := if whom = 0 then 0o111 else whom
    match text.drop groups.length with
    | sign :: text =>
      let own := text.takeWhile "rwxugoXs".toList.contains
      let kinds := own.foldl (fun kinds c => kinds ||| match c with
        | 'r' => 4
        | 'w' => 2
        | 'x' => 1
        | 'u' => before / 64
        | 'g' => before / 8
        | 'o' => before
        | 'X' => if before &&& 0o111 = 0 then 0 else 1
        | _ => 0) 0
      let given := kinds % 8 * whom
      let left : Option Nat := match sign with
        | '+' => some (rights ||| given)
        | '-' => some (rights ^^^ (rights &&& given))
        | '=' => some (given ||| (rights ^^^ (rights &&& whom * 7)))
        | _ => none
      match left, text.drop own.length with
      | some rights, ',' :: text => rightsAfter before n 0 rights text
      | some rights, text =>
        if text.take 1 |>.all "=+-".toList.contains then
          rightsAfter before n whom rights text
        else none
      | none, _ => none
    | [] => none

def changeMask (words : List Bytes) : Session Nat := do
  let (found, words) ← takeOptions [('S', false)] words
  match words with
  | [] =>
    let mask := (← get).mask
    put (if found.isEmpty then octal 4 mask ++ ['\n'] else maskText mask)
    return 0
  | w :: _ =>
    if (w.head?.any Char.isDigit) then
      if w.all isOctal then modify fun s => { s with mask := ofDigits 8 w % 512 }
      else illegalNumber w
    else
      let rights := 0o777 - (← get).mask
      match rightsAfter rights (w.length + 1) 0 rights w with
      | some rights => modify fun s => { s with mask := 0o777 - rights }
      | none => fail ("Illegal mode: ".toList ++ w)
    return 0

/-! ### Signals -/

/-- Sends a signal to a process. A subshell sends signals to the script from outside. -/
def send (process signal : Nat) : Session Unit := do
  let s ← get
  if signal = 0 then return
  else if process = s.process && !s.isSubshell then
    match s.traps.lookup signal with
    | some [] => return
    | some _ => set { s with signals := s.signals ++ [(process, signal)] }
    | none => if harmlessSignals.contains signal then return else throw (.killed signal)
  else set { s with signals := s.signals ++ [(process, signal)] }

def killUsage : String :=
  "Usage: kill [-s sigspec | -signum | -sigspec] [pid | job]... or\nkill -l [exitstatus]"

/-- Lists the names of signals. -/
def listSignals (words : List Bytes) : Session Nat := do
  match words with
  | [] =>
    putText "0\n"
    (signalNames.drop 1).forM fun n => putText (n ++ "\n")
  | w :: _ =>
    let n ← countOf w
    let signal := if 128 < n then n - 128 else n
    match if signal = 0 then none else signalNames[signal]? with
    | some name => putText (name ++ "\n")
    | none => fail ("invalid signal number or exit status: ".toList ++ w)
  return 0

/-- Sends a signal to a process in the background; false if there is none. -/
def sendToJob (process signal : Nat) : Session Bool := do
  let s ← get
  if s.suspended.any fun j => j.process == process then
    if signal != 0 && !harmlessSignals.contains signal then
      set { s with
        suspended := s.suspended.filter fun j => j.process != process
        ended := (process, .killed signal false) :: s.ended }
    return true
  else return s.jobs.any fun j => j.process == process && !j.isWaited

/-- Sends a signal to each of the processes. -/
def sendAll (signal : Nat) (words : List Bytes) : Session Nat :=
  words.foldlM (fun status w => do
    let absent : Session Nat := do
      complain "No such process\n".toList
      return 1
    match w with
    | '%' :: _ =>
      discard (jobOf w)
      absent
    | _ =>
      let (group, digits) := match w with
        | '-' :: ds => (true, ds)
        | ds => (false, ds)
      let n ← countOf digits
      let s ← get
      if !group && (n = s.process || n = s.parent) then
        send n signal
        return status
      else if ← if group then pure false else sendToJob n signal then return status
      else absent) 0

def sendSignal (words : List Bytes) : Session Nat := do
  match words with
  | [] => failText killUsage
  | first :: rest =>
    let direct : Option Nat := match first with
      | '-' :: text => signal? text 1
      | _ => none
    let (signal, listing, targets) : Option Nat × Bool × List Bytes ← match direct with
      | some n => pure (some n, false, rest)
      | none =>
        if first.head? == some '-' then
          let (found, targets) ← takeOptions [('l', false), ('s', true)] words
          let signal ← found.foldlM (fun signal (c, w) => do
            if c == 's' then
              match signal? w 1 with
              | some n => return some n
              | none => fail ("invalid signal number or name: ".toList ++ w)
            else return signal) none
          pure (signal, found.any fun o => o.1 == 'l', targets)
        else pure (none, false, words)
    if listing then
      if signal.isSome then failText killUsage else listSignals targets
    else if targets.isEmpty then failText killUsage
    else sendAll (signal.getD 15) targets

/-- Sets actions for signals, or shows them. -/
def setTraps (words : List Bytes) : Session Nat := do
  let (_, words) ← takeOptions [] words
  match words with
  | [] =>
    let s ← get
    (signalNames.zipIdx).forM fun (name, n) =>
      match s.traps.lookup n with
      | some action => put ("trap -- ".toList ++ inQuotes action ++ (' ' :: name.toList) ++ ['\n'])
      | none => pure ()
    return 0
  | first :: rest =>
    let isNumber := !first.isEmpty && first.all Char.isDigit && (signal? first 0).isSome
    let (action, names) : Option Bytes × List Bytes :=
      if rest.isEmpty || isNumber then (none, words)
      else (if first == ['-'] then none else some first, rest)
    iterate (fun names => do
      match names with
      | [] => return .inr 0
      | w :: ws =>
        match signal? w 0 with
        | none =>
          putError ("trap: ".toList ++ w ++ ": bad trap\n".toList)
          return .inr 1
        | some n =>
          modify fun s =>
            let others := s.traps.filter fun t => t.1 != n
            { s with traps := match action with
              | some a => (n, a) :: others
              | none => others }
          return .inl ws) (return 0) maxTurns names

/-! ### Leaving -/

/-- Leaves the shell. Without a status, the action at its end keeps the one before. -/
def leave (words : List Bytes) : Session Nat := do
  let s ← get
  let status ← match words with
    | [] => pure (s.leaving.getD s.status)
    | w :: _ => countOf w
  modify fun s => { s with status := status % 256 }
  throw .leave

def returnFrom (words : List Bytes) : Session Nat := do
  let status ← match words with
    | [] => pure (← get).status
    | w :: _ => countOf w
  modify fun s => { s with skip := .function }
  return status

def leaveLoops (turnOnly : Bool) (words : List Bytes) : Session Nat := do
  let n ← match words with
    | [] => pure 1
    | w :: _ => do
      let n ← countOf w
      if n = 0 then illegalNumber w else pure n
  modify fun s =>
    let n := min n s.loops
    if n = 0 then s else { s with skip := if turnOnly then .turn n else .loops n }
  return 0

/-! ### Aliases, jobs and the rest -/

def showAlias (a : Bytes × Bytes) : Session Unit := put (a.1 ++ '=' :: inQuotes a.2 ++ ['\n'])

/-- The place of a name in a listing that has so many places. -/
def placeOf (name : Bytes) (places : Nat) : Nat :=
  (name.foldl (fun n c => n + c.toNat) ((name.head?.elim 0 Char.toNat) * 16)) % places

/-- The place of a name in the listing of aliases. -/
def aliasPlace (name : Bytes) : Nat := placeOf name 39

def setAliases (words : List Bytes) : Session Nat := do
  if words.isEmpty then
    let listed := (← get).aliases.mergeSort fun a b => aliasPlace a.1 ≤ aliasPlace b.1
    listed.forM showAlias
    return 0
  else
    words.foldlM (fun status w => do
      match namedValue w with
      | (c :: name, some value) =>
        modify fun s =>
          if s.aliases.any fun a => a.1 == c :: name then
            { s with aliases := s.aliases.map fun a => if a.1 = c :: name then (a.1, value) else a }
          else { s with aliases := s.aliases ++ [(c :: name, value)] }
        return status
      | _ =>
        match (← get).aliases.find? fun a => a.1 == w with
        | some a =>
          showAlias a
          return status
        | none =>
          putError ("alias: ".toList ++ w ++ " not found\n".toList)
          return 1) 0

def removeAliases (words : List Bytes) : Session Nat := do
  let (found, words) ← takeOptions [('a', false)] words
  if !found.isEmpty then
    modify fun s => { s with aliases := [] }
    return 0
  else
    words.foldlM (fun status w => do
      if (← get).aliases.any fun a => a.1 == w then
        modify fun s => { s with aliases := s.aliases.filter fun a => a.1 != w }
        return status
      else
        putError ("unalias: ".toList ++ w ++ " not found\n".toList)
        return 1) 0

/-- Lists processes in the background. Those that have ended are forgotten. -/
def listJobs (words : List Bytes) : Session Nat := do
  let (found, words) ← takeOptions [('l', false), ('p', false)] words
  let mode := found.getLast?.map (·.1)
  let jobs ← if words.isEmpty then pure (← get).jobs else words.mapM jobOf
  jobs.forM fun job => do
    put ((← get).jobLine mode job)
    forgetEnded job
  return 0

/-- Brings a job to another place, which no job of a script can be brought to. -/
def moveJob (words : List Bytes) : Session Nat := do
  let (_, words) ← takeOptions [] words
  let name := words.head?
  discard (jobOf (name.getD ['%']))
  fail ("job ".toList ++ name.getD "(null)".toList ++ " not created under job control".toList)

/-! ### Bounds on resources -/

/-- A resource: its letter, its name, and how many bytes or other units a number stands
for. -/
structure Resource where
  letter : Char
  name : String
  unit : Nat

def resources : List Resource :=
  [⟨'t', "time(seconds)", 1⟩, ⟨'f', "file(blocks)", 512⟩, ⟨'d', "data(kbytes)", 1024⟩,
    ⟨'s', "stack(kbytes)", 1024⟩, ⟨'c', "coredump(blocks)", 512⟩, ⟨'m', "memory(kbytes)", 1024⟩,
    ⟨'l', "locked memory(kbytes)", 1024⟩, ⟨'p', "process", 1⟩, ⟨'n', "nofiles", 1⟩,
    ⟨'v', "vmemory(kbytes)", 1024⟩, ⟨'w', "locks", 1⟩, ⟨'r', "rtprio", 1⟩]

/-- The bounds that a script starts with, where there are any, in their units. -/
def firstLimits : List (Char × Limit) :=
  [('s', ⟨some 8192, none⟩), ('c', ⟨some 0, none⟩), ('l', ⟨some 8192, some 8192⟩),
    ('p', ⟨some 128620, some 128620⟩), ('n', ⟨some 20000, some 20000⟩), ('r', ⟨some 0, some 0⟩)]

/-- More files than this cannot be open at all. -/
def maxFiles : Nat := 1048576

/-- The number that a bound is written as. -/
def limitOf (word : Bytes) : Session (Option Nat) :=
  if word = "unlimited".toList then return none
  else if word.all Char.isDigit then return some (ofDigits 10 word)
  else failText "bad number"

/-- Is a bound above another one? -/
def exceeds : Option Nat → Option Nat → Bool
  | none, none => false
  | none, some _ => true
  | some _, none => false
  | some a, some b => b < a

/-- Shows a bound on a resource, or sets it. -/
def changeLimits (words : List Bytes) : Session Nat := do
  let letters := resources.map fun r => (r.letter, false)
  let (found, words) ← takeOptions (letters ++ [('H', false), ('S', false), ('a', false)]) words
  let options := found.map (·.1)
  let onlyHard := options.contains 'H' && !options.contains 'S'
  let onlySoft := options.contains 'S' && !options.contains 'H'
  let letter := ((options.filter fun c => !(['H', 'S', 'a'].contains c)).getLast?).getD 'f'
  let limitFor (c : Char) : Session Limit := do
    return ((← get).limits.lookup c).getD ⟨none, none⟩
  let shown (limit : Limit) : Bytes :=
    match if onlyHard then limit.hard else limit.soft with
    | some n => ofInt n ++ ['\n']
    | none => "unlimited\n".toList
  match words with
  | [] =>
    if options.contains 'a' then
      resources.forM fun r => do
        let name := r.name.toList
        put (name ++ List.replicate (20 - name.length) ' ' ++ ' ' :: shown (← limitFor r.letter))
    else put (shown (← limitFor letter))
    return 0
  | w :: more =>
    if options.contains 'a' || !more.isEmpty then failText "too many arguments"
    let value ← limitOf w
    let old ← limitFor letter
    let limit : Limit :=
      ⟨if onlyHard then old.soft else value, if onlySoft then old.hard else value⟩
    if exceeds limit.soft limit.hard then failText "error setting limit (Invalid argument)"
    if letter == 'n' && exceeds limit.hard (some maxFiles) then
      failText "error setting limit (Operation not permitted)"
    modify fun s => { s with limits := (letter, limit) :: s.limits.filter fun l => l.1 != letter }
    return 0

/-! ### The table -/

def times : String := "0m0.000000s 0m0.000000s\n0m0.000000s 0m0.000000s\n"

/-- A built-in command that runs no other command. -/
def plainBuiltin? (name : String) : Option (List Bytes → Session Nat) :=
  match name with
  | ":" | "true" => some fun _ => return 0
  | "false" => some fun _ => return 1
  | "echo" => some fun ws => do
    put (echoed ws)
    return 0
  | "printf" => some print
  | "test" => some test
  | "[" => some fun ws =>
    if (ws.getLast?.bind List.head?) == some ']' then test ws.dropLast else failText "missing ]"
  | "read" => some readLine
  | "set" => some changeSettings
  | "shift" => some shift
  | "unset" => some unsetAll
  | "export" => some (mark "export".toList false)
  | "readonly" => some (mark "readonly".toList true)
  | "local" => some makeLocal
  | "getopts" => some getOptions
  | "cd" | "chdir" => some changeDirectory
  | "pwd" => some printDirectory
  | "umask" => some changeMask
  | "kill" => some sendSignal
  | "trap" => some setTraps
  | "exit" => some leave
  | "return" => some returnFrom
  | "break" => some (leaveLoops false)
  | "continue" => some (leaveLoops true)
  | "alias" => some setAliases
  | "unalias" => some removeAliases
  | "times" => some fun _ => do
    putText times
    return 0
  | "ulimit" => some changeLimits
  | "jobs" => some listJobs
  | "fg" | "bg" => some moveJob
  | _ => none

/-- The built-in commands that run other commands. -/
def runningBuiltins : List String := [".", "command", "eval", "exec", "hash", "type", "wait"]

def isBuiltin (name : String) : Bool :=
  runningBuiltins.contains name || (plainBuiltin? name).isSome

end KeyAudit.Sandbox.Shell
