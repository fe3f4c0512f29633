/-
What a shell knows while it runs a script, and the small steps by which that changes.

The world around a shell (`World`) is shared with every shell that it starts: the
files, what is open, and the signals on their way. All the rest of a `State` is the
shell's own (`Own`), so that a subshell is a copy of it whose changes are forgotten.

A command that cannot go on ends with a `Stop`: a failure ends the shell unless a
built-in command of no special rank takes it, a leave ends the shell, a signal ends
the process, and a process in the background that runs for too long is suspended.
-/

import KeyAudit.Sandbox.FileTree
import KeyAudit.Sandbox.Shell.Grammar
import KeyAudit.Sandbox.Shell.Number

namespace KeyAudit.Sandbox.Shell

/-! ### What is open -/

/-- What is open. -/
inductive Stream where
  | device (kind : Device)
  | pipe (number : Nat)
  | file (place : FileTree.Place) (offset : Nat) (atEnd : Bool)
  | directory (place : FileTree.Place)

/-- What a descriptor leads to. -/
structure Channel where
  stream : Stream
  readable : Bool
  writable : Bool

/-- What is on its way from a writer to a reader. -/
structure Pipe where
  content : Content
  /-- How much can be on its way, if there is a bound. -/
  room : Option Nat
  /-- Was there more to write? -/
  isCut : Bool

namespace Pipe

instance : Inhabited Pipe := ⟨.empty, none, false⟩

/-- A pipe that holds a text. -/
def holding (content : Content) : Pipe := ⟨content, none, false⟩

/-- Is there room for so many more bytes? -/
def hasRoom (p : Pipe) (length : Nat) : Bool :=
  p.room.all fun room => decide (p.content.length + length ≤ room)

end Pipe

/-- Where a descriptor is to lead. -/
inductive Target where
  | file (opening : Opening) (path : Bytes)
  | copy (descriptor : Option Nat)
  | document (expanded : Bool) (number : Nat)

/-! ### The state of a shell -/

structure Variable where
  value : Option Bytes
  exported : Bool
  readOnly : Bool

/-- What is left out until the loop, the function or the script ends. -/
inductive Skip where
  | none
  | loops (count : Nat)
  /-- The rest of this turn of a loop, after the loops inside of it. -/
  | turn (count : Nat)
  | function
  deriving DecidableEq, Repr

/-- A process in the background. -/
structure Job where
  number : Nat
  process : Nat
  isWaited : Bool

/-- A bound on a resource, and the bound on that bound. -/
structure Limit where
  soft : Option Nat
  hard : Option Nat

/-- A program that has been looked up. -/
structure Found where
  name : Bytes
  path : Bytes
  /-- Has the directory been left since? -/
  isStale : Bool

/-- What a shell knows for itself. -/
structure Own where
  /-- The process that the script runs in. -/
  process : Nat
  parent : Nat
  /-- Is this a copy of the shell of the script? -/
  isSubshell : Bool
  /-- The name by which the script was called. -/
  name : Bytes
  arguments : List Bytes
  /-- The variables with their names. -/
  store : List (Bytes × Variable)
  functions : List (Bytes × Command)
  aliases : List (Bytes × Bytes)
  /-- The programs that have been looked up. -/
  found : List Found
  documents : Array Word
  options : List Char
  status : Nat
  /-- The status of the last substituted command. -/
  outputStatus : Nat
  /-- The line that complaints name. -/
  line : Nat
  /-- The line up to which the script has been read. -/
  readLine : Nat
  /-- The built-in command that is running. -/
  command : Option Bytes
  /-- Actions for signals; 0 is the end of the shell. -/
  traps : List (Nat × Bytes)
  descriptors : List (Nat × Nat)
  directory : FileTree.Place
  /-- The way by which the script came to its directory. -/
  path : Bytes
  /-- What the built-in command has written, the last text first. -/
  output : List Bytes
  loops : Nat
  /-- How many functions are running. -/
  calls : Nat
  skip : Skip
  /-- Variables to be put back at the end of a function, innermost first. -/
  locals : List (List (Bytes × Option Variable))
  /-- The next word and the place in it where options are looked for. -/
  optionWord : Nat
  optionPlace : Option Nat
  mask : Nat
  /-- The bounds on resources, by their letters. -/
  limits : List (Char × Limit)
  /-- The last process in the background. -/
  background : Option Nat
  /-- The processes in the background, the last one first. -/
  jobs : List Job
  /-- The status with which the shell was left, while the action at its end runs. -/
  leaving : Option Nat

/-- A process in the background that waits until there is more time for it. -/
structure Suspended where
  process : Nat
  /-- What its shell knows as it begins. -/
  shell : Own
  targets : List (Nat × Target)
  body : Command

/-- What all shells of a run share. -/
structure World where
  files : FileTree
  channels : Array Channel
  pipes : Array Pipe
  /-- Signals on their way, with the process they go to. -/
  signals : List (Nat × Nat)
  /-- The number of the next process. -/
  nextProcess : Nat
  /-- How many commands can still be run, if there is a bound. -/
  time : Option Nat
  suspended : List Suspended
  /-- How processes in the background ended. -/
  ended : List (Nat × ProcessStatus)

structure State extends Own, World

/-- Why a command does not go on. The status is that of the state. -/
inductive Stop where
  | failure
  | leave
  | killed (signal : Nat)
  /-- There is no time left. -/
  | suspended
  deriving DecidableEq, Repr

/-- A part of a run: it changes the state, and it can stop. -/
abbrev Session := ExceptT Stop (StateM State)

instance {α : Type} : Inhabited (Session α) := ⟨throw .leave⟩

/-- Runs a step and then another one, however the first one ends. -/
def finally' {α : Type} (act : Session α) (last : Session Unit) : Session α := do
  let r ← try
      let a ← act
      pure (Except.ok a)
    catch stop => pure (.error stop)
  last
  match r with
  | .ok a => return a
  | .error stop => throw stop

/-! ### Channels -/

/-- The channel behind a descriptor. -/
def channel? (descriptor : Nat) : Session (Option (Nat × Channel)) := do
  let s ← get
  match s.descriptors.lookup descriptor with
  | some number => return s.channels[number]?.map (number, ·)
  | none => return none

/-- Opens a channel and gives its number. -/
def openChannel (c : Channel) : Session Nat := fun s =>
  (.ok s.channels.size, { s with channels := s.channels.push c })

/-- Lets a descriptor lead to a channel. -/
def setDescriptor (descriptor : Nat) (channel : Option Nat) : Session Unit := modify fun s =>
  let others := s.descriptors.filter fun d => d.1 != descriptor
  { s with descriptors := match channel with
    | some n => (descriptor, n) :: others
    | none => others }

/-- The signal for a process that writes where nobody reads. -/
def pipeSignal : Nat := 13

/-- The signal for a process that writes more to a file than it may. -/
def sizeSignal : Nat := 25

/-- A write that fails, and ends the process if nothing was set against it. -/
def failedWrite (signal : Nat) : Session (Except OsError Unit) := do
  if ((← get).traps.lookup signal).isSome then return .error .noSpace else throw (.killed signal)

/-- How long a file may become, in bytes. -/
def State.maxLength (s : State) : Option Nat :=
  ((s.limits.lookup 'f').bind Limit.soft).map (512 * ·)

/-- Writes to a descriptor. -/
def writeTo (descriptor : Nat) (text : Bytes) : Session (Except OsError Unit) := do
  match ← channel? descriptor with
  | none => return .error .badDescriptor
  | some (number, channel) =>
    if !channel.writable then return .error .badDescriptor
    else
      match channel.stream with
      | .device .full => return if text.isEmpty then .ok () else .error .noSpace
      | .device _ | .directory _ => return .ok ()
      | .pipe n =>
        if ((← get).pipes[n]?).all fun p => p.hasRoom text.length then
          modify fun s => { s with
            pipes := s.pipes.modify n fun p => { p with content := p.content.append (toBytes text) } }
          return .ok ()
        else
          modify fun s => { s with pipes := s.pipes.modify n fun p => { p with isCut := true } }
          failedWrite pipeSignal
      | .file place offset atEnd =>
        let s ← get
        match s.files.at? place with
        | some (.file content executable) =>
          let offset := if atEnd then content.length else offset
          let written := match s.maxLength with
            | some max => text.take (max - offset)
            | none => text
          set { s with
            files := s.files.put (.file (content.overwrite offset (toBytes written)) executable) place
            channels := s.channels.setIfInBounds number
              { channel with stream := .file place (offset + written.length) atEnd } }
          if written.length < text.length then failedWrite sizeSignal else return .ok ()
        | _ => return .ok ()

/-- What can be read from a descriptor. It stays. -/
def readable (descriptor : Nat) : Session (Option (List UInt8)) := do
  match ← channel? descriptor with
  | some (_, ⟨stream, true, _⟩) =>
    match stream with
    | .pipe n => return (← get).pipes[n]?.map fun p => p.content.bytes
    | .device _ => return some []
    | .file place offset _ =>
      match (← get).files.at? place with
      | some (.file content _) => return some (content.bytes.drop offset)
      | _ => return some []
    | .directory _ => return none
  | _ => return none

/-- Passes what has been read from a descriptor. -/
def passRead (descriptor length : Nat) : Session Unit := do
  match ← channel? descriptor with
  | some (number, channel) =>
    match channel.stream with
    | .pipe n => modify fun s => { s with
        pipes := s.pipes.modify n fun p => { p with content := p.content.drop length } }
    | .file place offset atEnd => modify fun s => { s with
        channels := s.channels.setIfInBounds number
          { channel with stream := .file place (offset + length) atEnd } }
    | _ => return
  | none => return

/-! ### Output and complaints -/

/-- Writes the output of a built-in command, which appears when the command ends. -/
def put (text : Bytes) : Session Unit := modify fun s => { s with output := text :: s.output }

def putText (text : String) : Session Unit := put (ofText text)

/-- Lets the output appear; false if it cannot. -/
def flush : Session Bool := do
  let s ← get
  if s.output.isEmpty then return true
  else
    let text := s.output.reverse.flatten
    set { s with output := [] }
    if text.isEmpty then return true
    else return (← writeTo 1 text) matches .ok _

/-- Writes to the errors at once. -/
def putError (text : Bytes) : Session Unit := discard (writeTo 2 text)

/-- Complains, with the script, the line and the built-in command in front. -/
def complain (message : Bytes) : Session Unit := do
  let s ← get
  let command := match s.command with
    | some c => c ++ ": ".toList
    | none => []
  putError (s.name ++ ": ".toList ++ ofInt s.line ++ ": ".toList ++ command ++ message ++ ['\n'])

/-- Complains and fails with a status. -/
def failAs {α : Type} (status : Nat) (stop : Stop) (message : Bytes) : Session α := do
  complain message
  discard flush
  modify fun s => { s with status := status }
  throw stop

/-- Complains and fails. -/
def fail {α : Type} (message : Bytes) : Session α := failAs 2 .failure message

def failText {α : Type} (message : String) : Session α := fail message.toList

def illegalNumber {α : Type} (text : Bytes) : Session α := fail ("Illegal number: ".toList ++ text)

/-- A text as a count. -/
def countOf (text : Bytes) : Session Nat :=
  match count? text with
  | some n => return n
  | none => illegalNumber text

/-- The reason of the system in the words of the shell. -/
def reasonText (missing : String) : OsError → String
  | .notFound | .notDirectory => missing
  | .permissionDenied => "Permission denied"
  | .isDirectory => "Is a directory"
  | .nameTooLong => "File name too long"
  | .tooManyLinks => "Too many levels of symbolic links"
  | .badFormat => "Exec format error"
  | .badDescriptor => "Bad file descriptor"
  | .noSpace => "No space left on device"
  | .noDevice => "No such device or address"
  | .tooManyWords => "Argument list too long"
  | .busy => "Text file busy"
  | e => e.text

/-! ### Options -/

/-- The options in the order in which the script can read them, with their names. Two
have no letter, and a digit in its place. -/
def optionLetters : List (Char × String) :=
  [('1', "debug"), ('0', "nolog"), ('p', "privileged"), ('u', "nounset"), ('b', "notify"), ('a', "allexport"), ('C', "noclobber"),
    ('E', "emacs"), ('V', "vi"), ('v', "verbose"), ('x', "xtrace"), ('s', "stdin"),
    ('n', "noexec"), ('m', "monitor"), ('i', "interactive"), ('I', "ignoreeof"), ('f', "noglob"),
    ('e', "errexit")]

def State.hasOption (s : State) (c : Char) : Bool := s.options.contains c

/-- Turns an option on or off. -/
def setOption (on : Bool) (c : Char) : Session Unit :=
  if c == 'm' || c == 'i' then return
  else if optionLetters.any fun o => o.1 == c then
    modify fun s =>
      let others := s.options.filter fun d => d != c && !(on && (c == 'E' && d == 'V' || c == 'V' && d == 'E'))
      { s with options := if on then c :: others else others }
  else failText ("Illegal option -" ++ String.singleton c)

/-! ### Variables -/

/-- The separators of fields. -/
def defaultSeparators : Bytes := [' ', '\t', '\n']

def State.valueOf? (s : State) (name : Bytes) : Option Bytes :=
  (s.store.lookup name).bind Variable.value

def State.separators (s : State) : Bytes := (s.valueOf? "IFS".toList).getD defaultSeparators

def searchName : Bytes := "PATH".toList

/-- Puts a variable in place of the one of its name. A new search path makes the shell
forget the programs it has found. -/
def State.putVariable (s : State) (name : Bytes) (v : Option Variable) : State :=
  let rec replace : List (Bytes × Variable) → List (Bytes × Variable)
    | [] => match v with
      | some v => [(name, v)]
      | none => []
    | (n, w) :: vs =>
      if n = name then
        match v with
        | some v => (n, v) :: vs
        | none => vs
      else (n, w) :: replace vs
  { s with store := replace s.store, found := if name = searchName then [] else s.found }

/-- Assigns a variable. What stands behind an equals sign in its name does not count. -/
def assign (name value : Bytes) : Session Unit := do
  let name := name.takeWhile (· != '=')
  if !isName name then fail (name ++ ": bad variable name".toList)
  let s ← get
  let old := (s.store.lookup name).getD ⟨none, false, false⟩
  if old.readOnly then fail (name ++ ": is read only".toList)
  set (s.putVariable name (some { old with
    value := some value, exported := old.exported || s.hasOption 'a' }))
  if name = "OPTIND".toList then
    modify fun s => { s with optionWord := ((count? value).getD 1).max 1, optionPlace := none }

/-- Removes a variable. What stands behind an equals sign in its name does not count. -/
def unassign (name : Bytes) : Session Unit := do
  let name := name.takeWhile (· != '=')
  if !isName name then fail (name ++ ": bad variable name".toList)
  let s ← get
  match s.store.lookup name with
  | none => return
  | some v =>
    if v.readOnly then fail (name ++ ": is read only".toList)
    set (s.putVariable name none)

/-- Marks a variable as exported or as read-only. -/
def markVariable (name : Bytes) (readOnly : Bool) : Session Unit := do
  if !isName name then fail (name ++ ": bad variable name".toList)
  modify fun s =>
    let v := (s.store.lookup name).getD ⟨none, false, false⟩
    s.putVariable name (some (if readOnly then { v with readOnly := true } else { v with exported := true }))

/-- Keeps a variable as it is, to be put back. -/
def keepVariable (name : Bytes) : Session Unit := modify fun s =>
  match s.locals with
  | [] => s
  | kept :: outer => { s with locals := ((name, s.store.lookup name) :: kept) :: outer }

/-- Runs a step and puts back the variables that were kept in it. -/
def withLocals {α : Type} (act : Session α) : Session α := do
  modify fun s => { s with locals := [] :: s.locals }
  finally' act (modify fun s =>
    match s.locals with
    | [] => s
    | kept :: outer =>
      { kept.foldl (fun s v => s.putVariable v.1 v.2) s with locals := outer })

/-- The environment of a program. -/
def State.environment (s : State) : List (Bytes × Bytes) :=
  s.store.filterMap fun (name, v) =>
    if v.exported then v.value.map (name, ·) else none

/-! ### Paths -/

def toPath (text : Bytes) : Path := ⟨toText text⟩

/-- The absolute path of a place. -/
def textOfPlace (place : FileTree.Place) : String := "/" ++ String.intercalate "/" place

def pathOfPlace (place : FileTree.Place) : Bytes := ofText (textOfPlace place)

/-- What is open as an entry of the file system. -/
def Stream.entry : Stream → FileTree
  | .device .null => .link "/dev/null"
  | .device .full => .link "/dev/full"
  | .device .terminal => .link "/dev/tty"
  | .pipe number => .pipe number
  | .file place _ _ => .link (textOfPlace place)
  | .directory place => .link (textOfPlace place)

/-- The directory in which the system shows the processes. -/
def processes : String := "proc"

/-- What the system shows of the process that runs. -/
def State.shown (s : State) : FileTree :=
  let opened := s.descriptors.filterMap fun (d, n) =>
    (s.channels[n]?).map fun c => (toString d, c.stream.entry)
  .directory [("cwd", .link (textOfPlace s.directory)), ("fd", .directory opened), ("root", .link "/")]

/-- The file system with the process that runs in it. -/
def State.view (s : State) : FileTree :=
  let own := toString s.process
  s.files.put (.directory [("self", .link own), (own, s.shown)]) [processes]

/-- The entry at a path, and its place. -/
def State.find (s : State) (aim : FileTree.Aim) (path : Bytes) :
    Except OsError (FileTree.Place × FileTree) := s.view.find s.directory aim (toPath path)

/-! ### Signals -/

/-- The names of the signals, by number. -/
def signalNames : List String :=
  ["EXIT", "HUP", "INT", "QUIT", "ILL", "TRAP", "ABRT", "BUS", "FPE", "KILL", "USR1", "SEGV",
    "USR2", "PIPE", "ALRM", "TERM", "16", "CHLD", "CONT", "STOP", "TSTP", "TTIN", "TTOU",
    "URG", "XCPU", "XFSZ", "VTALRM", "PROF", "WINCH", "IO", "PWR", "SYS", "32", "33", "RTMIN"] ++
    (List.range 15).map (fun n => "RTMIN+" ++ toString (n + 1)) ++
    (List.range 14).map (fun n => "RTMAX-" ++ toString (14 - n)) ++ ["RTMAX"]

/-- What signals are called when they end a program. -/
def signalTexts : List String :=
  ["Hangup", "Interrupt", "Quit", "Illegal instruction", "Trace/breakpoint trap", "Aborted",
    "Bus error", "Floating point exception", "Killed", "User defined signal 1",
    "Segmentation fault", "User defined signal 2", "Broken pipe", "Alarm clock", "Terminated",
    "Stack fault", "Child exited", "Continued", "Stopped (signal)", "Stopped",
    "Stopped (tty input)", "Stopped (tty output)", "Urgent I/O condition",
    "CPU time limit exceeded", "File size limit exceeded", "Virtual timer expired",
    "Profiling timer expired", "Window changed", "I/O possible", "Power failure",
    "Bad system call"]

def signalText (signal : Nat) : String :=
  if signal ≤ signalTexts.length then (signalTexts[signal - 1]?).getD ""
  else "Real-time signal " ++ toString (signal - 34)

/-- The signals whose victims are passed over in silence. -/
def silentSignals : List Nat := [2, pipeSignal]

/-- Says by which signal a process ended. -/
def reportEnd : ProcessStatus → Session Unit
  | .exited _ => return
  | .killed n _ => if silentSignals.contains n then return else putError (signalText n ++ "\n").toList

/-- The status that a shell has for a process. -/
def statusOf : ProcessStatus → Nat
  | .exited n => n
  | .killed n _ => 128 + n

/-- The signals that a process outlives. -/
def harmlessSignals : List Nat := [0, 17, 18, 19, 20, 21, 22, 23, 28]

/-- The number of a signal, by number or name. -/
def signal? (text : Bytes) (least : Nat) : Option Nat :=
  if !text.isEmpty && text.all Char.isDigit then
    let n := ofDigits 10 text
    if n ≤ 64 then some n else none
  else
    let upper := text.map Char.toUpper
    match (signalNames.drop least).findIdx? fun n => n.toList == upper with
    | some n => some (n + least)
    | none => none

end KeyAudit.Sandbox.Shell
