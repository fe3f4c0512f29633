/-
Running commands.

`run` evaluates a command. It calls itself only for what stands inside of a command,
so its fuel bounds how deep runs nest; the functions before it take it as an argument
(`Runner`). A subshell runs at once and to its end (`inSubshell`), and so do the
stages of a pipeline, one after the other, and commands in the background.

Like all modules of the shell, this one serves to try commands out on a system held in
memory; no module of the audit imports it.
-/

import KeyAudit.Sandbox.Executable
import KeyAudit.Sandbox.Shell.Builtin
import KeyAudit.Sandbox.Shell.Expansion

namespace KeyAudit.Sandbox.Shell

/-- Runs a command; true says that its status is looked at. -/
abbrev Runner := Bool → Command → Session Unit

def setStatus (n : Nat) : Session Unit := modify fun s => { s with status := n }

/-! ### Scripts and actions -/

/-- Where the text of a script is. -/
inductive Origin where
  | file
  | word
  deriving DecidableEq, Repr

/-- What stands behind the first line of a text. -/
def nextLines (text : Bytes) : Bytes := (text.dropWhile (· != '\n')).drop 1

/-- The lines of a script that are not begun. -/
def Source.linesAhead (s : Source) : Bytes :=
  if s.outer.isEmpty then s.text else nextLines s.unread

/-- What stands in front of a part at the end of a text. -/
def partBefore (text rest : Bytes) : Bytes := text.take (text.length - rest.length)

/-- Shows the lines that have been read of a file, if the script asks for it. -/
def showLines (origin : Origin) (ahead unread : Bytes) (failed : Bool) : Session Unit := do
  if origin = .file && (← get).hasOption 'v' then
    let passed := partBefore ahead unread
    let whole := if passed.isEmpty then !failed else passed.getLast? == some '\n'
    putError (if whole then passed else partBefore ahead (nextLines unread))

/-- Runs a text line by line and gives the status of its last command. -/
def runText (run : Runner) (origin : Origin) (tested : Bool) (text : Bytes) : Session Nat := do
  let before := (← get).readLine
  finally' (iterate (fun (source, status) => do
    let s ← get
    match Reader.nextLine.run { source with aliases := s.aliases, documents := s.documents } with
    | .error complaint =>
      showLines origin source.linesAhead complaint.unread true
      modify fun s => { s with line := complaint.line }
      failText ("Syntax error: " ++ complaint.message)
    | .ok (line, next) =>
      showLines origin source.linesAhead next.unread false
      let source := next
      modify fun s => { s with documents := source.documents, readLine := source.line }
      match line with
      | .endOfScript => return .inr status
      | .blank => return .inl (source, status)
      | .command c =>
        run tested c
        let s ← get
        if s.skip = .none then return .inl (source, s.status) else return .inr s.status)
    (return 0) maxTurns (Source.ofText (text.filter (· != '\x00')) [] #[], 0))
    (modify fun s => { s with readLine := before })

/-- Ends the skipping that a `return` began. -/
def endReturn : Session Unit := modify fun s =>
  { s with skip := if s.skip = .function then .none else s.skip }

/-- Runs an action. The status is as before, unless the action leaves the shell. -/
def runAction (run : Runner) (action : Bytes) : Session Unit := do
  let s ← get
  let before := s.leaving
  set { s with leaving := some (before.getD s.status) }
  discard (runText run .word false action)
  modify fun t => { t with status := before.getD s.status, leaving := before }

/-- Takes the signals that have come for the script. -/
def takeSignals (run : Runner) : Session Unit := do
  let s ← get
  if s.signals.isEmpty || s.isSubshell || s.skip != .none then return
  else
    let own := (s.signals.filter fun x => x.1 = s.process).map (·.2)
    set { s with signals := s.signals.filter fun x => x.1 != s.process }
    (List.range 65).forM fun n => do
      if own.contains n then
        match (← get).traps.lookup n with
        | some [] => return
        | some action => runAction run action
        | none => if harmlessSignals.contains n then return else throw (.killed n)

/-- Runs the action at the end of a shell, and gives how the shell ends. -/
def endShell (run : Runner) (stop : Option Stop) : Session ProcessStatus := do
  match stop with
  | some (.killed n) => return .killed n false
  | some .suspended => throw .suspended
  | _ =>
    let s ← get
    match s.traps.lookup 0 with
    | none | some [] => return .exited s.status
    | some action =>
      set { s with
        traps := s.traps.filter fun t => t.1 != 0
        skip := .none, leaving := some s.status, command := none }
      try
        discard (runText run .word false action)
        return .exited s.status
      catch stop =>
        match stop with
        | .killed n => return .killed n false
        | .suspended => throw .suspended
        | _ => return .exited (← get).status

/-! ### Subshells -/

/-- What a copy of the shell knows as it begins. -/
def State.copy (s : State) : Own :=
  { s.toOwn with
    isSubshell := true
    traps := s.traps.filter fun t => t.2.isEmpty
    output := [], jobs := [] }

def childSignal : Nat := 17

/-- Lets the script know that a process has ended, if it asks for that. -/
def childEnded : Session Unit := modify fun s =>
  if !s.isSubshell && (s.traps.lookup childSignal).isSome then
    { s with signals := s.signals ++ [(s.process, childSignal)] }
  else s

/-- The world after a shell without what only that shell had open. -/
def World.without (after : World) (channels pipes : Nat) : World :=
  if after.suspended.isEmpty then
    { after with channels := after.channels.shrink channels, pipes := after.pipes.shrink pipes }
  else after

/-- Runs a step in a shell that knows this, and gives how the shell ended. -/
def inShell (run : Runner) (own : Own) (act : Session Unit) : Session ProcessStatus := do
  let before ← get
  let (channels, pipes) := (before.channels.size, before.pipes.size)
  set ({ toOwn := own, toWorld := before.toWorld } : State)
  let stop ← try
      act
      pure none
    catch stop => pure (some stop)
  let ended ← endShell run stop
  let after ← get
  let world := after.toWorld.without channels pipes
  set { before with toWorld := world }
  if !before.isSubshell then
    let fatal := after.signals.find? fun x =>
      x.1 = before.process && (before.traps.lookup x.2).isNone && !harmlessSignals.contains x.2
    match fatal with
    | some (_, n) => throw (.killed n)
    | none => childEnded
  return ended

/-- Has a process that the shell waits for its place among the jobs: a job there that has
been waited for is forgotten. -/
def takePlace : Session Unit := modify fun s => { s with jobs := (placeIn s.jobs).2 }

/-- Runs a step in a copy of the shell and gives its status. -/
def inSubshell (run : Runner) (act : Session Unit) : Session Nat := do
  takePlace
  let ended ← inShell run (← get).copy act
  reportEnd ended
  return statusOf ended

/-- The two ends of a pipe. -/
structure Ends where
  number : Nat
  /-- The channels of the ends. -/
  input : Nat
  output : Nat

/-- Opens a pipe. -/
def openPipe (pipe : Pipe) : Session Ends := do
  let number := (← get).pipes.size
  modify fun s => { s with pipes := s.pipes.push pipe }
  let input ← openChannel ⟨.pipe number, true, false⟩
  let output ← openChannel ⟨.pipe number, false, true⟩
  return ⟨number, input, output⟩

/-- What is in a pipe. -/
def pipeContent (number : Nat) : Session Bytes := do
  return ofBytes ((((← get).pipes[number]?).map fun p => p.content.bytes).getD [])

/-- What a command writes, without the newlines at its end. -/
def capture (run : Runner) (body : Option Command) : Session Bytes := do
  match body with
  | none => return []
  | some c =>
    let pipe ← openPipe (.holding .empty)
    let status ← inSubshell run do
      setDescriptor 1 (some pipe.output)
      run false c
    modify fun s => { s with outputStatus := status }
    let text := (← pipeContent pipe.number).filter (· != '\x00')
    return (text.reverse.dropWhile (· == '\n')).reverse

/-! ### Redirections -/

/-- Complains about a word that is no descriptor, as if it stood where the script is read. -/
def badDescriptor {α : Type} : Session α := do
  modify fun s => { s with line := s.readLine }
  failText "Syntax error: Bad fd number"

/-- A redirection with its words expanded. -/
def targetOf (run : Runner) : Redirection → Session (Nat × Target)
  | .file d opening w => return (d, .file opening (← expandText (capture run) .plain w))
  | .copy d w => do
    match ← expandText (capture run) .plain w with
    | ['-'] => return (d, .copy none)
    | [c] => if c.isDigit then return (d, .copy (some (c.toNat - '0'.toNat))) else badDescriptor
    | _ => badDescriptor
  | .here d expanded n => return (d, .document expanded n)

/-- Opens what is at a place. -/
def openAt (opening : Opening) (place : FileTree.Place) : Session (Except OsError Nat) := do
  let s ← get
  let reads := opening matches .read | .readWrite
  let writes := !opening matches .read
  let channel (stream : Stream) : Session (Except OsError Nat) :=
    Except.ok <$> openChannel ⟨stream, reads, writes⟩
  match s.view.at? place with
  | some (.file content executable) =>
    match opening with
    | .read | .readWrite => channel (.file place 0 false)
    | .append => channel (.file place content.length true)
    | _ =>
      set { s with files := s.files.put (.file .empty executable) place }
      channel (.file place 0 false)
  | some (.device .terminal) => return .error .noDevice
  | some (.device kind) => channel (.device kind)
  | some (.pipe number) => channel (.pipe number)
  | some (.tool _) => if writes then return .error .busy else channel (.device .null)
  | _ => if writes then return .error .isDirectory else channel (.directory place)

/-- Opens the file at a path, and makes it where that is asked for. -/
def openPath (opening : Opening) (path : Bytes) : Session (Except OsError Nat) := do
  let s ← get
  if opening = .read then
    match s.find .content path with
    | .error e => return .error e
    | .ok (place, _) => openAt opening place
  else
    let guarded := opening = .replace && s.hasOption 'C'
    let found := s.find .content path
    match guarded, found with
    | true, .ok (_, .file _ _) | true, .ok (_, .tool _) => return .error (.other "File exists")
    | _, _ =>
      match s.view.site s.directory .creation (toPath path) with
      | .error e => return .error e
      | .ok (.present place) => openAt opening place
      | .ok (.absent place name) =>
        if place.head? = some processes then return .error .notFound
        let place := place ++ [name]
        set { s with files := s.files.put (.file .empty false) place }
        openAt opening place

/-- Lets a descriptor lead to its target. A descriptor that is kept elsewhere meanwhile
leads nowhere while it is copied to. -/
def redirect (run : Runner) (kept : Bool) (d : Nat) : Target → Session Unit
  | .file opening path => do
    match ← openPath opening path with
    | .ok channel => setDescriptor d (some channel)
    | .error e =>
      let (verb, missing) := match opening with
        | .read => ("open", "No such file")
        | _ => ("create", "Directory nonexistent")
      fail (("cannot " ++ verb ++ " ").toList ++ path ++ (": " ++ reasonText missing e).toList)
  | .copy none => setDescriptor d none
  | .copy (some e) => do
    if e = d then return
    else
      match (← get).descriptors.lookup e with
      | some channel => setDescriptor d (some channel)
      | none =>
        if kept then setDescriptor d none
        fail (ofInt e ++ ": Bad file descriptor".toList)
  | .document expanded number => do
    let word := ((← get).documents[number]?).getD []
    let text ← if expanded then expandText (capture run) .document word
      else pure (textOf (word.map fun
        | .text _ cs => .kept true cs
        | _ => .kept true []))
    setDescriptor d (some (← openPipe (.holding (.ofBytes (toBytes text)))).input)

/-- Puts descriptors back. -/
def restore (old : List (Nat × Option Nat)) : Session Unit :=
  old.forM fun (d, channel) => setDescriptor d channel

/-- Where descriptors lead now. -/
def current (targets : List (Nat × Target)) : Session (List (Nat × Option Nat)) := do
  let s ← get
  return targets.map fun t => (t.1, s.descriptors.lookup t.1)

/-- Redirects descriptors; false if one could not be, of which it has been
complained. -/
def redirectAll (run : Runner) (targets : List (Nat × Target)) : Session Bool := do
  try
    targets.zipIdx.forM fun ((d, t), i) => redirect run ((targets.take i).all fun u => u.1 != d) d t
    return true
  catch
    | .failure => return false
    | stop => throw stop

/-! ### Programs -/

/-- The value of a variable of the environment of a new shell. -/
def importVariables (environment : List (Bytes × Bytes)) : List (Bytes × Variable) :=
  environment.filterMap fun (name, value) =>
    if isName name && name != "IFS".toList && name != "OPTIND".toList && name != "PPID".toList then
      some (name, ⟨some value, true, false⟩)
    else none

/-- A shell before it has read any word that it is told. -/
def State.start (world : World) (process parent : Nat) (name : Bytes)
    (environment : List (Bytes × Bytes)) (descriptors : List (Nat × Nat))
    (directory : FileTree.Place) (mask : Nat) (limits : List (Char × Limit)) : State :=
  let physical := pathOfPlace directory
  let path := match environment.lookup "PWD".toList with
    | some p =>
      if p.head? == some '/' &&
          (world.files.find directory .content (toPath p)).toOption.any (fun e => e.1 == directory) then p
      else physical
    | none => physical
  let own (name value : String) : Bytes × Variable := (name.toList, ⟨some value.toList, false, false⟩)
  let imported := importVariables environment
  let preset := [own "IFS" " \t\n", own "OPTIND" "1", own "PPID" (toString parent),
    own "PS1" "# ", own "PS2" "> ", own "PS4" "+ "].filter fun v => (imported.lookup v.1).isNone
  let s : State := { world with
    process := process, parent := parent, isSubshell := false, name := name, arguments := []
    store := preset ++ imported, functions := [], aliases := [], documents := #[], options := []
    status := 0, outputStatus := 0, line := 0, readLine := 0, command := none, traps := []
    descriptors := descriptors, directory := directory, path := path, output := [], loops := 0, calls := 0
    skip := .none, locals := [], optionWord := 1, optionPlace := none, mask := mask, limits := limits
    found := [], background := none, jobs := [], leaving := none }
  s.putVariable "PWD".toList (some ⟨some path, true, false⟩)

/-- The text of a script. What is read of a pipe is gone. -/
def scriptText (entry : FileTree) : Session Bytes := do
  match entry with
  | .file content _ => return ofBytes content.bytes
  | .pipe n =>
    let text ← pipeContent n
    modify fun s => { s with
      pipes := s.pipes.modify n fun p => { p with content := .empty } }
    return text
  | _ => return []

/-- Runs what a shell is told by its words: options, then a command or a script, and its
arguments. -/
def runWords (run : Runner) (words : List Bytes) : Session Unit := do
  let words := (← changeOptions true words).getD []
  let s ← get
  if s.hasOption takesCommand then
    match words with
    | [] => failText "-c requires an argument"
    | text :: rest =>
      set { s with name := (rest.head?).getD s.name, arguments := rest.drop 1 }
      discard (runText run .word false text)
  else if s.hasOption 's' || words.isEmpty then
    set { s with arguments := words }
    setOption true 's'
    let text := (← readable 0).getD []
    passRead 0 text.length
    discard (runText run .file false (ofBytes text))
  else
    let script := words.head?.getD []
    match s.find .content script with
    | .error e => fail ("cannot open ".toList ++ script ++ (": " ++ reasonText "No such file" e).toList)
    | .ok (_, entry) =>
      set { s with name := script, arguments := words.drop 1 }
      discard (runText run .file false (← scriptText entry))

/-- Runs a shell to its end, and gives how it ended. -/
def runShell (run : Runner) (words : List Bytes) : Session ProcessStatus := do
  let stop ← try
      runWords run words
      pure none
    catch stop => pure (some stop)
  endShell run stop

/-- Runs a tool in a process of its own, and gives how that ended. -/
def runLaunch (run : Runner) (environment : List (Bytes × Bytes)) (l : Launch) :
    Session ProcessStatus := do
  match l.tool with
  | .succeed => return .exited 0
  | .fail => return .exited 1
  | .echo =>
    let (words, last) : List Bytes × Bytes := match l.words.drop 1 with
      | ['-', 'n'] :: ws => (ws, [])
      | ws => (ws, ['\n'])
    discard (writeTo 1 ([' '].intercalate words ++ last))
    return .exited 0
  | .shell =>
    let s ← get
    let process := s.nextProcess
    let world := { s.toWorld with nextProcess := process + 1 }
    let start := State.start world process s.process (l.words.head?.getD []) environment s.descriptors
      s.directory s.mask s.limits
    let (ended, after) := (runShell run (l.words.drop 1)).run.run start
    set { s with toWorld := after.toWorld.without s.channels.size s.pipes.size }
    match ended with
    | .ok status => return status
    | .error stop => throw stop

/-- The places where a program can be: the path itself if it has a separator, otherwise
the name below each directory of the search path. -/
def State.candidates (s : State) (name : Bytes) : List Bytes :=
  if name.contains '/' then [name]
  else (listParts ((s.valueOf? "PATH".toList).getD [])).map (belowPart · name)

/-- The regular file that a name stands for. -/
def State.findProgram (s : State) (name : Bytes) : Except OsError Bytes :=
  let rec go (refusal : OsError) : List Bytes → Except OsError Bytes
    | [] => .error refusal
    | path :: paths =>
      match s.find .content path with
      | .ok (_, .file _ _) | .ok (_, .tool _) => .ok path
      | .ok _ => go .permissionDenied paths
      | .error .notFound | .error .notDirectory => go refusal paths
      | .error e => go e paths
  if name.isEmpty then .error .notFound else go .notFound (s.candidates name)

/-- What is run for a name, from the first place where it can be run. A file that is no
program is a script for the shell. -/
def State.launch (s : State) (words : List Bytes) : Except OsError Launch :=
  let name := words.head?.getD []
  let attempt (path : Bytes) : Except OsError Launch :=
    match s.files.launch s.directory s.environment path words with
    | .error .badFormat => .ok ⟨.shell, "/bin/sh".toList :: path :: words.drop 1⟩
    | r => r
  let rec go (refusal : OsError) : List Bytes → Except OsError Launch
    | [] => .error refusal
    | path :: paths =>
      match attempt path with
      | .ok l => .ok l
      | .error .notFound | .error .notDirectory => go refusal paths
      | .error e => go e paths
  if name.contains '/' then attempt name else go .notFound (s.candidates name)

/-- The status of a shell that could not run a program. -/
def refusalStatus : OsError → Nat
  | .notFound | .notDirectory | .nameTooLong | .tooManyLinks => 127
  | _ => 126

/-- Complains about a program that cannot be run, and gives the status. -/
def refuse (name : Bytes) (e : OsError) : Session Nat := do
  complain (name ++ (": " ++ reasonText "not found" e).toList)
  return refusalStatus e

/-- Remembers where a program was found. -/
def remember (name path : Bytes) : Session Unit := modify fun s =>
  if s.found.any fun f => f.name == name then
    { s with found := s.found.map fun f => if f.name = name then ⟨name, path, false⟩ else f }
  else { s with found := s.found ++ [⟨name, path, false⟩] }

/-- Looks a program up that is called by this name. -/
def lookUp (name : Bytes) : Session (Except OsError Bytes) := do
  let s ← get
  match s.found.find? fun f => f.name == name && !f.isStale with
  | some f => return .ok f.path
  | none =>
    match s.findProgram name with
    | .ok path =>
      remember name path
      return .ok path
    | .error e => return .error e

/-- Runs a program. A name without separators has to be a file of the search path. -/
def runProgram (run : Runner) (words : List Bytes) : Session Nat := do
  let name := words.head?.getD []
  let found ← if name.contains '/' then pure (.ok name) else lookUp name
  match found with
  | .error e =>
    complain (name ++ (": " ++ reasonText "not found" e).toList)
    return 127
  | .ok _ =>
    let s ← get
    match s.launch words with
    | .error e => refuse name e
    | .ok l =>
      takePlace
      let ended ← runLaunch run s.environment l
      reportEnd ended
      childEnded
      return statusOf ended

/-! ### Processes in the background -/

/-- Runs a process that was started in the background, as long as there is time for it.
Until it has ended, it counts as not begun. -/
def runJob (run : Runner) (time : Option Nat) (job : Suspended) : Session Unit := do
  let before ← get
  let bounded := before.time.isNone
  if bounded then set { before with time := time }
  try
    let ended ← inShell run job.shell do
      job.targets.forM fun (d, t) => redirect run false d t
      run false job.body
    modify fun s => { s with
      ended := (job.process, ended) :: s.ended
      time := if bounded then none else s.time }
  catch stop =>
    if stop = .suspended && bounded then
      set { before with suspended := before.suspended ++ [job] }
    else throw stop

/-- How many commands a process in the background runs before the shell goes on. -/
def firstTime : Nat := 100000

/-- How many it runs at most when nobody waits for it any more. -/
def lastTime : Nat := 10000000

/-- Starts a process in the background. -/
def startJob (run : Runner) (targets : List (Nat × Target)) (body : Command) : Session Unit := do
  let channel ← openChannel ⟨.device .null, true, false⟩
  let s ← get
  let process := s.nextProcess
  let (number, jobs) := placeIn s.jobs
  let own := s.copy
  let shell := { own with
    descriptors := (0, channel) :: own.descriptors.filter fun d => d.1 != 0 }
  set { s with
    nextProcess := process + 1
    background := some process
    jobs := ⟨number, process, false⟩ :: jobs }
  runJob run (some firstTime) ⟨process, shell, targets, body⟩

/-- Runs a process in the background to its end, if it has not ended. -/
def finishJob (run : Runner) (process : Nat) : Session Unit := do
  let s ← get
  match s.suspended.find? fun j => j.process == process with
  | none => return
  | some job =>
    set { s with suspended := s.suspended.filter fun j => j.process != process }
    runJob run none job

/-- Runs what is left in the background. -/
def finishJobs (run : Runner) (jobs : List Suspended) : Session Unit := do
  modify fun s => { s with suspended := [] }
  jobs.forM (runJob run (some lastTime))

/-- Waits for the processes in the background: for those that are named, or for all. -/
def waitFor (run : Runner) (words : List Bytes) : Session Nat := do
  let (_, words) ← takeOptions [] words
  let wait (named : Bool) (job : Job) : Session Nat := do
    finishJob run job.process
    let ended := ((← get).ended.lookup job.process).getD (.exited 0)
    if named && !job.isWaited then reportEnd ended
    modify fun s => { s with
      jobs := s.jobs.map fun j => if j.number = job.number then { j with isWaited := true } else j }
    return statusOf ended
  if words.isEmpty then
    (← get).jobs.reverse.forM fun job => discard (wait false job)
    return 0
  else
    words.foldlM (fun status w => do
      match w with
      | '%' :: _ => wait true (← jobOf w)
      | _ =>
        let process ← countOf w
        match (← get).jobs.find? fun j => j.process == process with
        | some job => wait true job
        | none => return status) 127

/-! ### Built-in commands that run others -/

/-- Runs a built-in command: its output appears at its end. -/
def runBuiltin (name : Bytes) (act : Session Nat) : Session Nat := do
  let before := (← get).command
  modify fun s => { s with command := some name, output := [] }
  finally' (do
      let status ← act
      if ← flush then return status
      else
        complain (name ++ ": I/O error".toList)
        return if status % 2 = 0 then status + 1 else status)
    (modify fun s => { s with command := before, output := [] })

/-- Runs a file in this shell. -/
def runFile (run : Runner) (words : List Bytes) : Session Nat := do
  let (_, words) ← takeOptions [] words
  match words with
  | [] => return 0
  | w :: _ =>
    let s ← get
    let path ← if w.contains '/' then pure w
      else
        match s.findProgram w with
        | .ok path => pure path
        | .error _ => fail (w ++ ": not found".toList)
    match s.find .content path with
    | .ok (_, entry) =>
      modify fun s => { s with command := some path }
      let status ← runText run .file false (← scriptText entry)
      endReturn
      return status
    | .error e => fail ("cannot open ".toList ++ path ++ (": " ++ reasonText "No such file" e).toList)

/-- Says what a name stands for; a wordy answer names its kind too. -/
def describe (wordy : Bool) (name : Bytes) : Session Nat := do
  let s ← get
  let say (kind : String) (short : Bytes) : Session Nat := do
    put (if wordy then name ++ kind.toList else short)
    put ['\n']
    return 0
  if keywords.contains name then say " is a shell keyword" name
  else
    match s.aliases.lookup name with
    | some value =>
      if wordy then
        put (name ++ " is an alias for ".toList ++ value ++ ['\n'])
        return 0
      else
        putText "alias "
        showAlias (name, value)
        return 0
    | none =>
      if (s.functions.lookup name).isSome && !specialBuiltins.contains name then
        say " is a shell function" name
      else if isBuiltin (toText name) then
        say (if specialBuiltins.contains name then " is a special shell builtin" else " is a shell builtin") name
      else
        let known := s.found.find? fun f => f.name == name
        match ← match known with
          | some f => pure (.ok f.path)
          | none => if name.contains '/' then pure (s.findProgram name) else lookUp name with
        | .ok path =>
          say ((if known.isSome then " is a tracked alias for " else " is ") ++ toText path) path
        | .error _ =>
          if wordy then put (name ++ ": not found\n".toList)
          return 127

/-- Describes each of the names. -/
def describeAll (wordy : Bool) (names : List Bytes) : Session Nat :=
  names.foldlM (fun status n => do return status ||| (← describe wordy n)) 0

/-- The place of a name in the listing of programs. -/
def programPlace (name : Bytes) : Nat := placeOf name 31

/-- Looks programs up that will be run, or lists those that have been found. -/
def hashPrograms (words : List Bytes) : Session Nat := do
  let (found, names) ← takeOptions [('r', false)] words
  if !found.isEmpty then
    modify fun s => { s with found := [] }
    return 0
  else if names.isEmpty then
    let listed := (← get).found.mergeSort fun a b => programPlace a.name ≤ programPlace b.name
    listed.forM fun f => put (f.path ++ (if f.isStale then ['*', '\n'] else ['\n']))
    return 0
  else
    names.foldlM (fun status n => do
      modify fun s => { s with found := s.found.filter fun f => f.name != n }
      let s ← get
      if isBuiltin (toText n) || (s.functions.lookup n).isSome || n.contains '/' then return status
      else
        match ← lookUp n with
        | .ok _ => return status
        | .error e =>
          complain (n ++ (": " ++ reasonText "not found" e).toList)
          return 1) 0

/-- Leaves the shell for a program. Without one, the redirections stay. -/
def replaceBy (run : Runner) (words : List Bytes) : Session Nat := do
  let (_, words) ← takeOptions [] words
  match words with
  | [] => return 0
  | name :: _ =>
    let s ← get
    match s.launch words with
    | .error e =>
      let status := refusalStatus e
      failAs status .leave (name ++ (": " ++ reasonText "not found" e).toList)
    | .ok l =>
      match ← runLaunch run s.environment l with
      | .exited status =>
        modify fun s => { s with status := status, traps := [] }
        throw .leave
      | .killed n _ => throw (.killed n)

/-- A built-in command. -/
def builtin? (run : Runner) (tested : Bool) (name : String) : Option (List Bytes → Session Nat) :=
  match name with
  | "eval" => some fun ws => runText run .word tested ([' '].intercalate ws)
  | "." => some (runFile run)
  | "exec" => some (replaceBy run)
  | "type" => some (describeAll true)
  | "hash" => some hashPrograms
  | "wait" => some (waitFor run)
  | "command" => some fun ws => do
    let (found, names) ← takeOptions [('p', false), ('v', false), ('V', false)] ws
    match names with
    | [] => return 0
    | n :: _ => describe (found.any fun o => o.1 == 'V') n
  | _ => plainBuiltin? name

/-! ### Simple commands -/

/-- What a simple command runs. -/
inductive Callee where
  | nothing
  | builtin (special : Bool) (act : List Bytes → Session Nat)
  | function (body : Command)
  | program

/-- What a name stands for as a command. -/
def calleeOf (run : Runner) (tested functions : Bool) (name : Bytes) : Session Callee := do
  let s ← get
  let special := specialBuiltins.contains name
  match if functions && !special then s.functions.lookup name else none with
  | some f => return .function f
  | none =>
    match builtin? run tested (toText name) with
    | some act => return .builtin special act
    | none => return .program

/-- How many functions run inside of one another at most. -/
def maxCalls : Nat := 1000

/-- Calls a function. A call that is refused counts as running from then on. -/
def callFunction (run : Runner) (tested : Bool) (body : Command) (arguments : List Bytes) :
    Session Nat := do
  modify fun s => { s with calls := s.calls + 1 }
  let before ← get
  if maxCalls < before.calls then
    failText ("Maximum function recursion depth (" ++ toString maxCalls ++ ") reached")
  set { before with
    arguments := arguments, loops := 0, optionWord := 1, optionPlace := none }
  finally' (do
      run tested body
      endReturn
      return (← get).status)
    (modify fun s => { s with
      arguments := before.arguments, loops := before.loops, calls := s.calls - 1
      optionWord := before.optionWord, optionPlace := before.optionPlace })

/-- The words behind `command` that are run by it, unless it only describes them. -/
def behindCommand? : List Bytes → Option (List Bytes)
  | ['-', 'p'] :: ws => behindCommand? ws
  | ['-', '-'] :: ws => some ws
  | ('-' :: _ :: _) :: _ => none
  | ws => some ws

/-- Shows a command as it is run. -/
def trace (channel : Option Nat) (assigned words : List Bytes) : Session Unit := do
  let s ← get
  if s.hasOption 'x' then
    let mark := (s.valueOf? "PS4".toList).getD []
    let errors := s.descriptors.lookup 2
    setDescriptor 2 channel
    putError (mark ++ [' '].intercalate (assigned ++ words) ++ ['\n'])
    setDescriptor 2 errors

/-- Assigns a variable, for the command alone if it is one that runs apart. -/
def assignFor (apart exported : Bool) (name value : Bytes) : Session Unit := do
  if apart then keepVariable name
  assign name value
  if apart || exported then markVariable name false

/-- Expands the words of a command up to the first one that gives a field. -/
def firstFields (run : Runner) : List Word → Session (List Bytes × List Word)
  | [] => return ([], [])
  | w :: ws => do
    match ← expandFields (capture run) w with
    | [] => firstFields run ws
    | fields => return (fields, ws)

/-- Expands a word behind a command that assigns: a word that is an assignment is not
cut. -/
def expandAssigning (run : Runner) (w : Word) : Session (List Bytes) := do
  match assignment? w with
  | some (name, value) => return [name ++ '=' :: (← expandText (capture run) .assignment value)]
  | none => expandFields (capture run) w

def assigningCommands : List Bytes := ["export", "readonly", "local", "alias"].map String.toList

/-- What a simple command runs, with all of its words. A `command` in front takes the
special rank from a command, and leaves functions aside. -/
def resolve (run : Runner) (tested : Bool) (words : List Bytes) : Session (Callee × List Bytes × Bool) :=
  iterate (fun (words, special, plain) => do
    match words with
    | [] => return .inr (.nothing, [], special)
    | name :: rest =>
      if name = "command".toList then
        match behindCommand? rest with
        | some (w :: ws) => return .inl (w :: ws, false, true)
        | _ => return .inr (← calleeOf run tested false name, words, false)
      else return .inr (← calleeOf run tested (!plain) name, words, special))
    (return (.nothing, [], false)) maxTurns (words, true, false)

/-- Runs a simple command and gives its status. -/
def runSimple (run : Runner) (tested : Bool) (line : Nat) (assignments : List (Bytes × Word))
    (words : List Word) (redirections : List Redirection) : Session Nat := do
  modify fun s => { s with line := line, outputStatus := 0 }
  let (first, others) ← firstFields run words
  let assigning := first.head?.any assigningCommands.contains
  let more ← others.mapM fun w => if assigning then expandAssigning run w else expandFields (capture run) w
  let (callee, words, ranked) ← resolve run tested (first ++ more.flatten)
  let special := match callee with
    | .builtin special _ => special && ranked
    | _ => false
  let targets ← redirections.mapM (targetOf run)
  let old ← current targets
  let errors := (← get).descriptors.lookup 2
  let keeps := words.head? == some "exec".toList && special
  let apart := !first.isEmpty && !special
  let act : Session Nat := do
    if !(← redirectAll run targets) then
      setStatus 2
      if special then throw .failure
      return 2
    let assigned ← assignments.mapM fun (name, word) => do
      let value ← expandText (capture run) .assignment word
      assignFor apart (keeps && 1 < words.length) name value
      return name ++ '=' :: value
    if !(assigned.isEmpty && words.isEmpty) then trace errors assigned words
    match callee with
    | .nothing => return (← get).outputStatus
    | .builtin _ body =>
      try runBuiltin (words.head?.getD []) (body (words.drop 1))
      catch stop =>
        if stop = .failure && !special then return (← get).status else throw stop
    | .function f => callFunction run tested f (words.drop 1)
    | .program => runProgram run words
  let undo : Session Unit := if keeps then pure () else restore old
  if apart then finally' (withLocals act) undo else finally' act undo

/-! ### Compound commands -/

/-- Counts down a loop that is left, or a turn of it. True says that the loop ends. -/
def leavesLoop : Session Bool := do
  match (← get).skip with
  | .none => return false
  | .function => return true
  | .loops n =>
    modify fun s => { s with skip := if n ≤ 1 then .none else .loops (n - 1) }
    return true
  | .turn n =>
    if n ≤ 1 then
      modify fun s => { s with skip := .none }
      return false
    else
      modify fun s => { s with skip := .turn (n - 1) }
      return true

/-- Runs a step as a loop. -/
def asLoop {α : Type} (act : Session α) : Session α := do
  modify fun s => { s with loops := s.loops + 1 }
  finally' act (modify fun s => { s with loops := s.loops - 1 })

def runLoop (run : Runner) (tested succeeds : Bool) (test body : Command) : Session Nat :=
  asLoop (iterate (fun status => do
    run true test
    let s ← get
    if s.skip != .none then
      let status := if s.skip = .function then s.status else status
      if ← leavesLoop then return .inr status else return .inl status
    else if (s.status = 0) != succeeds then return .inr status
    else
      run tested body
      let status := (← get).status
      if ← leavesLoop then return .inr status else return .inl status) (return 0) maxTurns 0)

def runEach (run : Runner) (tested : Bool) (line : Nat) (name : Bytes) (words : List Word)
    (body : Command) : Session Nat := do
  modify fun s => { s with line := line }
  let values ← expandAll (capture run) words
  asLoop (iterate (fun (values, status) => do
    match values with
    | [] => return .inr status
    | v :: vs =>
      assign name v
      run tested body
      let status := (← get).status
      if ← leavesLoop then return .inr status else return .inl (vs, status)) (return 0) maxTurns (values, 0))

def runSelect (run : Runner) (tested : Bool) (line : Nat) (word : Word)
    (arms : List (List Word × Option Command)) : Session Nat := do
  modify fun s => { s with line := line }
  let text ← expandText (capture run) .plain word
  iterate (fun arms => do
    match arms with
    | [] => return .inr 0
    | ([], _) :: arms => return .inl arms
    | (p :: ps, body) :: arms =>
      let pattern ← expandPattern (capture run) p
      if !pattern.matchesAll text then return .inl ((ps, body) :: arms)
      else
        match body with
        | none => return .inr 0
        | some c =>
          run tested c
          return .inr (← get).status) (return 0) maxTurns arms

/-- How much a stage of a pipeline can write before the next one reads. -/
def firstRoom : Nat := 65536

/-- Looks up what a command runs, as the shell does before it makes a pipeline. -/
def lookUpFirst : Command → Session Unit
  | .simple _ _ ((.text false name :: []) :: _) _ => do
    let s ← get
    if isName name && !isBuiltin (toText name) && (s.functions.lookup name).isNone then
      discard (lookUp name)
  | _ => return

/-- Runs the stages of a pipeline, each with what the one before it wrote. A stage that
writes on and on is ended by that, unless the ones behind it read all that it wrote: then
they run once more, and there is more room. -/
def runStages (run : Runner) (tested : Bool) : Option Nat → List Command → Session Nat
  | _, [] => return 0
  | input, [c] => do
    lookUpFirst c
    inSubshell run do
      if input.isSome then setDescriptor 0 input
      run tested c
  | input, c :: cs => do
    lookUpFirst c
    let before ← get
    iterate (fun room => do
      set before
      let pipe ← openPipe ⟨.empty, some room, false⟩
      discard (inSubshell run do
        if input.isSome then setDescriptor 0 input
        setDescriptor 1 (some pipe.output)
        run tested c)
      let status ← runStages run tested (some pipe.input) cs
      let wasShort := ((← get).pipes[pipe.number]?).any fun p => p.isCut && p.content.length = 0
      if wasShort then return .inl (room * 16) else return .inr status) (return 0) 16 firstRoom

/-- Ends the shell if a command failed whose status is not looked at. -/
def checkExit (tested : Bool) (status : Nat) : Session Unit := do
  if status != 0 && !tested && (← get).hasOption 'e' then throw .leave

/-- Sets the status, and ends the shell if that is asked for. -/
def concludeWith (tested : Bool) (status : Nat) : Session Unit := do
  setStatus status
  checkExit tested status

/-- Runs commands one after the other. -/
def runSequence (run : Runner) (tested : Bool) : List Command → Session Unit
  | [] => return
  | c :: cs => do
    run tested c
    if (← get).skip = .none then runSequence run tested cs

/-- Counts the commands that are run. -/
def spendTime : Session Unit := do
  let s ← get
  match s.time with
  | none => return
  | some 0 => throw .suspended
  | some (n + 1) => set { s with time := some n }

/-- Runs a command. -/
def runWith (run : Runner) (tested : Bool) (command : Command) : Session Unit := do
  spendTime
  takeSignals run
  if (← get).hasOption 'n' then return
  match command with
  | .simple line assignments words redirections =>
    let status ← runSimple run tested line assignments words redirections
    setStatus status
    takeSignals run
    checkExit tested status
  | .sequence commands => runSequence run tested commands
  | .both a b =>
    run true a
    let s ← get
    if s.status = 0 && s.skip = .none then run tested b
  | .either a b =>
    run true a
    let s ← get
    if s.status != 0 && s.skip = .none then run tested b
  | .negation c =>
    run true c
    let s ← get
    if s.skip = .none then setStatus (if s.status = 0 then 1 else 0)
  | .choice test body otherwise =>
    run true test
    let s ← get
    if s.skip = .none then
      if s.status = 0 then run tested body
      else
        match otherwise with
        | some c => run tested c
        | none => setStatus 0
  | .loop succeeds test body => setStatus (← runLoop run tested succeeds test body)
  | .each line name words body => setStatus (← runEach run tested line name words body)
  | .select line word arms => setStatus (← runSelect run tested line word arms)
  | .define name body =>
    modify fun s => { s with
      functions := (name, body) :: s.functions.filter (fun f => f.1 != name)
      found := s.found.filter fun f => f.name != name
      status := 0 }
  | .pipeline false stages => concludeWith tested (← runStages run tested none stages)
  | .pipeline true stages =>
    startJob run [] (.pipeline false stages)
    setStatus 0
  | .redirected line body redirections =>
    modify fun s => { s with line := line }
    let targets ← redirections.mapM (targetOf run)
    let old ← current targets
    finally' (do
        if ← redirectAll run targets then run tested body else concludeWith tested 2)
      (restore old)
  | .subshell line body redirections =>
    modify fun s => { s with line := line }
    let targets ← redirections.mapM (targetOf run)
    let status ← inSubshell run do
      targets.forM fun (d, t) => redirect run false d t
      run tested body
    concludeWith tested status
  | .background line body redirections =>
    modify fun s => { s with line := line }
    startJob run (← redirections.mapM (targetOf run)) body
    setStatus 0
  takeSignals run

/-- The signal for a process that has no memory left for what it runs. -/
def overflowSignal : Nat := 11

/-- Runs a command. The fuel bounds how deep runs nest. -/
def run : Nat → Runner
  | 0, _, _ => throw (.killed overflowSignal)
  | n + 1, tested, command => runWith (run n) tested command

/-! ### A whole run -/

/-- The number of the process of a script, and of the one that started it. -/
def firstProcess : Nat := 4242
def outerProcess : Nat := 4200

/-- How deep runs nest at most. -/
def maxNesting : Nat := 50000

/-- The channels of a script's input, output and errors. -/
def standardChannels : Array Channel :=
  #[⟨.device .null, true, false⟩, ⟨.pipe 0, false, true⟩, ⟨.pipe 1, false, true⟩]

/-- Runs a tool to its end on files, and then all that is left in the background. -/
def runOn (files : FileTree) (directory : FileTree.Place) (environment : List (Bytes × Bytes))
    (l : Launch) : Finished × FileTree :=
  let pipe : Pipe := .holding .empty
  let world : World := ⟨files, standardChannels, #[pipe, pipe], [], firstProcess + 1, none, [], []⟩
  let descriptors := [(0, 0), (1, 1), (2, 2)]
  let start := State.start world firstProcess outerProcess (l.words.head?.getD []) environment
    descriptors directory 0o022 firstLimits
  let act : Session ProcessStatus :=
    if l.tool = .shell then runShell (run maxNesting) (l.words.drop 1)
    else runLaunch (run maxNesting) environment l
  let (ended, s) := act.run.run start
  let status : ProcessStatus := match ended with
    | .ok status => status
    | .error (.killed n) => .killed n false
    | .error _ => .exited 2
  let (_, s) := (finishJobs (run maxNesting) s.suspended).run.run s
  let written (n : Nat) : List UInt8 := ((s.pipes[n]?).map fun p => p.content.bytes).getD []
  (⟨status, written 0, written 1⟩, s.files)

end KeyAudit.Sandbox.Shell
