/-
A system held in memory with programs that can be run, for trying the commands out.
`Sandbox.host` lets everything that asks a host run on it.

Programs are the tools of the file system and scripts for them. A program that cannot
be run is refused for the reason that a system would give.

The scripts are run by a shell of their own, in the modules below `Sandbox.Shell`. They
belong to the world in which a command is tried out and not to the commands, and nothing
that is proved of the commands depends on them: there, what a program does is whatever a
host answers.
-/

import KeyAudit.Sandbox.Shell.Run
import KeyAudit.Sandbox.World

namespace KeyAudit.Sandbox

/-! ### Programs -/

/-- Is a part of the search path too long to count? -/
def isTooLong (part : String) : Bool := decide (FileTree.maxPath ≤ part.utf8ByteSize)

/-- The paths at which a name is looked up, one for each part of the search path. An
empty part is the working directory, and so is one that is too long, except that the
last one then counts for nothing. -/
def candidates (name : Path) : List String → List Path
  | [] => []
  | part :: parts =>
    let below : Path := if part.isEmpty then name else ⟨part ++ "/" ++ name.text⟩
    if isTooLong part then
      if parts.isEmpty then [] else name :: candidates name parts
    else below :: candidates name parts

/-- The parts of the search path. -/
def searchPath (s : Sandbox) : List String :=
  ((s.environment.lookup "PATH").getD "").splitOn ":"

/-- The environment as a program gets it. -/
def exported (s : Sandbox) : List (Shell.Bytes × Shell.Bytes) :=
  s.environment.map fun v => (Shell.ofText v.1, Shell.ofText v.2)

/-- What is run for the program at a path. -/
def launchAt (s : Sandbox) (words : List Shell.Bytes) (path : Path) : Except OsError Launch :=
  s.files.launch s.directory s.exported (Shell.ofText path.text) words

/-- What is run for a name, from the first path at which it can be run. If there is
none, the last refusal counts, but before it that of a program that may not be run. -/
def searchLaunch (s : Sandbox) (words : List Shell.Bytes) (refusal : OsError) :
    List Path → Except OsError Launch
  | [] => .error refusal
  | path :: paths =>
    let after (e : OsError) : OsError := if refusal = .permissionDenied then refusal else e
    match s.launchAt words path with
    | .ok launch => .ok launch
    | .error .permissionDenied => s.searchLaunch words .permissionDenied paths
    | .error .notFound => s.searchLaunch words (after .notFound) paths
    | .error .notDirectory => s.searchLaunch words (after .notDirectory) paths
    | .error e => .error e

/-- The refusal where a name was looked up nowhere. -/
def noCandidate : OsError := .other "No child processes (os error 10)"

/-- What is run for a program. A name without separators is looked up in the search
path. -/
def launch (s : Sandbox) (p : Path) (words : List Shell.Bytes) : Except OsError Launch :=
  if p.text.isEmpty then .error .notFound
  else if p.chars.contains '/' then s.launchAt words p
  else s.searchLaunch words noCandidate (candidates p s.searchPath)

/-- Runs a program. -/
def runProgram (s : Sandbox) (p : Path) (arguments : List String) :
    Except OsError Finished × Sandbox :=
  if (p.text :: arguments).any fun a => a.toList.contains '\x00' then (.error .nulInArgument, s)
  else
    match s.launch p ((p.text :: arguments).map Shell.ofText) with
    | .error e => (.error e, s)
    | .ok launch =>
      match Shell.runOn s.files s.directory s.exported launch with
      | (finished, files) => (.ok finished, { s with files := files })

/-! ### The host -/

/-- The system as a host that runs its own programs. -/
def host : Host (StateM Sandbox) := hostRunning fun path arguments s => s.runProgram path arguments

end KeyAudit.Sandbox
