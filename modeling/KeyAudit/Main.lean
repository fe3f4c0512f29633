/-
The command line program: the commands, carried out on the real system.

`Program.host` answers from the system. Programs are not started from here, so that a
request to run one is refused as if there were none of its name; a scan then walks
the tree, unless the settings insist on `ripgrep`.
-/

import KeyAudit.Cli.Parse
import KeyAudit.Cli.Run
import Std.Time.Format

namespace KeyAudit.Program

/-! ### The system as a host -/

/-- The reason behind an error number that has one of its own. -/
def reason? : UInt32 → Option OsError
  | 2 => some .notFound
  | 8 => some .badFormat
  | 13 => some .permissionDenied
  | 20 => some .notDirectory
  | 21 => some .isDirectory
  | 36 => some .nameTooLong
  | 40 => some .tooManyLinks
  | _ => none

/-- The number of an error and its description, if the system gave one. -/
def numbered? : IO.Error → Option (UInt32 × String)
  | .noFileOrDirectory _ n words => some (n, words)
  | .permissionDenied _ n words => some (n, words)
  | .inappropriateType _ n words => some (n, words)
  | .invalidArgument _ n words => some (n, words)
  | .resourceExhausted _ n words => some (n, words)
  | .alreadyExists _ n words => some (n, words)
  | .noSuchThing _ n words => some (n, words)
  | .otherError n words => some (n, words)
  | _ => none

/-- Why the system refuses. -/
def osError (e : IO.Error) : OsError :=
  match numbered? e with
  | some (n, words) =>
    (reason? n).getD (.other (words ++ " (os error " ++ toString n.toNat ++ ")"))
  | none => .other (toString e)

/-- Carries out an action that may be refused. -/
def attempt {α : Type} (action : IO α) : IO (Except OsError α) := do
  match ← action.toBaseIO with
  | .ok x => return .ok x
  | .error e => return .error (osError e)

/-- Carries out an action on a path, unless the path is none that a file can have. -/
def onPath {α : Type} (p : Path) (action : IO α) : IO (Except OsError α) :=
  if p.text.isEmpty then return .error .notFound
  else if p.chars.contains '\x00' then return .error .nulInPath
  else attempt action

/-- The directory at a path with everything below it. -/
partial def directory (path : String) : IO SourceTree := do
  match ← attempt (do (← IO.FS.realPath path).readDir) with
  | .error reason => return .closed reason
  | .ok entries =>
    let mut trees := []
    for entry in entries do
      let tree ← match (← entry.path.symlinkMetadata).type with
        | .file => pure SourceTree.file
        | .dir => directory entry.path.toString
        | _ => pure .other
      trees := (entry.fileName, tree) :: trees
    return .directory trees

/-- The tree at a path; a link at the path itself is followed. -/
def survey (p : Path) : IO SourceTree := do
  let path := (← IO.currentDir) / p.text
  match (← path.symlinkMetadata).type with
  | .file => return .file
  | .dir => directory path.toString
  | .symlink =>
    if (← path.metadata).type == .dir then directory path.toString else return .other
  | .other => return .other

/-- The real system. -/
def host : Host IO where
  present p := return (← onPath p (do ((← IO.currentDir) / p.text).metadata)).isOk
  isDirectory p := do
    match ← onPath p (do ((← IO.currentDir) / p.text).metadata) with
    | .ok found => return found.type == .dir
    | .error _ => return false
  read p := onPath p (IO.FS.readBinFile p.text)
  survey p := onPath p (survey p)
  write p text := onPath p (IO.FS.writeFile p.text text)
  run _ _ := return .error .notFound
  workingDirectory := attempt (return ⟨(← IO.currentDir).toString⟩)
  now := return (← Std.Time.PlainDateTime.now).format "uuuu-MM-dd HH:mm:ss"

/-! ### Colours -/

/-- Is something wanted by a variable that says no only by a zero? -/
def wanted (value : Option String) : Bool :=
  match value with
  | some text => text != "0"
  | none => false

/-- Colours are forced on or off by variables; otherwise a terminal gets them, unless
it is told not to. -/
def wantsColor (force refuse allow : Option String) (terminal : Bool) : Bool :=
  if wanted force then true
  else if refuse.isSome then false
  else terminal && wanted (allow <|> some "")

/-! ### Refused command lines -/

/-- What is said of a command line that asks for no command. -/
def refusalText : Cli.Refusal → String
  | .help => String.intercalate "\n" Cli.help
  | .version => "unused-i18n 0.1.0"
  | .unknownArgument => "error: unexpected argument found"
  | .invalidValue => "error: a value is missing or not possible"
  | .malformedNumber => "error: a value is not a number that fits"
  | .unknownCommand => "error: unrecognized subcommand"
  | .conflict => "error: an argument cannot be used multiple times"
  | .unwantedValue => "error: unexpected value for an argument"

end KeyAudit.Program

open KeyAudit KeyAudit.Program in
/-- Reads the command line and carries out what it asks for. -/
def main (args : List String) : IO UInt32 := do
  let chosen ← IO.getEnv Cli.rgVariable
  match Cli.parse (fun name => if name == Cli.rgVariable then chosen else none) args with
  | .error refusal =>
    let text := refusalText refusal
    if refusal.exitCode = 0 then IO.println text else IO.eprintln text
    return refusal.exitCode.toUInt32
  | .ok command =>
    let terminal ← (← IO.getStdout).isTty
    let color := wantsColor (← IO.getEnv "CLICOLOR_FORCE") (← IO.getEnv "NO_COLOR")
      (← IO.getEnv "CLICOLOR") terminal
    let output ← Host.perform host command
    IO.eprint (Console.render color output.stderr)
    IO.print (Console.render color output.stdout)
    return output.status.code.toUInt32
