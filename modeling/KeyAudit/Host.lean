/-
What an audit asks of the system around it: files, directories and one external
program.

A `Host` gives these operations in some monad, so that everything above it can be
run on the real system, on a directory held in memory, and on any functions that a
theorem quantifies over. `SourceTree` is what a directory looks like to a walk that
follows no links.

Names, paths, arguments and variables are texts: a host has no names that are not UTF-8,
though the system below an audit may. What files hold and programs print are bytes, and
those may be any.
-/

import KeyAudit.Path

namespace KeyAudit

/-! ### What the system answers -/

/-- Why the system refuses. -/
inductive OsError where
  | notFound
  | permissionDenied
  | notDirectory
  | isDirectory
  | nameTooLong
  | tooManyLinks
  | badFormat
  | badDescriptor
  | noSpace
  /-- There is nothing behind a device. -/
  | noDevice
  /-- The words and the environment of a program have no room. -/
  | tooManyWords
  /-- The file is a program that is running. -/
  | busy
  /-- A path holds a NUL character. -/
  | nulInPath
  /-- An argument of a program holds a NUL character. -/
  | nulInArgument
  /-- Any other reason, in words. -/
  | other (reason : String)
  deriving DecidableEq, Repr

/-- The reason in words, with the number under which the system knows it. -/
def OsError.text : OsError → String
  | .notFound => "No such file or directory (os error 2)"
  | .permissionDenied => "Permission denied (os error 13)"
  | .notDirectory => "Not a directory (os error 20)"
  | .isDirectory => "Is a directory (os error 21)"
  | .nameTooLong => "File name too long (os error 36)"
  | .tooManyLinks => "Too many levels of symbolic links (os error 40)"
  | .badFormat => "Exec format error (os error 8)"
  | .badDescriptor => "Bad file descriptor (os error 9)"
  | .noSpace => "No space left on device (os error 28)"
  | .noDevice => "No such device or address (os error 6)"
  | .tooManyWords => "Argument list too long (os error 7)"
  | .busy => "Text file busy (os error 26)"
  | .nulInPath => "file name contained an unexpected NUL byte"
  | .nulInArgument => "nul byte found in provided data"
  | .other reason => reason

/-- How a program ended. -/
inductive ProcessStatus where
  | exited (code : Nat)
  /-- Ended by a signal, perhaps leaving its memory in a file. -/
  | killed (signal : Nat) (dumped : Bool)
  deriving DecidableEq, Repr

namespace ProcessStatus

def isSuccess : ProcessStatus → Bool
  | .exited 0 => true
  | _ => false

/-- The names of the signals from the first on. -/
def signalNames : List String :=
  ["SIGHUP", "SIGINT", "SIGQUIT", "SIGILL", "SIGTRAP", "SIGABRT", "SIGBUS", "SIGFPE", "SIGKILL",
    "SIGUSR1", "SIGSEGV", "SIGUSR2", "SIGPIPE", "SIGALRM", "SIGTERM", "SIGSTKFLT", "SIGCHLD",
    "SIGCONT", "SIGSTOP", "SIGTSTP", "SIGTTIN", "SIGTTOU", "SIGURG", "SIGXCPU", "SIGXFSZ",
    "SIGVTALRM", "SIGPROF", "SIGWINCH", "SIGIO", "SIGPWR", "SIGSYS"]

/-- The name of a signal in brackets, if it has one. -/
def signalLabel (signal : Nat) : String :=
  if signal = 0 then ""
  else match signalNames[signal - 1]? with
    | some name => " (" ++ name ++ ")"
    | none => ""

/-- The status in words. -/
def text : ProcessStatus → String
  | .exited code => "exit status: " ++ toString code
  | .killed signal dumped =>
    "signal: " ++ toString signal ++ signalLabel signal ++ if dumped then " (core dumped)" else ""

end ProcessStatus

/-- A program that has ended, with what it wrote. -/
structure Finished where
  status : ProcessStatus
  stdout : List UInt8
  stderr : List UInt8
  deriving DecidableEq, Repr

/-- A directory tree in which links are not followed. -/
inductive SourceTree where
  | file
  | directory (entries : List (String × SourceTree))
  /-- A directory whose entries cannot be listed. -/
  | closed (reason : OsError)
  /-- A link or a special file. -/
  | other
  deriving Repr

instance : Inhabited SourceTree := ⟨.other⟩

/-! ### The operations -/

/-- The system around an audit. Paths that are not absolute start at the working
directory. -/
structure Host (m : Type → Type) where
  /-- Is there anything at a path, behind any links? -/
  present : Path → m Bool
  /-- Is there a directory at a path, behind any links? -/
  isDirectory : Path → m Bool
  /-- The content of a file. -/
  read : Path → m (Except OsError ByteArray)
  /-- The tree at a path. A link at the path itself is followed if it leads to a
  directory. -/
  survey : Path → m (Except OsError SourceTree)
  /-- Makes a file with this content, or replaces the content of the file that is
  there. -/
  write : Path → String → m (Except OsError Unit)
  /-- Runs a program with arguments to its end. -/
  run : Path → List String → m (Except OsError Finished)
  /-- The working directory, without links. -/
  workingDirectory : m (Except OsError Path)
  /-- The local date and time, to the second. -/
  now : m String

end KeyAudit
