/-
A system held in memory, apart from its programs: a file system, a working directory, an
environment and a clock. What becomes of a program is a parameter of its host
(`Sandbox.hostRunning`), so that what is said of the files needs no programs.
-/

import KeyAudit.Sandbox.FileTree

namespace KeyAudit

/-- A system held in memory. -/
structure Sandbox where
  files : Sandbox.FileTree
  directory : Sandbox.FileTree.Place
  environment : List (String × String)
  /-- What the clock shows. -/
  clock : String

namespace Sandbox

/-- A place as an absolute path. -/
def pathOf (place : FileTree.Place) : Path := ⟨"/" ++ String.intercalate "/" place⟩

/-! ### The host -/

/-- Answers from the state, without changing it. -/
def ask {α : Type} (f : Sandbox → α) : StateM Sandbox α := fun s => (f s, s)

/-- Writes a file. -/
def writeText (path : Path) (text : String) : StateM Sandbox (Except OsError Unit) := fun s =>
  match s.files.write s.directory path text.toUTF8.data.toList with
  | .ok files => (.ok (), { s with files := files })
  | .error e => (.error e, s)

/-- The system as a host that runs programs in this way. -/
def hostRunning (run : Path → List String → StateM Sandbox (Except OsError Finished)) :
    Host (StateM Sandbox) where
  present path := ask fun s => (s.files.find s.directory .content path).isOk
  isDirectory path := ask fun s =>
    match s.files.find s.directory .content path with
    | .ok (_, entry) => entry.isDirectory
    | .error _ => false
  read path := ask fun s => (s.files.read s.directory path).map fun bytes => ⟨bytes.toArray⟩
  survey path := ask fun s => s.files.survey s.directory path
  write := writeText
  run := run
  workingDirectory := ask fun s => .ok (pathOf s.directory)
  now := ask Sandbox.clock

end Sandbox

end KeyAudit
