/-
Scanning by a walk: every source file below a root is read, and the keys it
references are gathered. Links are not followed. What cannot be entered or read
leaves a warning and does not stop the walk.

`Walk.collect` is the list of files in order; it depends on the tree alone.
-/

import KeyAudit.Audit.Basic
import KeyAudit.Problem
import KeyAudit.Reference
import KeyAudit.SourceFile

namespace KeyAudit.Walk

/-! ### Collecting files -/

mutual

/-- The source files of the tree at a path, in the order of its entries. -/
def filesOf (path : Path) : SourceTree → List Path
  | .file => if path.isSource then [path] else []
  | .directory entries => filesOfEntries path entries
  | .closed _ => []
  | .other => []

def filesOfEntries (path : Path) : List (String × SourceTree) → List Path
  | [] => []
  | (name, tree) :: entries => filesOf (path.child name) tree ++ filesOfEntries path entries

end

/-- A path that cannot be entered. -/
def accessWarning (path : Path) (reason : OsError) : SourceWarning :=
  ⟨path.text, "Cannot access path: IO error for operation on " ++ path.text ++ ": " ++ reason.text⟩

mutual

/-- The directories of the tree at a path that cannot be listed. -/
def warningsOf (path : Path) : SourceTree → List SourceWarning
  | .closed reason => [accessWarning path reason]
  | .directory entries => warningsOfEntries path entries
  | .file => []
  | .other => []

def warningsOfEntries (path : Path) : List (String × SourceTree) → List SourceWarning
  | [] => []
  | (name, tree) :: entries => warningsOf (path.child name) tree ++ warningsOfEntries path entries

end

/-- The source files below a root, in the order of their paths, and what could not be
entered. -/
structure Collected where
  files : List Path
  warnings : List SourceWarning
  deriving DecidableEq, Repr

/-- What a walk finds where the survey of the root gives this. -/
def collect (root : Path) : Except OsError SourceTree → Collected
  | .error reason => ⟨[], [accessWarning root reason]⟩
  | .ok tree => ⟨(filesOf root tree).mergeSort Path.le, warningsOf root tree⟩

/-! ### Reading files -/

/-- What reading one file gives. -/
abbrev Outcome := Path × Except ReadFailure String

/-- The keys that a file references; none if it could not be read. -/
def Outcome.keys (o : Outcome) : KeySet :=
  match o.2 with
  | .ok text => referencedKeys text
  | .error _ => .empty

/-- The warning about a file that could not be read. -/
def Outcome.warning? (o : Outcome) : Option SourceWarning :=
  match o.2 with
  | .ok _ => none
  | .error reason => some ⟨o.1.text, (Problem.sourceUnreadable o.1 reason).message⟩

/-- The scan that the collected files and their texts give. -/
def scanOf (collected : Collected) (outcomes : List Outcome) : SourceScan where
  keys := outcomes.foldl (fun keys o => keys.union o.keys) .empty
  files := some collected.files.length
  warnings := collected.warnings ++ outcomes.filterMap Outcome.warning?
  scanner := .walk
  fallback := none

end KeyAudit.Walk

namespace KeyAudit

namespace Host

variable {m : Type → Type} [Monad m]

/-- The source files below a root. -/
def collectSources (host : Host m) (root : Path) : m Walk.Collected := do
  return Walk.collect root (← host.survey root)

/-- Reads each of the files. -/
def readAll (host : Host m) : List Path → m (List Walk.Outcome)
  | [] => return []
  | file :: files => do
    let result ← host.readText file
    return (file, result) :: (← host.readAll files)

/-- Scans by a walk. -/
def scanByWalk (host : Host m) (root : Path) : m SourceScan := do
  let collected ← host.collectSources root
  return Walk.scanOf collected (← host.readAll collected.files)

end Host

end KeyAudit
