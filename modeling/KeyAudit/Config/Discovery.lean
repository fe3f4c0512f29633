/-
Finding the configuration and the root of a project.

Both searches go up from a directory. The search for a configuration ends at a
directory that holds a repository, after looking for a configuration in it; so a
configuration beside a repository is found and one above it is not.
-/

import KeyAudit.Config.Text
import KeyAudit.Problem

namespace KeyAudit

/-- The entry that a directory with a repository holds. -/
def repositoryName : String := ".git"

namespace Path

/-- The path and those left without its last components, as far as `bound`. -/
def ancestorsWithin : Nat → Path → List Path
  | 0, p => [p]
  | bound + 1, p =>
    match p.parent? with
    | some q => p :: ancestorsWithin bound q
    | none => [p]

/-- The path itself, the path without its last component, and so on. Each step takes
a character at least. -/
def ancestors (p : Path) : List Path := ancestorsWithin p.chars.length p

end Path

/-- A configuration, where it came from, and the directory that its paths start
from. -/
structure LoadedConfig where
  config : Config
  fromFile : Bool
  root : Path
  deriving DecidableEq, Repr

namespace Host

variable {m : Type → Type} [Monad m]

/-- The configuration in the first of the directories that holds one, unless a
repository stands nearer. -/
def findConfigIn (host : Host m) : List Path → m (Option Path)
  | [] => return none
  | dir :: dirs => do
    if ← host.present (dir.child Config.fileName) then return some (dir.child Config.fileName)
    else if ← host.present (dir.child repositoryName) then return none
    else host.findConfigIn dirs

/-- The configuration for a directory. -/
def findConfig (host : Host m) (dir : Path) : m (Option Path) := host.findConfigIn dir.ancestors

/-- The first of the directories that holds a repository. -/
def findRepositoryIn (host : Host m) : List Path → m (Option Path)
  | [] => return none
  | dir :: dirs => do
    if ← host.present (dir.child repositoryName) then return some dir
    else host.findRepositoryIn dirs

/-- The directory with the repository around a directory, or the directory itself
outside any. -/
def findRoot (host : Host m) (dir : Path) : m Path := do
  return (← host.findRepositoryIn dir.ancestors).getD dir

/-- The configuration in a file. -/
def readConfig (host : Host m) (file : Path) : m (Except Problem Config) := do
  match ← host.readText file with
  | .error reason => return .error (.configUnreadable reason)
  | .ok text =>
    match Config.read text with
    | .error reason => return .error (.configMalformed file text reason)
    | .ok config =>
      match config.firstBlank? with
      | some setting => return .error (.settingBlank setting)
      | none => return .ok config

/-- The configuration for a directory; the defaults if no file is found. -/
def loadConfig (host : Host m) (dir : Path) : m (Except Problem LoadedConfig) := do
  match ← host.findConfig dir with
  | none => return .ok ⟨.default, false, dir⟩
  | some file =>
    match ← host.readConfig file with
    | .error problem => return .error problem
    | .ok config => return .ok ⟨config, true, file.parent?.getD dir⟩

end Host

end KeyAudit
