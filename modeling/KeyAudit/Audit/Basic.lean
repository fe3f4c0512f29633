/-
What one audit of a project gathers: where it looked, the analysis of the keys, and
everything that could not be read on the way.
-/

import KeyAudit.Analysis
import KeyAudit.Path
import KeyAudit.Scanner

namespace KeyAudit

/-- A locale file that could not be loaded. -/
structure LocaleWarning where
  locale : Locale
  file : String
  reason : String
  deriving DecidableEq, Repr

/-- A source file or directory that could not be scanned. -/
structure SourceWarning where
  file : String
  reason : String
  deriving DecidableEq, Repr

/-- The keys that a source tree uses. -/
structure SourceScan where
  keys : KeySet
  /-- How many files were searched, where the scanner can tell. -/
  files : Option Nat
  warnings : List SourceWarning
  scanner : Scanner
  /-- Why the walk stepped in for `ripgrep`, if it did. -/
  fallback : Option String
  deriving DecidableEq

/-- Where an audit reads and writes. -/
structure AuditPaths where
  enMessages : Path
  trMessages : Path
  sourceRoot : Path
  report : Path
  deriving DecidableEq, Repr

/-- An audit that has been carried out. -/
structure Audit where
  paths : AuditPaths
  analysis : Analysis
  /-- How many of the two locale files were loaded. -/
  localesLoaded : Nat
  localeWarnings : List LocaleWarning
  sourceWarnings : List SourceWarning
  scanner : Scanner
  filesScanned : Option Nat
  fallback : Option String
  deriving DecidableEq

namespace Audit

/-- Was any locale file loaded? -/
def hasLocaleData (a : Audit) : Bool := 0 < a.localesLoaded

end Audit

/-- How a command ends. Unused keys never make it fail. -/
inductive ExitStatus where
  | success
  /-- There was nothing to compare, or a configuration is there already. -/
  | failure
  /-- The command could not be carried out. -/
  | error
  deriving DecidableEq, Repr

namespace ExitStatus

def code : ExitStatus → Nat
  | .success => 0
  | .failure => 1
  | .error => 2

/-- An audit fails only if no locale file was loaded. -/
def ofAudit (a : Audit) : ExitStatus := if a.hasLocaleData then .success else .failure

end ExitStatus

end KeyAudit
