/-
What a command line asks for, and why it may be refused.
-/

import KeyAudit.Path
import KeyAudit.Scanner

namespace KeyAudit.Cli

/-- An option of `analyze` that takes a value. -/
inductive ValueOption where
  | enMessages
  | trMessages
  | sourceRoot
  | report
  | scanner
  | maxUnused
  | maxUsed
  | rgPath
  deriving DecidableEq, Repr

namespace ValueOption

/-- All options that take a value. -/
def all : List ValueOption :=
  [.enMessages, .trMessages, .sourceRoot, .report, .scanner, .maxUnused, .maxUsed, .rgPath]

/-- The name of the option, after its two dashes. -/
def name : ValueOption → String
  | .enMessages => "en-messages"
  | .trMessages => "tr-messages"
  | .sourceRoot => "source-root"
  | .report => "report"
  | .scanner => "scanner"
  | .maxUnused => "max-unused"
  | .maxUsed => "max-used"
  | .rgPath => "rg-path"

/-- The option of a name. -/
def ofName? (name : String) : Option ValueOption := all.find? fun o => o.name == name

theorem ofName?_name (o : ValueOption) : ofName? o.name = some o := by
  cases o <;> decide

end ValueOption

/-- The options of `analyze` that are given. -/
structure Overrides where
  enMessages : Option Path := none
  trMessages : Option Path := none
  sourceRoot : Option Path := none
  report : Option Path := none
  scanner : Option Scanner.Preference := none
  maxUnused : Option UInt64 := none
  maxUsed : Option UInt64 := none
  deriving DecidableEq, Repr

/-- What `analyze` is asked to do. -/
structure AnalyzeRequest where
  overrides : Overrides := {}
  /-- The program that searches for `ripgrep`. -/
  rgPath : Path := ⟨"rg"⟩
  verbose : Bool := false
  deriving DecidableEq, Repr

/-- A command. -/
inductive Command where
  | analyze (request : AnalyzeRequest)
  | init
  deriving DecidableEq, Repr

/-- Was more output asked for? -/
def Command.verbose : Command → Bool
  | .analyze r => r.verbose
  | .init => false

/-- Why no command is carried out. -/
inductive Refusal where
  /-- Help is asked for. -/
  | help
  /-- The version is asked for. -/
  | version
  /-- There is no such option, or no place for a value. -/
  | unknownArgument
  /-- A value is missing, empty, or none of the choices. -/
  | invalidValue
  /-- A value is not a number that fits. -/
  | malformedNumber
  /-- There is no such command. -/
  | unknownCommand
  /-- An option is given twice. -/
  | conflict
  /-- A value is given to an option that takes none. -/
  | unwantedValue
  deriving DecidableEq, Repr

namespace Refusal

/-- Asking for help or the version is no error. -/
def exitCode : Refusal → Nat
  | .help | .version => 0
  | _ => 2

end Refusal

end KeyAudit.Cli
