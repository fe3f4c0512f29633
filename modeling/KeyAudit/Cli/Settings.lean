/-
The settings of one run of `analyze`: an option on the command line wins over the
configuration, which wins over the defaults.

Paths of the configuration start from the project's root, paths on the command line
from the working directory. `Settings.effective` decides everything before anything
is read but the configuration.
-/

import KeyAudit.Cli.Arguments
import KeyAudit.Config.Discovery
import KeyAudit.Console

namespace KeyAudit.Cli

/-- What a run of `analyze` works with. -/
structure Settings where
  paths : AuditPaths
  scanner : Scanner.Preference
  limits : Console.Limits
  deriving DecidableEq, Repr

namespace Overrides

/-- The configuration with the scanner and the limits of the command line. -/
def applyTo (o : Overrides) (c : Config) : Config :=
  { c with
    scanner := o.scanner.getD c.scanner
    maxUnused := o.maxUnused.getD c.maxUnused
    maxUsed := o.maxUsed.getD c.maxUsed }

/-- The path options with their names, in the order in which they are checked. -/
def pathOptions (o : Overrides) : List (ValueOption × Option Path) :=
  [(.enMessages, o.enMessages), (.trMessages, o.trMessages), (.sourceRoot, o.sourceRoot),
    (.report, o.report)]

/-- The first path option that is given and empty. -/
def firstEmpty? (o : Overrides) : Option ValueOption :=
  (o.pathOptions.find? fun p => p.2 == some ⟨""⟩).map Prod.fst

/-- A path of the command line, from the working directory; otherwise the one of the
configuration. -/
def pathOver (cwd : Path) (option : Option Path) (configured : Path) : Path :=
  match option with
  | some p => cwd.join p
  | none => configured

/-- The paths of the configuration with those of the command line in their place. -/
def pathsOver (o : Overrides) (cwd : Path) (configured : AuditPaths) : AuditPaths where
  enMessages := pathOver cwd o.enMessages configured.enMessages
  trMessages := pathOver cwd o.trMessages configured.trMessages
  sourceRoot := pathOver cwd o.sourceRoot configured.sourceRoot
  report := pathOver cwd o.report configured.report

end Overrides

/-- The settings of a run from `cwd`. -/
def Settings.effective (loaded : LoadedConfig) (cwd : Path) (o : Overrides) :
    Except Problem Settings :=
  let config := o.applyTo loaded.config
  match config.firstBlank? with
  | some setting => .error (.settingBlank setting)
  | none =>
    match o.firstEmpty? with
    | some option => .error (.optionEmpty ("--" ++ option.name))
    | none =>
      .ok {
        paths := o.pathsOver cwd (config.resolve loaded.root)
        scanner := config.scanner
        limits := ⟨config.maxUnused.toNat, config.maxUsed.toNat⟩ }

end KeyAudit.Cli
