/-
The settings of a project, and patches over them: a configuration file may leave
out any setting, which then keeps its default.

* `Config.Patch.applyTo` — the settings with those of a patch replaced.
* `Config.firstBlank?` — the first path setting that is blank, if any.
* `Config.resolve` — the paths of the settings, taken from the project's root.
-/

import KeyAudit.Audit.Basic
import KeyAudit.Text.Blank

namespace KeyAudit

/-- The settings of a project. -/
structure Config where
  enMessages : String
  trMessages : String
  sourceRoot : String
  reportPath : String
  scanner : Scanner.Preference
  /-- How many unused keys the console shows. -/
  maxUnused : UInt64
  /-- How many used keys the console shows. -/
  maxUsed : UInt64
  deriving DecidableEq, Repr

namespace Config

/-- The name of a configuration file. -/
def fileName : String := ".unusedi18nrc.json"

/-- The settings of a project without a configuration file. -/
def default : Config where
  enMessages := "messages/en.json"
  trMessages := "messages/tr.json"
  sourceRoot := "src"
  reportPath := "translation_analysis_report.txt"
  scanner := .auto
  maxUnused := 20
  maxUsed := 10

instance : Inhabited Config := ⟨default⟩

/-! ### Settings by name -/

/-- One setting. -/
inductive Setting where
  | enMessages
  | trMessages
  | sourceRoot
  | reportPath
  | scanner
  | maxUnused
  | maxUsed
  deriving DecidableEq, Repr

namespace Setting

/-- The settings in the order in which a file lists them. -/
def all : List Setting :=
  [.enMessages, .trMessages, .sourceRoot, .reportPath, .scanner, .maxUnused, .maxUsed]

/-- How a file names the setting. -/
def name : Setting → String
  | .enMessages => "enMessages"
  | .trMessages => "trMessages"
  | .sourceRoot => "sourceRoot"
  | .reportPath => "reportPath"
  | .scanner => "scanner"
  | .maxUnused => "maxUnusedPreview"
  | .maxUsed => "maxUsedPreview"

/-- Another name by which a file may call the setting. -/
def otherName? : Setting → Option String
  | .sourceRoot => some "sourceDir"
  | _ => none

/-- The setting that a name calls. -/
def ofName? (name : String) : Option Setting :=
  all.find? fun s => s.name == name || s.otherName? == some name

theorem ofName?_name (s : Setting) : ofName? s.name = some s := by
  cases s <;> decide

end Setting

/-! ### Patches -/

/-- Some of the settings. -/
structure Patch where
  enMessages : Option String := none
  trMessages : Option String := none
  sourceRoot : Option String := none
  reportPath : Option String := none
  scanner : Option Scanner.Preference := none
  maxUnused : Option UInt64 := none
  maxUsed : Option UInt64 := none
  deriving DecidableEq, Repr

namespace Patch

/-- Does the patch set this? -/
def has (p : Patch) : Setting → Bool
  | .enMessages => p.enMessages.isSome
  | .trMessages => p.trMessages.isSome
  | .sourceRoot => p.sourceRoot.isSome
  | .reportPath => p.reportPath.isSome
  | .scanner => p.scanner.isSome
  | .maxUnused => p.maxUnused.isSome
  | .maxUsed => p.maxUsed.isSome

/-- The settings `c` with those of the patch replaced. -/
def applyTo (p : Patch) (c : Config) : Config where
  enMessages := p.enMessages.getD c.enMessages
  trMessages := p.trMessages.getD c.trMessages
  sourceRoot := p.sourceRoot.getD c.sourceRoot
  reportPath := p.reportPath.getD c.reportPath
  scanner := p.scanner.getD c.scanner
  maxUnused := p.maxUnused.getD c.maxUnused
  maxUsed := p.maxUsed.getD c.maxUsed

end Patch

/-! ### Validity -/

/-- The path settings with their texts. -/
def pathSettings (c : Config) : List (Setting × String) :=
  [(.enMessages, c.enMessages), (.trMessages, c.trMessages), (.sourceRoot, c.sourceRoot),
    (.reportPath, c.reportPath)]

/-- Is there nothing but blanks in a text? -/
def isBlankText (s : String) : Bool := s.toList.all Text.isBlank

/-- The first path setting that is blank. -/
def firstBlank? (c : Config) : Option Setting :=
  (c.pathSettings.find? fun s => isBlankText s.2).map Prod.fst

/-! ### Paths -/

/-- A path setting, taken from the root. A leading `.` is dropped first, so that
what follows it stays below the root. -/
def resolvePath (root : Path) (value : String) : Path := root.join (Path.mk value).withoutHere

/-- The paths of the settings. -/
def resolve (c : Config) (root : Path) : AuditPaths where
  enMessages := resolvePath root c.enMessages
  trMessages := resolvePath root c.trMessages
  sourceRoot := resolvePath root c.sourceRoot
  report := resolvePath root c.reportPath

end Config

end KeyAudit
