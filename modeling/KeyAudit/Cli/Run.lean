/-
The commands: what each does, what it shows, and how it ends.

A command gathers its output and hands it over at the end, so that a command that
fails has shown nothing but notes and its problem. `analyze` writes one file, the
report, after everything that can fail before it; `init` writes one file, the
configuration, and only where none is found.
-/

import KeyAudit.Audit.Perform
import KeyAudit.Cli.Settings

namespace KeyAudit.Cli

/-- What a command shows, and how it ends. -/
structure Output where
  status : ExitStatus
  stdout : List Console.Line
  stderr : List Console.Line
  deriving DecidableEq, Repr

/-- The output of a command that cannot be carried out. -/
def Output.ofProblem (notes : List Console.Line) (p : Problem) : Output :=
  ⟨.error, [], notes ++ [Console.line ("Error: " ++ p.message)]⟩

/-! ### analyze -/

/-- Said where no configuration was found, if details are wanted. -/
def configNote (verbose : Bool) (loaded : LoadedConfig) : List Console.Line :=
  if verbose && !loaded.fromFile then
    [Console.line ("Note: No " ++ Config.fileName ++ " found, using default configuration")]
  else []

/-- What is shown of an audit whose report is written. -/
def auditOutput (audit : Audit) (limits : Console.Limits) (verbose : Bool)
    (notes : List Console.Line) : Output where
  status := .ofAudit audit
  stdout := Console.analysis audit limits
  stderr := notes ++ Console.warnings audit verbose ++
    (if ExitStatus.ofAudit audit = .failure then Console.noLocaleData else [])

end KeyAudit.Cli

namespace KeyAudit.Host

open KeyAudit.Cli

variable {m : Type → Type} [Monad m]

/-- Writes the report of an audit. -/
def writeReport (host : Host m) (file : Path) (analysis : Analysis) (generatedAt : String) :
    m (Except Problem Unit) := do
  match ← host.write file (Report.render analysis generatedAt) with
  | .error reason => return .error (.reportNotWritten file reason)
  | .ok _ => return .ok ()

/-- Audits a project and writes its report. -/
def report (host : Host m) (settings : Settings) (program : Path) : m (Except Problem Audit) := do
  match ← host.audit settings.paths settings.scanner program with
  | .error problem => return .error problem
  | .ok audit =>
    match ← host.writeReport audit.paths.report audit.analysis (← host.now) with
    | .error problem => return .error problem
    | .ok _ => return .ok audit

/-- The command `analyze`, from a working directory. -/
def analyzeFrom (host : Host m) (cwd : Path) (request : AnalyzeRequest) : m Output := do
  match ← host.loadConfig cwd with
  | .error problem => return .ofProblem [] problem
  | .ok loaded =>
    let notes := configNote request.verbose loaded
    match Settings.effective loaded cwd request.overrides with
    | .error problem => return .ofProblem notes problem
    | .ok settings =>
      match ← host.report settings request.rgPath with
      | .error problem => return .ofProblem notes problem
      | .ok audit => return auditOutput audit settings.limits request.verbose notes

/-- The command `analyze`. -/
def analyze (host : Host m) (request : AnalyzeRequest) : m Output := do
  match ← host.workingDirectory with
  | .error reason => return .ofProblem [] (.noWorkingDirectory reason)
  | .ok cwd => host.analyzeFrom cwd request

end KeyAudit.Host

namespace KeyAudit.Cli

/-! ### init -/

/-- Said where a configuration is there already. -/
def alreadyThere (file : Path) : Output :=
  ⟨.failure, [], [[Console.errorMark, Console.plain (" " ++ file.text ++ " already exists")]]⟩

/-- Said when the configuration of a project has been written. -/
def created (file root : Path) : Output :=
  let paths := Config.default.resolve root
  ⟨.success,
    [[Console.successMark, Console.plain (" Created " ++ file.text)],
      Console.line ("  Source directory:     " ++ paths.sourceRoot.text),
      Console.line ("  English translations: " ++ paths.enMessages.text),
      Console.line ("  Turkish translations: " ++ paths.trMessages.text),
      Console.line ("  Report file:          " ++ paths.report.text)],
    []⟩

/-! ### No command -/

/-- What the program is for and which commands it has. -/
def help : List String :=
  ["Find translation keys that are defined in locale files but never used in source code",
    "",
    "Usage: unused-i18n [COMMAND]",
    "",
    "Commands:",
    "  analyze  Find translation keys that are defined in locale files but never used",
    "  init     Initialize a new .unusedi18nrc.json configuration file",
    "  help     Print this message or the help of the given subcommand(s)",
    "",
    "Options:",
    "  -h, --help     Print help",
    "  -V, --version  Print version"]

end KeyAudit.Cli

namespace KeyAudit.Host

open KeyAudit.Cli

variable {m : Type → Type} [Monad m]

/-- The command `init`, from a working directory. -/
def initFrom (host : Host m) (cwd : Path) : m Output := do
  match ← host.findConfig cwd with
  | some file => return alreadyThere file
  | none =>
    let root ← host.findRoot cwd
    let file := root.child Config.fileName
    match ← host.write file Config.default.written with
    | .error reason => return .ofProblem [] (.configNotWritten file reason)
    | .ok _ => return created file root

/-- The command `init`. -/
def init (host : Host m) : m Output := do
  match ← host.workingDirectory with
  | .error reason => return .ofProblem [] (.noWorkingDirectory reason)
  | .ok cwd => host.initFrom cwd

/-- Carries out a command; help is shown if there is none. -/
def perform (host : Host m) : Option Command → m Output
  | none => return ⟨.success, help.map Console.line, []⟩
  | some (.analyze request) => host.analyze request
  | some .init => host.init

end KeyAudit.Host
