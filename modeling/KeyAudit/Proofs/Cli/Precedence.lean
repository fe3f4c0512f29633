/-
Where the settings of a run come from: the command line, then the configuration, then the
defaults.

Each path has a role in the audit, and each role has its own option and its own entry in
the configuration (`PathRole`). What is given on the command line starts at the working
directory, what the configuration says starts at the root of the project, and no option
reaches a setting other than its own (`exists_settings`).

A configuration that was loaded has no blank path (`firstBlank?_of_run_loadConfig`), and the
options that replace its other settings leave it so. The check that follows them cannot
fail; what can be refused is an empty path on the command line, and of several the first
is named (`firstEmpty?_eq_some`).
-/

import KeyAudit.Proofs.Cli.Analyze

namespace KeyAudit

namespace Cli

/-! ### Paths by role -/

/-- What a path is for. -/
inductive PathRole where
  | enMessages
  | trMessages
  | sourceRoot
  | report
  deriving DecidableEq, Repr

namespace PathRole

/-- The roles in the order in which their options are checked. -/
def all : List PathRole := [.enMessages, .trMessages, .sourceRoot, .report]

/-- The option that gives the path. -/
def option : PathRole → ValueOption
  | .enMessages => .enMessages
  | .trMessages => .trMessages
  | .sourceRoot => .sourceRoot
  | .report => .report

end PathRole

/-- The path that the command line gives for a role. -/
def Overrides.path? (o : Overrides) : PathRole → Option Path
  | .enMessages => o.enMessages
  | .trMessages => o.trMessages
  | .sourceRoot => o.sourceRoot
  | .report => o.report

/-- What the configuration says of a role. -/
def pathText (c : Config) : PathRole → String
  | .enMessages => c.enMessages
  | .trMessages => c.trMessages
  | .sourceRoot => c.sourceRoot
  | .report => c.reportPath

/-- The path with a role. -/
def pathOf (paths : AuditPaths) : PathRole → Path
  | .enMessages => paths.enMessages
  | .trMessages => paths.trMessages
  | .sourceRoot => paths.sourceRoot
  | .report => paths.report

theorem pathOf_resolve (c : Config) (root : Path) (role : PathRole) :
    pathOf (c.resolve root) role = Config.resolvePath root (pathText c role) := by
  cases role <;> rfl

theorem join_eq_ite (cwd p : Path) : cwd.join p = if p.isAbsolute then p else cwd.join p := by
  split
  · rename_i habsolute
    rw [Path.join, if_pos habsolute]
  · rfl

/-- A path of the command line stands in the place of the configured one. -/
theorem pathOf_pathsOver (o : Overrides) (cwd : Path) (configured : AuditPaths) (role : PathRole) :
    pathOf (o.pathsOver cwd configured) role =
      match o.path? role with
      | some p => if p.isAbsolute then p else cwd.join p
      | none => pathOf configured role := by
  have hover (option : Option Path) (p : Path) : Overrides.pathOver cwd option p =
      match option with
      | some p => if p.isAbsolute then p else cwd.join p
      | none => p := by
    cases option with
    | none => rfl
    | some p => exact join_eq_ite cwd p
  cases role <;> exact hover _ _

/-! ### Empty paths -/

theorem pathOptions_eq (o : Overrides) :
    o.pathOptions = PathRole.all.map fun role => (role.option, o.path? role) := rfl

theorem firstEmpty?_eq (o : Overrides) :
    o.firstEmpty? = (PathRole.all.find? fun role => o.path? role == some ⟨""⟩).map
      PathRole.option := by
  rw [Overrides.firstEmpty?, pathOptions_eq, List.find?_map, Option.map_map]
  rfl

theorem firstEmpty?_eq_none {o : Overrides} (h : ∀ role, o.path? role ≠ some ⟨""⟩) :
    o.firstEmpty? = none := by
  have hfind : PathRole.all.find? (fun role => o.path? role == some ⟨""⟩) = none := by
    simp [h]
  rw [firstEmpty?_eq, hfind, Option.map_none]

/-- **Of the options with an empty path the first is named.** -/
theorem firstEmpty?_eq_some {o : Overrides} {before after : List PathRole} {role : PathRole}
    (order : PathRole.all = before ++ role :: after)
    (given : ∀ r ∈ before, o.path? r ≠ some ⟨""⟩) (empty : o.path? role = some ⟨""⟩) :
    o.firstEmpty? = some role.option := by
  have hfind : PathRole.all.find? (fun r => o.path? r == some ⟨""⟩) = some role := by
    rw [List.find?_eq_some_iff_append]
    refine ⟨by simp [empty], before, after, order, ?_⟩
    intro r hr
    simp [given r hr]
  rw [firstEmpty?_eq, hfind, Option.map_some]

theorem message_optionEmpty (option : String) :
    (Problem.optionEmpty option).message = "'" ++ option ++ "' must not be empty" := rfl

/-! ### Blank settings -/

/-- The options that replace settings leave the paths of the configuration as they are. -/
theorem firstBlank?_applyTo (o : Overrides) (c : Config) :
    (o.applyTo c).firstBlank? = c.firstBlank? := rfl

theorem firstBlank?_default : Config.default.firstBlank? = none := by decide

end Cli

namespace Host

open Cli

variable {σ : Type} {host : Host (StateM σ)} {request : AnalyzeRequest}

theorem firstBlank?_of_run_readConfig {file : Path} {config : Config} {s s' : σ}
    (h : (host.readConfig file).run s = (.ok config, s')) : config.firstBlank? = none := by
  rcases hread : (host.readText file).run s with ⟨content, s₁⟩
  rw [readConfig, run_bind_of_run hread] at h
  cases content with
  | error reason => cases h
  | ok text =>
      dsimp only at h
      split at h
      · cases h
      · split at h
        · cases h
        · rename_i hblank
          cases h
          exact hblank

/-- **A configuration that is loaded has no blank path.** -/
theorem firstBlank?_of_run_loadConfig {cwd : Path} {loaded : LoadedConfig} {s s' : σ}
    (h : (host.loadConfig cwd).run s = (.ok loaded, s')) : loaded.config.firstBlank? = none := by
  rcases hfind : (host.findConfig cwd).run s with ⟨found, s₁⟩
  rw [loadConfig, run_bind_of_run hfind] at h
  cases found with
  | none =>
      cases h
      exact firstBlank?_default
  | some file =>
      rcases hread : (host.readConfig file).run s₁ with ⟨result, s₂⟩
      change (host.readConfig file >>= _).run s₁ = _ at h
      rw [run_bind_of_run hread] at h
      cases result with
      | error problem => cases h
      | ok config =>
          cases h
          exact firstBlank?_of_run_readConfig hread

end Host

namespace Cli

/-! ### Settings -/

/-- The settings of a run where nothing is refused. -/
theorem exists_settings {loaded : LoadedConfig} {o : Overrides} (cwd : Path)
    (valid : loaded.config.firstBlank? = none) (given : ∀ role, o.path? role ≠ some ⟨""⟩) :
    ∃ settings, Settings.effective loaded cwd o = .ok settings ∧
      (∀ role, pathOf settings.paths role =
        match o.path? role with
        | some p => if p.isAbsolute then p else cwd.join p
        | none => Config.resolvePath loaded.root (pathText loaded.config role)) ∧
      settings.scanner = o.scanner.getD loaded.config.scanner ∧
      settings.limits.unused = (o.maxUnused.getD loaded.config.maxUnused).toNat ∧
      settings.limits.used = (o.maxUsed.getD loaded.config.maxUsed).toNat := by
  refine ⟨{
    paths := o.pathsOver cwd ((o.applyTo loaded.config).resolve loaded.root)
    scanner := _
    limits := ⟨_, _⟩ }, ?_, ?_, rfl, rfl, rfl⟩
  · simp only [Settings.effective, firstBlank?_applyTo, valid, firstEmpty?_eq_none given]
    rfl
  · intro role
    rw [pathOf_pathsOver, pathOf_resolve]
    rfl

theorem effective_of_empty {loaded : LoadedConfig} {o : Overrides} {option : ValueOption}
    (cwd : Path) (valid : loaded.config.firstBlank? = none)
    (empty : o.firstEmpty? = some option) :
    Settings.effective loaded cwd o = .error (.optionEmpty ("--" ++ option.name)) := by
  simp only [Settings.effective, firstBlank?_applyTo, valid, empty]

end Cli

namespace Host

open Cli

variable {σ : Type} {host : Host (StateM σ)} {request : AnalyzeRequest}

/-- **The command line goes over the configuration**, each setting for itself. If every path
on the command line has some text, the run works with the settings so decided: a path that
is given is taken from the working directory, any other from the root of the project; the
preference and the limits are those given or else those configured. Otherwise the first
option without a path is named and the run ends in the state in which the configuration was
loaded, so nothing has been asked of the host since. No option can make a configuration
that was loaded blank. -/
theorem command_line_over_configuration {cwd : Path} {loaded : LoadedConfig} {s s₁ s₂ : σ}
    (directory : host.workingDirectory.run s = (.ok cwd, s₁))
    (load : (host.loadConfig cwd).run s₁ = (.ok loaded, s₂)) :
    ((∀ role, request.overrides.path? role ≠ some ⟨""⟩) →
      ∃ settings : Settings,
        (∀ role, pathOf settings.paths role =
          match request.overrides.path? role with
          | some p => if p.isAbsolute then p else cwd.join p
          | none => Config.resolvePath loaded.root (pathText loaded.config role)) ∧
        settings.scanner = request.overrides.scanner.getD loaded.config.scanner ∧
        settings.limits.unused =
          (request.overrides.maxUnused.getD loaded.config.maxUnused).toNat ∧
        settings.limits.used = (request.overrides.maxUsed.getD loaded.config.maxUsed).toNat ∧
        ∀ result s', (host.report settings request.rgPath).run s₂ = (result, s') →
          (host.analyze request).run s =
            (match result with
              | .error problem => .ofProblem (configNote request.verbose loaded) problem
              | .ok audit => auditOutput audit settings.limits request.verbose
                  (configNote request.verbose loaded), s')) ∧
    (∀ before role after, PathRole.all = before ++ role :: after →
      (∀ r ∈ before, request.overrides.path? r ≠ some ⟨""⟩) →
      request.overrides.path? role = some ⟨""⟩ →
      (host.analyze request).run s =
        (⟨.error, [], configNote request.verbose loaded ++ [Console.line
          ("Error: " ++ ("'" ++ ("--" ++ role.option.name) ++ "' must not be empty"))]⟩, s₂)) ∧
    ∀ o : Overrides, (o.applyTo loaded.config).firstBlank? = none := by
  have valid := firstBlank?_of_run_loadConfig load
  refine ⟨?_, ?_, ?_⟩
  · intro given
    obtain ⟨settings, effective, hpaths, hscanner, hunused, hused⟩ :=
      exists_settings cwd valid given
    refine ⟨settings, hpaths, hscanner, hunused, hused, ?_⟩
    intro result s' reported
    have hrun := run_analyze_of_settles ⟨cwd, s₁, directory, load, effective⟩ reported
    cases result with
    | error problem => exact hrun
    | ok audit => exact hrun
  · intro before role after order given empty
    have refused := effective_of_empty cwd valid (firstEmpty?_eq_some order given empty)
    have hrun := run_analyze_of_analyzeEnds (.unsettled directory load refused)
    rw [Output.ofProblem, message_optionEmpty] at hrun
    exact hrun
  · intro o
    rw [firstBlank?_applyTo, valid]

end Host

/-! ### A configuration above the working directory -/

namespace Files

open Cli

/-- A project that names its sources and how many keys are shown. -/
def sampleConfigured : Files :=
  [((Path.mk "/work/.unusedi18nrc.json").components,
    "\x7b\"sourceRoot\": \"./lib\", \"maxUnusedPreview\": 3\x7d")]

/-- The host that is asked from below the project. -/
def sampleBelow : Host (StateM Files) := host ⟨"/work/app"⟩ (.directory [])

/-- A report beside the working directory, locale files elsewhere, and more keys. -/
def sampleGiven : AnalyzeRequest where
  overrides := {
    enMessages := some ⟨"/i18n/en.json"⟩, report := some ⟨"../out.txt"⟩, maxUnused := some 7 }

/-- Two empty paths. -/
def sampleEmpty : AnalyzeRequest where
  overrides := { sourceRoot := some ⟨""⟩, report := some ⟨""⟩ }

/-- What the project says over the defaults. -/
def sampleLoaded : LoadedConfig where
  config := { Config.default with sourceRoot := "./lib", maxUnused := 3 }
  fromFile := true
  root := ⟨"/work"⟩

theorem loadConfig_sampleConfigured :
    (sampleBelow.loadConfig ⟨"/work/app"⟩).run sampleConfigured =
      (.ok sampleLoaded, sampleConfigured) := by
  have hrun : ((sampleBelow.loadConfig ⟨"/work/app"⟩).run sampleConfigured).1.toOption =
      some sampleLoaded ∧
      ((sampleBelow.loadConfig ⟨"/work/app"⟩).run sampleConfigured).2 = sampleConfigured := by
    decide +kernel
  rcases h : (sampleBelow.loadConfig ⟨"/work/app"⟩).run sampleConfigured with ⟨result, files⟩
  rw [h] at hrun
  cases result with
  | error problem => cases hrun.1
  | ok loaded =>
      obtain ⟨hloaded, hfiles⟩ := hrun
      cases hloaded
      cases hfiles
      rfl

/-- The locale file and the report are those given, the sources those configured and the
other locale file that of the defaults; of two empty paths the first is named. -/
theorem command_line_over_sampleConfigured :
    (∃ settings : Settings,
      settings.paths = ⟨⟨"/i18n/en.json"⟩, ⟨"/work/messages/tr.json"⟩, ⟨"/work/lib"⟩,
        ⟨"/work/app/../out.txt"⟩⟩ ∧
      settings.scanner = .auto ∧ settings.limits = ⟨7, 10⟩) ∧
    (sampleBelow.analyze sampleEmpty).run sampleConfigured =
      (⟨.error, [], [Console.line "Error: '--source-root' must not be empty"]⟩,
        sampleConfigured) := by
  have runs (request : AnalyzeRequest) :=
    @Host.command_line_over_configuration _ sampleBelow request ⟨"/work/app"⟩ sampleLoaded
      sampleConfigured sampleConfigured sampleConfigured rfl loadConfig_sampleConfigured
  constructor
  · have given : ∀ role, sampleGiven.overrides.path? role ≠ some ⟨""⟩ := by
      intro role
      cases role <;> decide
    obtain ⟨settings, hpaths, hscanner, hunused, hused, -⟩ := (runs sampleGiven).1 given
    refine ⟨settings, ?_, hscanner, ?_⟩
    · rcases hp : settings.paths with ⟨en, tr, root, report⟩
      rw [hp] at hpaths
      have hen : en = _ := hpaths .enMessages
      have htr : tr = _ := hpaths .trMessages
      have hroot : root = _ := hpaths .sourceRoot
      have hreport : report = _ := hpaths .report
      rw [hen, htr, hroot, hreport]
      decide +kernel
    · rcases hl : settings.limits with ⟨unused, used⟩
      rw [hl] at hunused hused
      cases hunused
      cases hused
      rfl
  · have hbefore : ∀ r ∈ [PathRole.enMessages, .trMessages],
        sampleEmpty.overrides.path? r ≠ some ⟨""⟩ := by decide
    exact (runs sampleEmpty).2.1 [.enMessages, .trMessages] .sourceRoot [.report] rfl hbefore rfl

end Files

end KeyAudit
