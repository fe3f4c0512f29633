/-
How the command `analyze` ends, whatever the host does: `Host.AnalyzeEnds` has a case for
each stage at which it can stop, and a run ends exactly as one of them says
(`run_analyze_iff`).

On a host that keeps its files in a storage, every stage but the last leaves the disk as
it is, and the last one writes a single file. So a command that cannot be carried out has
changed no file and shown nothing on its standard output, and one that is carried out has
written the report of the very audit that it shows
(`analyze_reports_or_leaves_no_trace`).
-/

import KeyAudit.Proofs.Host.Memory
import KeyAudit.Proofs.Scan.Fallback

namespace KeyAudit

open KeyAudit.Cli

namespace Host

variable {σ : Type} (host : Host (StateM σ)) (request : AnalyzeRequest)

/-! ### The ways the command ends -/

/-- From one state, a working directory and a configuration are found, and they decide the
settings; the other state is left. -/
def Settles (s : σ) (loaded : LoadedConfig) (settings : Settings) (s' : σ) : Prop :=
  ∃ cwd s₁, host.workingDirectory.run s = (.ok cwd, s₁) ∧
    (host.loadConfig cwd).run s₁ = (.ok loaded, s') ∧
    Settings.effective loaded cwd request.overrides = .ok settings

/-- From the state, settings are decided that have the report at this path. -/
def ReportsAt (s : σ) (p : Path) : Prop :=
  ∃ loaded settings s', host.Settles request s loaded settings s' ∧ settings.paths.report = p

/-- The command, started in one state, ends with this output in the other. -/
inductive AnalyzeEnds (s : σ) : Output → σ → Prop where
  | nowhere {reason : OsError} {s' : σ} : host.workingDirectory.run s = (.error reason, s') →
      AnalyzeEnds s (.ofProblem [] (.noWorkingDirectory reason)) s'
  | unconfigured {cwd : Path} {problem : Problem} {s₁ s' : σ} :
      host.workingDirectory.run s = (.ok cwd, s₁) →
      (host.loadConfig cwd).run s₁ = (.error problem, s') →
      AnalyzeEnds s (.ofProblem [] problem) s'
  | unsettled {cwd : Path} {loaded : LoadedConfig} {problem : Problem} {s₁ s' : σ} :
      host.workingDirectory.run s = (.ok cwd, s₁) →
      (host.loadConfig cwd).run s₁ = (.ok loaded, s') →
      Settings.effective loaded cwd request.overrides = .error problem →
      AnalyzeEnds s (.ofProblem (configNote request.verbose loaded) problem) s'
  | unscanned {loaded : LoadedConfig} {settings : Settings} {problem : Problem} {s₁ s' : σ} :
      host.Settles request s loaded settings s₁ →
      (host.audit settings.paths settings.scanner request.rgPath).run s₁ = (.error problem, s') →
      AnalyzeEnds s (.ofProblem (configNote request.verbose loaded) problem) s'
  | unwritten {loaded : LoadedConfig} {settings : Settings} {audit : Audit} {generatedAt : String}
      {reason : OsError} {s₁ s₂ s₃ s' : σ} : host.Settles request s loaded settings s₁ →
      (host.audit settings.paths settings.scanner request.rgPath).run s₁ = (.ok audit, s₂) →
      host.now.run s₂ = (generatedAt, s₃) →
      (host.write settings.paths.report (Report.render audit.analysis generatedAt)).run s₃ =
        (.error reason, s') →
      AnalyzeEnds s (.ofProblem (configNote request.verbose loaded)
        (.reportNotWritten settings.paths.report reason)) s'
  | reported {loaded : LoadedConfig} {settings : Settings} {audit : Audit} {generatedAt : String}
      {s₁ s₂ s₃ s' : σ} : host.Settles request s loaded settings s₁ →
      (host.audit settings.paths settings.scanner request.rgPath).run s₁ = (.ok audit, s₂) →
      host.now.run s₂ = (generatedAt, s₃) →
      (host.write settings.paths.report (Report.render audit.analysis generatedAt)).run s₃ =
        (.ok (), s') →
      AnalyzeEnds s (auditOutput audit settings.limits request.verbose
        (configNote request.verbose loaded)) s'

variable {host request}

/-! ### The report of an audit -/

theorem paths_of_run_audit {paths : AuditPaths} {preference : Scanner.Preference}
    {program : Path} {audit : Audit} {s s' : σ}
    (h : (host.audit paths preference program).run s = (.ok audit, s')) : audit.paths = paths := by
  obtain ⟨en, s₁, tr, s₂, scanned, -, -, -, hresult⟩ := run_audit_iff.mp h
  cases scanned with
  | error problem => cases hresult
  | ok scan =>
      cases hresult
      rfl

theorem run_report_of_audit_error {settings : Settings} {program : Path} {problem : Problem}
    {s s' : σ}
    (h : (host.audit settings.paths settings.scanner program).run s = (.error problem, s')) :
    (host.report settings program).run s = (.error problem, s') := by
  rw [report, run_bind_of_run h]
  rfl

theorem run_writeReport_of_written {file : Path} {analysis : Analysis} {generatedAt : String}
    {result : Except OsError Unit} {s s' : σ}
    (h : (host.write file (Report.render analysis generatedAt)).run s = (result, s')) :
    (host.writeReport file analysis generatedAt).run s =
      (result.mapError (.reportNotWritten file), s') := by
  rw [writeReport, run_bind_of_run h]
  cases result <;> rfl

/-- An audit that is carried out is reported at the path of the settings. -/
theorem run_report_of_audit_ok {settings : Settings} {program : Path} {audit : Audit}
    {generatedAt : String} {result : Except OsError Unit} {s s₁ s₂ s' : σ}
    (audited : (host.audit settings.paths settings.scanner program).run s = (.ok audit, s₁))
    (clock : host.now.run s₁ = (generatedAt, s₂))
    (written : (host.write settings.paths.report
      (Report.render audit.analysis generatedAt)).run s₂ = (result, s')) :
    (host.report settings program).run s =
      ((result.mapError (.reportNotWritten settings.paths.report)).map fun _ => audit, s') := by
  rw [← paths_of_run_audit audited] at written
  rw [report, run_bind_of_run audited]
  change (host.now >>= _).run s₁ = _
  rw [run_bind_of_run clock, run_bind_of_run (run_writeReport_of_written written),
    paths_of_run_audit audited]
  cases result <;> rfl

/-! ### The command -/

theorem run_analyze_of_directory {cwd : Path} {s s₁ : σ}
    (directory : host.workingDirectory.run s = (.ok cwd, s₁)) :
    (host.analyze request).run s = (host.analyzeFrom cwd request).run s₁ := by
  rw [analyze, run_bind_of_run directory]

theorem run_analyze_of_settles {loaded : LoadedConfig} {settings : Settings}
    {result : Except Problem Audit} {s s₁ s' : σ}
    (settles : host.Settles request s loaded settings s₁)
    (reported : (host.report settings request.rgPath).run s₁ = (result, s')) :
    (host.analyze request).run s =
      (match result with
        | .error problem => .ofProblem (configNote request.verbose loaded) problem
        | .ok audit => auditOutput audit settings.limits request.verbose
            (configNote request.verbose loaded), s') := by
  obtain ⟨cwd, s₂, directory, load, effective⟩ := settles
  rw [run_analyze_of_directory directory, analyzeFrom, run_bind_of_run load]
  simp only [effective]
  rw [run_bind_of_run reported]
  cases result <;> rfl

theorem run_analyze_of_analyzeEnds {output : Output} {s s' : σ}
    (h : host.AnalyzeEnds request s output s') : (host.analyze request).run s = (output, s') := by
  cases h with
  | nowhere directory =>
      rw [analyze, run_bind_of_run directory]
      rfl
  | unconfigured directory load =>
      rw [run_analyze_of_directory directory, analyzeFrom, run_bind_of_run load]
      rfl
  | unsettled directory load effective =>
      rw [run_analyze_of_directory directory, analyzeFrom, run_bind_of_run load]
      simp only [effective]
      rfl
  | unscanned settles failed =>
      exact run_analyze_of_settles settles (run_report_of_audit_error failed)
  | unwritten settles audited clock refused =>
      exact run_analyze_of_settles settles (run_report_of_audit_ok audited clock refused)
  | reported settles audited clock written =>
      exact run_analyze_of_settles settles (run_report_of_audit_ok audited clock written)

/-- **Every run ends in one of the ways.** -/
theorem analyze_ends (host : Host (StateM σ)) (request : AnalyzeRequest) (s : σ) :
    ∃ output s', host.AnalyzeEnds request s output s' := by
  rcases directory : host.workingDirectory.run s with ⟨reason | cwd, s₁⟩
  · exact ⟨_, s₁, .nowhere directory⟩
  rcases load : (host.loadConfig cwd).run s₁ with ⟨problem | loaded, s₂⟩
  · exact ⟨_, s₂, .unconfigured directory load⟩
  cases effective : Settings.effective loaded cwd request.overrides with
  | error problem => exact ⟨_, s₂, .unsettled directory load effective⟩
  | ok settings =>
      have settles : host.Settles request s loaded settings s₂ :=
        ⟨cwd, s₁, directory, load, effective⟩
      rcases audited : (host.audit settings.paths settings.scanner request.rgPath).run s₂ with
        ⟨problem | audit, s₃⟩
      · exact ⟨_, s₃, .unscanned settles audited⟩
      rcases clock : host.now.run s₃ with ⟨generatedAt, s₄⟩
      rcases write : (host.write settings.paths.report
        (Report.render audit.analysis generatedAt)).run s₄ with ⟨reason | ⟨⟩, s'⟩
      · exact ⟨_, s', .unwritten settles audited clock write⟩
      · exact ⟨_, s', .reported settles audited clock write⟩

/-- **A run ends exactly where one of the ways leads.** -/
theorem run_analyze_iff {output : Output} {s s' : σ} :
    (host.analyze request).run s = (output, s') ↔ host.AnalyzeEnds request s output s' := by
  constructor
  · intro h
    obtain ⟨output', s'', ends⟩ := analyze_ends host request s
    have h' := run_analyze_of_analyzeEnds ends
    rw [h] at h'
    cases h'
    exact ends
  · exact run_analyze_of_analyzeEnds

/-! ### The status -/

/-- Neither locale file holds messages that can be read, the English one in this state and
the Turkish one in the state that is left then. -/
def LacksLocales (host : Host (StateM σ)) (paths : AuditPaths) (s : σ) : Prop :=
  ∃ problem s₁, (host.readMessages paths.enMessages).run s = (.error problem, s₁) ∧
    ∃ problem' s₂, (host.readMessages paths.trMessages).run s₁ = (.error problem', s₂)

theorem hasLocaleData_ofParts {paths : AuditPaths} {en tr : LocaleLoad} {scan : SourceScan} :
    (Audit.ofParts paths en tr scan).hasLocaleData = (en.isLoaded || tr.isLoaded) := by
  cases hen : en.isLoaded <;> cases htr : tr.isLoaded <;>
    simp [Audit.hasLocaleData, Audit.ofParts, hen, htr]

theorem isLoaded_ofResult {locale : Locale} {file : Path} {result : Except Problem Messages} :
    (LocaleLoad.ofResult locale file result).isLoaded = result.isOk := by
  cases result <;> rfl

/-- An audit that was carried out is no error. -/
theorem ofAudit_ne_error {audit : Audit} : ExitStatus.ofAudit audit ≠ .error := by
  unfold ExitStatus.ofAudit
  split
  · exact nofun
  · exact nofun

/-- **An audit fails exactly if neither locale file could be loaded.** -/
theorem ofAudit_eq_failure_iff {paths : AuditPaths} {preference : Scanner.Preference}
    {program : Path} {audit : Audit} {s s' : σ}
    (h : (host.audit paths preference program).run s = (.ok audit, s')) :
    ExitStatus.ofAudit audit = .failure ↔ host.LacksLocales paths s := by
  rcases english : (host.readMessages paths.enMessages).run s with ⟨en, s₁⟩
  rcases turkish : (host.readMessages paths.trMessages).run s₁ with ⟨tr, s₂⟩
  obtain ⟨en', _, tr', _, scanned, hen, htr, -, hresult⟩ := run_audit_iff.mp h
  rw [run_loadLocale english] at hen
  cases hen
  rw [run_loadLocale turkish] at htr
  cases htr
  cases scanned with
  | error problem => cases hresult
  | ok scan =>
      cases hresult
      unfold ExitStatus.ofAudit LacksLocales
      rw [hasLocaleData_ofParts, isLoaded_ofResult, isLoaded_ofResult, english]
      constructor
      · intro hfailure
        cases en with
        | ok messages => cases hfailure
        | error problem =>
            cases tr with
            | ok messages => cases hfailure
            | error problem' => exact ⟨problem, s₁, rfl, problem', s₂, turkish⟩
      · rintro ⟨problem, s₃, hen, problem', s₄, htr⟩
        cases hen
        rw [turkish] at htr
        cases htr
        rfl

/-! ### The contract -/

section Disk

variable {storage : Storage σ} {written : Path → Prop}
  (stored : host.StoredIn storage request.rgPath written)

include stored

/-- Whatever comes of loading a configuration, the disk is as it was. -/
theorem StoredIn.disk_of_load {cwd : Path} {result : Except Problem LoadedConfig} {s s₁ s' : σ}
    (directory : host.workingDirectory.run s = (.ok cwd, s₁))
    (load : (host.loadConfig cwd).run s₁ = (result, s')) : storage.disk s' = storage.disk s := by
  calc storage.disk s'
      = storage.disk s₁ := (stored.loadConfig cwd).eq_of_run load
    _ = storage.disk s := stored.workingDirectory.eq_of_run directory

/-- Whatever comes of the audit, the disk is as it was. -/
theorem StoredIn.disk_of_audit {loaded : LoadedConfig} {settings : Settings}
    {result : Except Problem Audit} {s s₁ s' : σ}
    (settles : host.Settles request s loaded settings s₁)
    (audited : (host.audit settings.paths settings.scanner request.rgPath).run s₁ = (result, s')) :
    storage.disk s' = storage.disk s := by
  obtain ⟨cwd, s₂, directory, load, -⟩ := settles
  calc storage.disk s'
      = storage.disk s₁ := (stored.audit _ _).eq_of_run audited
    _ = storage.disk s := stored.disk_of_load directory load

end Disk

/-- **The command reports or leaves no trace.** If it cannot be carried out, the disk is as
it was and nothing is shown. Otherwise there is one audit, with the settings that
configuration and command line decide: the file at the path of the report holds its report
and nothing else, all other files are as they were, what is shown is its analysis within
the limits, and the command fails exactly if neither locale file could be loaded. Where
every stage succeeds, the command is carried out. Of the host it is asked only that looking
and running the program of the request change nothing, and what a write does at the path of
the report. -/
theorem analyze_reports_or_leaves_no_trace {storage : Storage σ} {output : Output} {s s' : σ}
    (stored : host.StoredIn storage request.rgPath (host.ReportsAt request s))
    (hrun : (host.analyze request).run s = (output, s')) :
    (output.status = .error → storage.disk s' = storage.disk s ∧ output.stdout = []) ∧
    (output.status ≠ .error → ∃ loaded settings s₁ audit s₂ generatedAt s₃,
      host.Settles request s loaded settings s₁ ∧
      (host.audit settings.paths settings.scanner request.rgPath).run s₁ = (.ok audit, s₂) ∧
      host.now.run s₂ = (generatedAt, s₃) ∧
      storage.content (storage.disk s') (storage.place (storage.disk s) settings.paths.report) =
        some (Report.render audit.analysis generatedAt).toUTF8 ∧
      (∀ other, other ≠ storage.place (storage.disk s) settings.paths.report →
        storage.content (storage.disk s') other = storage.content (storage.disk s) other) ∧
      output.stdout = Console.analysis audit settings.limits ∧
      (output.status = .failure ↔ host.LacksLocales settings.paths s₁)) ∧
    ∀ loaded settings s₁ audit s₂ generatedAt s₃ s₄,
      host.Settles request s loaded settings s₁ →
      (host.audit settings.paths settings.scanner request.rgPath).run s₁ = (.ok audit, s₂) →
      host.now.run s₂ = (generatedAt, s₃) →
      (host.write settings.paths.report (Report.render audit.analysis generatedAt)).run s₃ =
        (.ok (), s₄) →
      output.status ≠ .error := by
  refine ⟨?_, ?_, ?_⟩
  · intro herror
    cases run_analyze_iff.mp hrun with
    | nowhere directory => exact ⟨stored.workingDirectory.eq_of_run directory, rfl⟩
    | unconfigured directory load => exact ⟨stored.disk_of_load directory load, rfl⟩
    | unsettled directory load _ => exact ⟨stored.disk_of_load directory load, rfl⟩
    | unscanned settles failed => exact ⟨stored.disk_of_audit settles failed, rfl⟩
    | unwritten settles audited clock refused =>
        have hclock := stored.now.eq_of_run clock
        have hwrite := stored.refused ⟨_, _, _, settles, rfl⟩ refused
        exact ⟨(hwrite.trans hclock).trans (stored.disk_of_audit settles audited), rfl⟩
    | reported => exact absurd herror ofAudit_ne_error
  · intro hne
    cases run_analyze_iff.mp hrun with
    | nowhere | unconfigured | unsettled | unscanned | unwritten => exact absurd rfl hne
    | @reported loaded settings audit generatedAt s₁ s₂ s₃ _ settles audited clock written =>
        have hdisk := (stored.now.eq_of_run clock).trans (stored.disk_of_audit settles audited)
        obtain ⟨hreport, hothers⟩ := stored.stored ⟨_, _, _, settles, rfl⟩ written
        rw [hdisk] at hreport hothers
        exact ⟨loaded, settings, s₁, audit, s₂, generatedAt, s₃, settles, audited, clock, hreport,
          hothers, rfl, ofAudit_eq_failure_iff audited⟩
  · intro loaded settings s₁ audit s₂ generatedAt s₃ s₄ settles audited clock written
    have hrun' := run_analyze_of_analyzeEnds (.reported settles audited clock written)
    rw [hrun] at hrun'
    cases hrun'
    exact ofAudit_ne_error

end Host

/-! ### A run that reports and one that does not -/

namespace Files

/-- One locale file, and a report of another time. -/
def sampleProject : Files :=
  [((Path.mk "/work/messages/en.json").components, "\x7b\"a\": 1\x7d"),
    ((Path.mk "/work/translation_analysis_report.txt").components, "old")]

/-- The host of the project, whose sources are one empty directory. -/
def sampleHost : Host (StateM Files) := host ⟨"/work"⟩ (.directory [])

/-- A report without a path is asked for. -/
def sampleRefused : AnalyzeRequest := { overrides := { report := some ⟨""⟩ } }

/-- A report is asked for in the place of the directory that holds the locale file. -/
def sampleMisplaced : AnalyzeRequest := { overrides := { report := some ⟨"messages"⟩ } }

theorem status_sampleProject :
    ((sampleHost.analyze {}).run sampleProject).1.status = .success := by
  decide +kernel

theorem status_sampleRefused :
    ((sampleHost.analyze sampleRefused).run sampleProject).1.status = .error := by
  decide +kernel

theorem status_sampleMisplaced :
    ((sampleHost.analyze sampleMisplaced).run sampleProject).1.status = .error := by
  decide +kernel

/-- A report that replaces another, a command that is refused before the scan, and a report
that is refused after it. -/
theorem analyze_in_sampleProject :
    (∃ output files settings audit generatedAt,
      (sampleHost.analyze {}).run sampleProject = (output, files) ∧
      storage.content files (Path.components (AuditPaths.report (Settings.paths settings))) =
        some (Report.render (Audit.analysis audit) generatedAt).toUTF8 ∧
      output.stdout = Console.analysis audit settings.limits) ∧
    ∀ request ∈ [sampleRefused, sampleMisplaced],
      ∃ output, (sampleHost.analyze request).run sampleProject = (output, sampleProject) ∧
        output.status = .error ∧ output.stdout = [] := by
  constructor
  · have status := status_sampleProject
    rcases run : (sampleHost.analyze {}).run sampleProject with ⟨output, files⟩
    rw [run] at status
    have hne : output.status ≠ .error := fun herror => absurd (status.symm.trans herror) (by decide)
    obtain ⟨_, settings, _, audit, _, generatedAt, _, -, -, -, hreport, -, hstdout, -⟩ :=
      (Host.analyze_reports_or_leaves_no_trace (storedIn_memory _ _ _ _) run).2.1 hne
    exact ⟨output, files, settings, audit, generatedAt, rfl, hreport, hstdout⟩
  · intro request hrequest
    have status : ((sampleHost.analyze request).run sampleProject).1.status = .error := by
      simp only [List.mem_cons, List.not_mem_nil, or_false] at hrequest
      rcases hrequest with rfl | rfl
      · exact status_sampleRefused
      · exact status_sampleMisplaced
    rcases run : (sampleHost.analyze request).run sampleProject with ⟨output, files⟩
    rw [run] at status
    obtain ⟨hdisk, hstdout⟩ :=
      (Host.analyze_reports_or_leaves_no_trace (storedIn_memory _ _ _ _) run).1 status
    cases hdisk
    exact ⟨output, rfl, status, hstdout⟩

end Files

end KeyAudit
