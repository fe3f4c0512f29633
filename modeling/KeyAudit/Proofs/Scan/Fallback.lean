/-
How a scan of a source tree ends, whatever the host and the program do: `Host.ScanEnds` has
a case for each way, and a run of `scanSources` ends exactly as one of them says
(`run_scanSources_iff`).

The world may change at every step, so each case names the states that a scan passes
through. Where the program was chosen by a probe and one of its searches fails, the walk
starts over in the state that the failed search left; it does not run the program, and
what the first search had found is gone.
-/

import KeyAudit.Proofs.Audit.Parts

namespace KeyAudit

/-- A computation goes on in the state that its first step left. -/
theorem run_bind_of_run {σ α β : Type} {x : StateM σ α} {f : α → StateM σ β} {s s₁ : σ} {a : α}
    (h : x.run s = (a, s₁)) : (x >>= f).run s = (f a).run s₁ := by
  change (f (x.run s).1).run (x.run s).2 = (f a).run s₁
  rw [h]

namespace Host

variable {σ : Type} (host : Host (StateM σ)) (program root : Path)

/-! ### The ways a scan ends -/

/-- The two searches, run from one state, end with this result in the other. The first that
fails ends them, though the first of the two may have found something by then. -/
inductive SearchesEnd (s : σ) : Except Problem SourceScan → σ → Prop where
  | firstFails {problem : Problem} {s' : σ} :
      (host.search program root .mark).run s = (.error problem, s') →
      SearchesEnd s (.error problem) s'
  | secondFails {first : Ripgrep.Search} {problem : Problem} {s₁ s' : σ} :
      (host.search program root .mark).run s = (.ok first, s₁) →
      (host.search program root .lineEnd).run s₁ = (.error problem, s') →
      SearchesEnd s (.error problem) s'
  | bothFind {first second : Ripgrep.Search} {s₁ s' : σ} :
      (host.search program root .mark).run s = (.ok first, s₁) →
      (host.search program root .lineEnd).run s₁ = (.ok second, s') →
      SearchesEnd s (.ok ((Ripgrep.Search.start.add first).add second).scan) s'

/-- A scan that starts in one state ends with this result in the other. -/
inductive ScanEnds (s : σ) : Scanner.Preference → Except Problem SourceScan → σ → Prop where
  | missing {preference : Scanner.Preference} {s' : σ} :
      (host.isDirectory root).run s = (false, s') →
      ScanEnds s preference (.ok {
        keys := .empty
        files := none
        warnings := [⟨root.text, "Source directory does not exist"⟩]
        scanner := .walk
        fallback := none }) s'
  | walk {scan : SourceScan} {s₁ s' : σ} :
      (host.isDirectory root).run s = (true, s₁) →
      (host.scanByWalk root).run s₁ = (scan, s') →
      ScanEnds s .walk (.ok scan) s'
  | ripgrep {result : Except Problem SourceScan} {s₁ s' : σ} :
      (host.isDirectory root).run s = (true, s₁) →
      host.SearchesEnd program root s₁ result s' →
      ScanEnds s .ripgrep result s'
  | noProgram {scan : SourceScan} {s₁ s₂ s' : σ} :
      (host.isDirectory root).run s = (true, s₁) →
      (host.isAvailable program).run s₁ = (false, s₂) →
      (host.scanByWalk root).run s₂ = (scan, s') →
      ScanEnds s .auto (.ok scan) s'
  | program {scan : SourceScan} {s₁ s₂ s' : σ} :
      (host.isDirectory root).run s = (true, s₁) →
      (host.isAvailable program).run s₁ = (true, s₂) →
      host.SearchesEnd program root s₂ (.ok scan) s' →
      ScanEnds s .auto (.ok scan) s'
  | fallback {problem : Problem} {scan : SourceScan} {s₁ s₂ s₃ s' : σ} :
      (host.isDirectory root).run s = (true, s₁) →
      (host.isAvailable program).run s₁ = (true, s₂) →
      host.SearchesEnd program root s₂ (.error problem) s₃ →
      (host.scanByWalk root).run s₃ = (scan, s') →
      ScanEnds s .auto (.ok { scan with fallback := some problem.message }) s'

/-- The program was asked for by name, there is a directory to search, and a search fails. -/
def ScanFails (preference : Scanner.Preference) (s : σ) (problem : Problem) (s' : σ) : Prop :=
  preference = .ripgrep ∧ ∃ s₁, (host.isDirectory root).run s = (true, s₁) ∧
    host.SearchesEnd program root s₁ (.error problem) s'

variable {host program root}

/-! ### Both searches -/

theorem run_scanByRipgrep_of_searchesEnd {s s' : σ} {result : Except Problem SourceScan}
    (h : host.SearchesEnd program root s result s') :
    (host.scanByRipgrep program root).run s = (result, s') := by
  unfold scanByRipgrep Reference.Closing.all
  cases h with
  | @firstFails problem _ first =>
      have ends : (host.searchAll program root [.mark, .lineEnd] .start).run s =
          (.error problem, s') := by
        rw [searchAll, run_bind_of_run first]
        rfl
      rw [run_bind_of_run ends]
      rfl
  | @secondFails found problem _ _ first second =>
      have ends : (host.searchAll program root [.mark, .lineEnd] .start).run s =
          (.error problem, s') := by
        rw [searchAll, run_bind_of_run first]
        change (host.searchAll program root [.lineEnd] _).run _ = _
        rw [searchAll, run_bind_of_run second]
        rfl
      rw [run_bind_of_run ends]
      rfl
  | @bothFind found more _ _ first second =>
      have ends : (host.searchAll program root [.mark, .lineEnd] .start).run s =
          (.ok ((Ripgrep.Search.start.add found).add more), s') := by
        rw [searchAll, run_bind_of_run first]
        change (host.searchAll program root [.lineEnd] _).run _ = _
        rw [searchAll, run_bind_of_run second]
        rfl
      rw [run_bind_of_run ends]
      rfl

/-- Every run of the searches ends. -/
theorem searches_end (host : Host (StateM σ)) (program root : Path) (s : σ) :
    ∃ result s', host.SearchesEnd program root s result s' := by
  rcases first : (host.search program root .mark).run s with ⟨problem | found, s₁⟩
  · exact ⟨_, s₁, .firstFails first⟩
  · rcases second : (host.search program root .lineEnd).run s₁ with ⟨problem | more, s'⟩
    · exact ⟨_, s', .secondFails first second⟩
    · exact ⟨_, s', .bothFind first second⟩

theorem run_scanByRipgrep_iff {s s' : σ} {result : Except Problem SourceScan} :
    (host.scanByRipgrep program root).run s = (result, s') ↔
      host.SearchesEnd program root s result s' := by
  constructor
  · intro h
    obtain ⟨result', s'', ends⟩ := host.searches_end program root s
    have h' := run_scanByRipgrep_of_searchesEnd ends
    rw [h] at h'
    cases h'
    exact ends
  · exact run_scanByRipgrep_of_searchesEnd

/-! ### The scan -/

theorem run_selectScanner_auto {available : Bool} {s s' : σ}
    (h : (host.isAvailable program).run s = (available, s')) :
    (host.selectScanner .auto program).run s = (if available then .ripgrep else .walk, s') := by
  rw [selectScanner, run_bind_of_run h]
  rfl

theorem run_scanWith_walk {scan : SourceScan} {s s' : σ}
    (h : (host.scanByWalk root).run s = (scan, s')) :
    (host.scanWith .walk program root).run s = (.ok scan, s') := by
  rw [scanWith, run_bind_of_run h]
  rfl

section Directory

variable {preference : Scanner.Preference} {scanner : Scanner} {s s₁ s₂ s₃ : σ}

theorem run_scanSources_of_ok {scan : SourceScan}
    (directory : (host.isDirectory root).run s = (true, s₁))
    (select : (host.selectScanner preference program).run s₁ = (scanner, s₂))
    (scanned : (host.scanWith scanner program root).run s₂ = (.ok scan, s₃)) :
    (host.scanSources root preference program).run s = (.ok scan, s₃) := by
  rw [scanSources, run_bind_of_run directory]
  change (host.selectScanner preference program >>= _).run s₁ = _
  rw [run_bind_of_run select, run_bind_of_run scanned]
  rfl

/-- A scanner that was asked for by name is not replaced. -/
theorem run_scanSources_of_error {problem : Problem}
    (directory : (host.isDirectory root).run s = (true, s₁))
    (scanned : (host.scanByRipgrep program root).run s₁ = (.error problem, s₂)) :
    (host.scanSources root .ripgrep program).run s = (.error problem, s₂) := by
  have select : (host.selectScanner .ripgrep program).run s₁ = (.ripgrep, s₁) := rfl
  rw [scanSources, run_bind_of_run directory]
  change (host.selectScanner .ripgrep program >>= _).run s₁ = _
  rw [run_bind_of_run select, scanWith, run_bind_of_run scanned]
  rfl

theorem run_scanSources_of_fallback {problem : Problem} {scan : SourceScan} {s' : σ}
    (directory : (host.isDirectory root).run s = (true, s₁))
    (available : (host.isAvailable program).run s₁ = (true, s₂))
    (scanned : (host.scanByRipgrep program root).run s₂ = (.error problem, s₃))
    (walked : (host.scanByWalk root).run s₃ = (scan, s')) :
    (host.scanSources root .auto program).run s =
      (.ok { scan with fallback := some problem.message }, s') := by
  have select : (host.selectScanner .auto program).run s₁ = (.ripgrep, s₂) :=
    run_selectScanner_auto available
  rw [scanSources, run_bind_of_run directory]
  change (host.selectScanner .auto program >>= _).run s₁ = _
  rw [run_bind_of_run select, scanWith, run_bind_of_run scanned]
  change (host.scanByWalk root >>= _).run s₃ = _
  rw [run_bind_of_run walked]
  rfl

end Directory

theorem run_scanSources_of_scanEnds {preference : Scanner.Preference} {s s' : σ}
    {result : Except Problem SourceScan}
    (h : host.ScanEnds program root s preference result s') :
    (host.scanSources root preference program).run s = (result, s') := by
  cases h with
  | missing directory =>
      rw [scanSources, run_bind_of_run directory]
      rfl
  | walk directory walked => exact run_scanSources_of_ok directory rfl (run_scanWith_walk walked)
  | ripgrep directory ends =>
      have scanned := run_scanByRipgrep_of_searchesEnd ends
      cases result with
      | ok scan => exact run_scanSources_of_ok directory rfl scanned
      | error problem => exact run_scanSources_of_error directory scanned
  | noProgram directory available walked =>
      exact run_scanSources_of_ok directory (run_selectScanner_auto available)
        (run_scanWith_walk walked)
  | program directory available found =>
      exact run_scanSources_of_ok directory (run_selectScanner_auto available)
        (run_scanByRipgrep_of_searchesEnd found)
  | fallback directory available failed walked =>
      exact run_scanSources_of_fallback directory available
        (run_scanByRipgrep_of_searchesEnd failed) walked

/-- **Every scan ends in one of the ways.** -/
theorem scan_ends (host : Host (StateM σ)) (program root : Path)
    (preference : Scanner.Preference) (s : σ) :
    ∃ result s', host.ScanEnds program root s preference result s' := by
  rcases directory : (host.isDirectory root).run s with ⟨isDirectory, s₁⟩
  cases isDirectory with
  | false => exact ⟨_, s₁, .missing directory⟩
  | true =>
      cases preference with
      | walk => exact ⟨_, _, .walk directory rfl⟩
      | ripgrep =>
          obtain ⟨result, s', ends⟩ := host.searches_end program root s₁
          exact ⟨result, s', .ripgrep directory ends⟩
      | auto =>
          rcases available : (host.isAvailable program).run s₁ with ⟨isAvailable, s₂⟩
          cases isAvailable with
          | false => exact ⟨_, _, .noProgram directory available rfl⟩
          | true =>
              obtain ⟨result, s₃, ends⟩ := host.searches_end program root s₂
              cases result with
              | ok scan => exact ⟨_, s₃, .program directory available ends⟩
              | error problem => exact ⟨_, _, .fallback directory available ends rfl⟩

/-- **A scan ends with a result exactly where one of the ways leads to it.** -/
theorem run_scanSources_iff {preference : Scanner.Preference} {s s' : σ}
    {result : Except Problem SourceScan} :
    (host.scanSources root preference program).run s = (result, s') ↔
      host.ScanEnds program root s preference result s' := by
  constructor
  · intro h
    obtain ⟨result', s'', ends⟩ := host.scan_ends program root preference s
    have h' := run_scanSources_of_scanEnds ends
    rw [h] at h'
    cases h'
    exact ends
  · exact run_scanSources_of_scanEnds

theorem scanEnds_error_iff {preference : Scanner.Preference} {s s' : σ} {problem : Problem} :
    host.ScanEnds program root s preference (.error problem) s' ↔
      host.ScanFails program root preference s problem s' := by
  constructor
  · intro h
    cases h with
    | ripgrep directory failed => exact ⟨rfl, _, directory, failed⟩
  · rintro ⟨rfl, s₁, directory, failed⟩
    exact .ripgrep directory failed

/-! ### The walk alone -/

theorem readAll_withRun (run : Path → List String → StateM σ (Except OsError Finished))
    (files : List Path) :
    ({ host with run := run } : Host (StateM σ)).readAll files = host.readAll files := by
  induction files with
  | nil => rfl
  | cons file files ih =>
      rw [readAll, readAll, ih]
      rfl

/-- **A walk asks nothing of the program**, so nothing that the program said can show in it. -/
theorem scanByWalk_withRun (run : Path → List String → StateM σ (Except OsError Finished)) :
    ({ host with run := run } : Host (StateM σ)).scanByWalk root = host.scanByWalk root := by
  unfold scanByWalk
  simp only [readAll_withRun]
  rfl

/-! ### The audit -/

theorem run_loadLocale {locale : Locale} {file : Path} {result : Except Problem Messages}
    {s s' : σ} (h : (host.readMessages file).run s = (result, s')) :
    (host.loadLocale locale file).run s = (.ofResult locale file result, s') := by
  rw [loadLocale, run_bind_of_run h]
  rfl

/-- An audit ends as its scan does, with whatever the locales gave. -/
theorem run_audit_iff {paths : AuditPaths} {preference : Scanner.Preference} {s s' : σ}
    {result : Except Problem Audit} :
    (host.audit paths preference program).run s = (result, s') ↔
      ∃ en s₁ tr s₂ scanned, (host.loadLocale .english paths.enMessages).run s = (en, s₁) ∧
        (host.loadLocale .turkish paths.trMessages).run s₁ = (tr, s₂) ∧
        host.ScanEnds program paths.sourceRoot s₂ preference scanned s' ∧
        result = scanned.map (Audit.ofParts paths en tr) := by
  have hrun {en tr : LocaleLoad} {s₁ s₂ s₃ : σ} {scanned : Except Problem SourceScan}
      (english : (host.loadLocale .english paths.enMessages).run s = (en, s₁))
      (turkish : (host.loadLocale .turkish paths.trMessages).run s₁ = (tr, s₂))
      (ends : host.ScanEnds program paths.sourceRoot s₂ preference scanned s₃) :
      (host.audit paths preference program).run s =
        (scanned.map (Audit.ofParts paths en tr), s₃) := by
    rw [audit, run_bind_of_run english, run_bind_of_run turkish,
      run_bind_of_run (run_scanSources_of_scanEnds ends)]
    cases scanned <;> rfl
  constructor
  · intro h
    rcases english : (host.loadLocale .english paths.enMessages).run s with ⟨en, s₁⟩
    rcases turkish : (host.loadLocale .turkish paths.trMessages).run s₁ with ⟨tr, s₂⟩
    obtain ⟨scanned, s₃, ends⟩ := host.scan_ends program paths.sourceRoot preference s₂
    rw [hrun english turkish ends] at h
    cases h
    exact ⟨en, s₁, tr, s₂, scanned, rfl, turkish, ends, rfl⟩
  · rintro ⟨en, s₁, tr, s₂, scanned, english, turkish, ends, rfl⟩
    exact hrun english turkish ends

theorem run_audit_error_iff {paths : AuditPaths} {preference : Scanner.Preference} {s s' : σ}
    {problem : Problem} :
    (host.audit paths preference program).run s = (.error problem, s') ↔
      ∃ en s₁ tr s₂, (host.loadLocale .english paths.enMessages).run s = (en, s₁) ∧
        (host.loadLocale .turkish paths.trMessages).run s₁ = (tr, s₂) ∧
        host.ScanFails program paths.sourceRoot preference s₂ problem s' := by
  rw [run_audit_iff]
  constructor
  · rintro ⟨en, s₁, tr, s₂, scanned, english, turkish, ends, hresult⟩
    cases scanned with
    | error problem' =>
        cases hresult
        exact ⟨en, s₁, tr, s₂, english, turkish, scanEnds_error_iff.mp ends⟩
    | ok scan => cases hresult
  · rintro ⟨en, s₁, tr, s₂, english, turkish, fails⟩
    exact ⟨en, s₁, tr, s₂, _, english, turkish, scanEnds_error_iff.mpr fails, rfl⟩

/-! ### The contract -/

/-- **A scan falls back to the walk unless the program was asked for by name.** It ends in one
of the ways of `ScanEnds`, and the program's own scan in one of those of `SearchesEnd`. What a
walk gives has no fallback and nothing that the program said. Neither a scan nor an audit
fails but where the program was asked for by name, there is a directory, and a search fails. -/
theorem scan_falls_back (host : Host (StateM σ)) (paths : AuditPaths)
    (preference : Scanner.Preference) (program : Path) (s : σ) :
    (∀ result s', (host.scanSources paths.sourceRoot preference program).run s = (result, s') ↔
      host.ScanEnds program paths.sourceRoot s preference result s') ∧
    (∀ s₁ result s', (host.scanByRipgrep program paths.sourceRoot).run s₁ = (result, s') ↔
      host.SearchesEnd program paths.sourceRoot s₁ result s') ∧
    (∀ s₁, ((host.scanByWalk paths.sourceRoot).run s₁).1.scanner = .walk ∧
      ((host.scanByWalk paths.sourceRoot).run s₁).1.fallback = none) ∧
    (∀ run, ({ host with run := run } : Host (StateM σ)).scanByWalk paths.sourceRoot =
      host.scanByWalk paths.sourceRoot) ∧
    (∀ problem s',
      (host.scanSources paths.sourceRoot preference program).run s = (.error problem, s') ↔
        host.ScanFails program paths.sourceRoot preference s problem s') ∧
    ∀ problem s', (host.audit paths preference program).run s = (.error problem, s') ↔
      ∃ en s₁ tr s₂, (host.loadLocale .english paths.enMessages).run s = (en, s₁) ∧
        (host.loadLocale .turkish paths.trMessages).run s₁ = (tr, s₂) ∧
        host.ScanFails program paths.sourceRoot preference s₂ problem s' := by
  refine ⟨?_, ?_, ?_, ?_, ?_, ?_⟩
  · intro result s'
    exact run_scanSources_iff
  · intro s₁ result s'
    exact run_scanByRipgrep_iff
  · intro s₁
    exact ⟨rfl, rfl⟩
  · intro run
    exact scanByWalk_withRun run
  · intro problem s'
    rw [run_scanSources_iff]
    exact scanEnds_error_iff
  · intro problem s'
    exact run_audit_error_iff

end Host

/-! ### A second search that fails -/

namespace Fallback

/-- A host whose state counts the runs of its program. The program can be probed, its first
search finds a key, and the second one breaks down. -/
def sampleHost : Host (StateM Nat) where
  present _ := return false
  isDirectory _ := return true
  read _ := return .error .notFound
  survey _ := return .ok (.directory [])
  write _ _ := return .error .permissionDenied
  run _ _ := fun runs => match runs with
    | 0 => (.ok ⟨.exited 0, [], []⟩, 1)
    | 1 => (.ok ⟨.exited 0, "ghost\n".toUTF8.data.toList, []⟩, 2)
    | n => (.ok ⟨.killed 11 true, [], []⟩, n + 1)
  workingDirectory := return .ok ⟨"/"⟩
  now := return ""

theorem searchesEnd_sampleHost : sampleHost.SearchesEnd ⟨"rg"⟩ ⟨"src"⟩ 1
    (.error (.programFailed ⟨"rg"⟩ (.killed 11 true) "")) 3 := by
  apply Host.SearchesEnd.secondFails
  · rfl
  · rfl

theorem scanByWalk_sampleHost : (sampleHost.scanByWalk ⟨"src"⟩).run 3 =
    (⟨.empty, some 0, [], .walk, none⟩, 3) := by
  have survey : (sampleHost.survey ⟨"src"⟩).run 3 = (.ok (.directory []), 3) := rfl
  have collect : Walk.collect ⟨"src"⟩ (.ok (.directory [])) = ⟨[], []⟩ := by
    simp [Walk.collect, Walk.filesOf, Walk.filesOfEntries, Walk.warningsOf, Walk.warningsOfEntries]
  have collected : (sampleHost.collectSources ⟨"src"⟩).run 3 = (⟨[], []⟩, 3) := by
    rw [Host.collectSources, run_bind_of_run survey, collect]
    rfl
  rw [Host.scanByWalk, run_bind_of_run collected]
  rfl

/-- The key of the first search is gone, and the same failure ends a scan that must not fall
back. -/
theorem scan_falls_back_in_sampleHost :
    (sampleHost.scanSources ⟨"src"⟩ .auto ⟨"rg"⟩).run 0 =
      (.ok ⟨.empty, some 0, [], .walk,
        some (Problem.programFailed ⟨"rg"⟩ (.killed 11 true) "").message⟩, 3) ∧
    (sampleHost.audit AuditPaths.sample .ripgrep ⟨"rg"⟩).run 1 =
      (.error (.programFailed ⟨"rg"⟩ (.killed 11 true) ""), 3) := by
  constructor
  · apply ((Host.scan_falls_back sampleHost AuditPaths.sample .auto ⟨"rg"⟩ 0).1 _ _).mpr
    have directory : (sampleHost.isDirectory ⟨"src"⟩).run 0 = (true, 0) := rfl
    have available : (sampleHost.isAvailable ⟨"rg"⟩).run 0 = (true, 1) := rfl
    exact .fallback directory available searchesEnd_sampleHost scanByWalk_sampleHost
  · apply ((Host.scan_falls_back sampleHost AuditPaths.sample .ripgrep ⟨"rg"⟩ 1).2.2.2.2.2 _ _).mpr
    exact ⟨_, 1, _, 1, rfl, rfl, rfl, 1, rfl, searchesEnd_sampleHost⟩

end Fallback

end KeyAudit
