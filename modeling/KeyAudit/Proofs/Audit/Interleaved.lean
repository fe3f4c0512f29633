/-
An audit whose three jobs take turns: the loading of each locale and the scan.

`Jobs` are the jobs as far as they have come, with the world that they share, and in one
`Jobs.Step` any of them asks its next question there. A scan may run its program and so
change the world, and whoever asks next finds it changed. What keeps the jobs apart is
`Host.Observes`: the files that are looked at are not what the program changes. Then a step
of one job does not change what the others come to (`Jobs.Step.outcome`), so every run of
the jobs, in whatever order they are given their turns, ends as the audit does that goes
through them one after the other (`Jobs.run_audit_of_ending?`), and each run can be
brought to its end (`Jobs.exists_ending`).
-/

import Mathlib.Logic.Relation
import Mathlib.Tactic.Choose
import KeyAudit.Proofs.Host.Storage
import KeyAudit.Proofs.Scan.Fallback

namespace KeyAudit

open Relation

variable {σ V : Type} {host : Host (StateM σ)} {view : σ → V}

/-! ### Hosts that are only looked at -/

/-- Looking tells something of the view and changes nothing, and the program does not change
the view. -/
structure Host.Observes (host : Host (StateM σ)) (view : σ → V) (program : Path) : Prop where
  looks : ∀ {q : Question}, q.Looks →
    ∃ answer : V → q.Answer, ∀ s, (host.answer q).run s = (answer (view s), s)
  runs : ∀ arguments, Keeps view (host.run program arguments)

namespace Host.Observes

variable {program : Path}

theorem answer (observes : host.Observes view program) {q : Question} (h : q.Searches program) :
    Keeps view (host.answer q) := by
  cases h with
  | run arguments => exact observes.runs arguments
  | look h =>
      obtain ⟨answer, hanswer⟩ := observes.looks h
      intro s
      rw [hanswer]

/-- What is done by looking alone is as good as one look. -/
theorem playOn (observes : host.Observes view program) {α : Type} {x : Asking α}
    (hx : x.Asks Question.Looks) :
    ∃ answer : V → α, ∀ s, (x.playOn host).run s = (answer (view s), s) := by
  induction hx with
  | done a => exact ⟨fun _ => a, fun _ => rfl⟩
  | ask hq _ ih =>
      obtain ⟨answer, hanswer⟩ := observes.looks hq
      choose next hnext using ih
      refine ⟨fun v => next (answer v) v, fun s => ?_⟩
      exact (run_bind_of_run (hanswer s)).trans (hnext _ s)

/-- So is loading a locale. -/
theorem loadLocale (observes : host.Observes view program) (locale : Locale) (file : Path) :
    ∃ load : V → LocaleLoad, ∀ s, (host.loadLocale locale file).run s = (load (view s), s) := by
  have plays : (Asking.host.loadLocale locale file).Plays host Question.Looks _ := .loadLocale
  obtain ⟨load, hload⟩ := observes.playOn plays.asks
  exact ⟨load, fun s => plays.playOn ▸ hload s⟩

end Host.Observes

/-! ### Jobs that take turns -/

/-- What is left of the three jobs of an audit, and the world they share. -/
structure Jobs (σ : Type) where
  english : Asking LocaleLoad
  turkish : Asking LocaleLoad
  scan : Asking (Except Problem SourceScan)
  world : σ

namespace Jobs

variable {paths : AuditPaths} {preference : Scanner.Preference} {program : Path}

/-- The jobs before any of them has asked anything. -/
def start (paths : AuditPaths) (preference : Scanner.Preference) (program : Path) (s : σ) :
    Jobs σ where
  english := Asking.host.loadLocale .english paths.enMessages
  turkish := Asking.host.loadLocale .turkish paths.trMessages
  scan := Asking.host.scanSources paths.sourceRoot preference program
  world := s

/-- One of the jobs asks its next question. -/
inductive Step (host : Host (StateM σ)) : Jobs σ → Jobs σ → Prop where
  | english {q : Question} {next : q.Answer → Asking LocaleLoad} {tr : Asking LocaleLoad}
      {scan : Asking (Except Problem SourceScan)} {answer : q.Answer} {s s' : σ} :
      (host.answer q).run s = (answer, s') →
      Step host ⟨.ask q next, tr, scan, s⟩ ⟨next answer, tr, scan, s'⟩
  | turkish {q : Question} {next : q.Answer → Asking LocaleLoad} {en : Asking LocaleLoad}
      {scan : Asking (Except Problem SourceScan)} {answer : q.Answer} {s s' : σ} :
      (host.answer q).run s = (answer, s') →
      Step host ⟨en, .ask q next, scan, s⟩ ⟨en, next answer, scan, s'⟩
  | scan {q : Question} {next : q.Answer → Asking (Except Problem SourceScan)}
      {en tr : Asking LocaleLoad} {answer : q.Answer} {s s' : σ} :
      (host.answer q).run s = (answer, s') →
      Step host ⟨en, tr, .ask q next, s⟩ ⟨en, tr, next answer, s'⟩

/-- What the audit comes to when all three jobs are done. -/
def ending? (paths : AuditPaths) : Jobs σ → Option (Except Problem Audit)
  | ⟨.done en, .done tr, .done scanned, _⟩ => some (scanned.map (.ofParts paths en tr))
  | _ => none

/-! ### What a step preserves -/

/-- The loads only look, and the scan looks or runs the program. -/
structure Careful (program : Path) (jobs : Jobs σ) : Prop where
  english : jobs.english.Asks Question.Looks
  turkish : jobs.turkish.Asks Question.Looks
  scan : jobs.scan.Asks (Question.Searches program)

/-- What the audit comes to if each job is brought to its end from here as if it were alone,
and the world that the scan leaves then. -/
def outcome (host : Host (StateM σ)) (paths : AuditPaths) (jobs : Jobs σ) :
    Except Problem Audit × σ :=
  let en := ((jobs.english.playOn host).run jobs.world).1
  let tr := ((jobs.turkish.playOn host).run jobs.world).1
  let scanned := (jobs.scan.playOn host).run jobs.world
  (scanned.1.map (.ofParts paths en tr), scanned.2)

theorem careful_start (host : Host (StateM σ)) {s : σ} :
    (start paths preference program s).Careful program where
  english := Asking.Plays.asks (.loadLocale : Asking.Plays host _ _ _)
  turkish := Asking.Plays.asks (.loadLocale : Asking.Plays host _ _ _)
  scan := Asking.Plays.asks (.scanSources : Asking.Plays host _ _ _)

theorem run_playOn_ask {α : Type} {q : Question} {next : q.Answer → Asking α} {answer : q.Answer}
    {s s' : σ} (h : (host.answer q).run s = (answer, s')) :
    ((Asking.ask q next).playOn host).run s = ((next answer).playOn host).run s' :=
  run_bind_of_run h

/-- **No job disturbs another.** A step leaves the jobs careful and what they come to. -/
theorem Step.outcome (observes : host.Observes view program) {jobs jobs' : Jobs σ}
    (step : Step host jobs jobs') (careful : jobs.Careful program) :
    jobs'.Careful program ∧ jobs'.outcome host paths = jobs.outcome host paths := by
  obtain ⟨en, tr, scan⟩ := careful
  cases step with
  | english hanswer =>
      cases en with
      | ask hq hnext =>
          -- A look leaves the world as it is, so all that moves is the job that asked.
          obtain ⟨answer, hlook⟩ := observes.looks hq
          cases hanswer.symm.trans (hlook _)
          refine ⟨⟨hnext _, tr, scan⟩, ?_⟩
          simp only [Jobs.outcome, run_playOn_ask hanswer]
  | turkish hanswer =>
      cases tr with
      | ask hq hnext =>
          obtain ⟨answer, hlook⟩ := observes.looks hq
          cases hanswer.symm.trans (hlook _)
          refine ⟨⟨en, hnext _, scan⟩, ?_⟩
          simp only [Jobs.outcome, run_playOn_ask hanswer]
  | scan hanswer =>
      cases scan with
      | ask hq hnext =>
          -- The world may be another now; to the loads it looks the same.
          have hview := (observes.answer hq).eq_of_run hanswer
          obtain ⟨load, hload⟩ := observes.playOn en
          obtain ⟨load', hload'⟩ := observes.playOn tr
          refine ⟨⟨en, tr, hnext _⟩, ?_⟩
          simp only [Jobs.outcome, run_playOn_ask hanswer, hload, hload', hview]

/-- Nor does a whole run of steps. -/
theorem outcome_of_steps (observes : host.Observes view program) {jobs jobs' : Jobs σ}
    (steps : ReflTransGen (Step host) jobs jobs') (careful : jobs.Careful program) :
    jobs'.Careful program ∧ jobs'.outcome host paths = jobs.outcome host paths := by
  induction steps with
  | refl => exact ⟨careful, rfl⟩
  | tail _ step ih =>
      obtain ⟨careful', hsame⟩ := ih
      obtain ⟨careful'', hstep⟩ := step.outcome observes careful'
      exact ⟨careful'', hstep.trans hsame⟩

/-! ### From the start to the end -/

theorem outcome_of_ending? {jobs : Jobs σ} {result : Except Problem Audit}
    (h : jobs.ending? paths = some result) : jobs.outcome host paths = (result, jobs.world) := by
  unfold ending? at h
  split at h
  · cases h
    rfl
  · cases h

/-- At the start the jobs come to what the audit gives that does one after the other. -/
theorem outcome_start (observes : host.Observes view program) {s : σ} :
    (start paths preference program s).outcome host paths =
      (host.audit paths preference program).run s := by
  obtain ⟨en, hen⟩ := observes.loadLocale .english paths.enMessages
  obtain ⟨tr, htr⟩ := observes.loadLocale .turkish paths.trMessages
  rcases scanned : (host.scanSources paths.sourceRoot preference program).run s with ⟨result, s'⟩
  have haudit := Host.run_audit_iff.mpr
    ⟨_, s, _, s, result, hen s, htr s, Host.run_scanSources_iff.mp scanned, rfl⟩
  rw [haudit]
  simp only [outcome, start, Asking.Plays.loadLocale.playOn, Asking.Plays.scanSources.playOn, hen,
    htr, scanned]

/-- **The order of the turns does not show.** Where the jobs are all done, the audit has come
to what it comes to one job after the other, and the world as well. -/
theorem run_audit_of_ending? (observes : host.Observes view program) {s : σ} {jobs : Jobs σ}
    {result : Except Problem Audit}
    (steps : ReflTransGen (Step host) (start paths preference program s) jobs)
    (ending : jobs.ending? paths = some result) :
    (host.audit paths preference program).run s = (result, jobs.world) := by
  calc (host.audit paths preference program).run s
      = (start paths preference program s).outcome host paths := (outcome_start observes).symm
    _ = jobs.outcome host paths := (outcome_of_steps observes steps (careful_start host)).2.symm
    _ = (result, jobs.world) := outcome_of_ending? ending

/-- A job that is given all the turns comes to its end. -/
theorem steps_to_done (host : Host (StateM σ)) {α : Type} (jobsWith : Asking α → σ → Jobs σ)
    (turn : ∀ {q : Question} {next : q.Answer → Asking α} {answer : q.Answer} {s s' : σ},
      (host.answer q).run s = (answer, s') →
        Step host (jobsWith (.ask q next) s) (jobsWith (next answer) s'))
    (x : Asking α) (s : σ) :
    ∃ a s', ReflTransGen (Step host) (jobsWith x s) (jobsWith (.done a) s') := by
  induction x generalizing s with
  | done a => exact ⟨a, s, .refl⟩
  | ask q next ih =>
      obtain ⟨a, s', steps⟩ := ih _ _
      exact ⟨a, s', .head (turn rfl) steps⟩

/-- **Every run can be brought to its end.** -/
theorem exists_ending (host : Host (StateM σ)) (paths : AuditPaths) (jobs : Jobs σ) :
    ∃ last result, ReflTransGen (Step host) jobs last ∧ last.ending? paths = some result := by
  obtain ⟨english, turkish, scan, s⟩ := jobs
  obtain ⟨en, s₁, hen⟩ :=
    steps_to_done host (fun x s => ⟨x, turkish, scan, s⟩) .english english s
  obtain ⟨tr, s₂, htr⟩ :=
    steps_to_done host (fun x s => ⟨.done en, x, scan, s⟩) .turkish turkish s₁
  obtain ⟨scanned, s', hscan⟩ :=
    steps_to_done host (fun x s => ⟨.done en, .done tr, x, s⟩) .scan scan s₂
  exact ⟨_, _, (hen.trans htr).trans hscan, rfl⟩

end Jobs

end KeyAudit
