/-
What an audit makes of two locale files, each of which may be good or bad.

What reading a file gave decides whether it holds a document (`documentOf`): it may be
missing, no UTF-8, no JSON, or JSON but no object. A load ends in one of two ways
(`LocaleLoad.Ends`), with all keys of the document and no warning or with no keys and a
warning. That a document may have no keys is what the count of locales, the warnings and
the status must not be misled by; `Audit.Accounts` says how each of them tells the two
apart, and `Host.locales_accounted_for` that an audit does so, in whatever order its jobs
take their turns.
-/

import KeyAudit.Proofs.Audit.Interleaved
import KeyAudit.Proofs.Host.Memory

namespace KeyAudit

open Relation

/-! ### By locale -/

namespace Locale

/-- Both locales, in the order in which they are named. -/
def all : List Locale := [.english, .turkish]

def other : Locale → Locale
  | .english => .turkish
  | .turkish => .english

end Locale

/-- Where the messages of a locale are. -/
def AuditPaths.messages (p : AuditPaths) : Locale → Path
  | .english => p.enMessages
  | .turkish => p.trMessages

/-- The keys of a locale. -/
def Analysis.keysOf (a : Analysis) : Locale → KeySet
  | .english => a.en
  | .turkish => a.tr

/-! ### One set of keys alone -/

namespace KeySet

theorem union_empty {s : KeySet} : s.union empty = s :=
  ext_mem fun k => by simp

theorem empty_union {s : KeySet} : empty.union s = s :=
  ext_mem fun k => by simp

theorem diff_empty {s : KeySet} : s.diff empty = s :=
  ext_mem fun k => by simp

end KeySet

/-- Beside a locale without keys, the keys of the other one are all there are, and all its
own. -/
theorem Analysis.eq_of_keysOf_eq_empty {a : Analysis} {l : Locale} (h : a.keysOf l = .empty) :
    a.all = a.keysOf l.other ∧ a.only l.other = a.keysOf l.other := by
  obtain ⟨en, tr, used⟩ := a
  cases l with
  | english =>
      cases h
      exact ⟨KeySet.empty_union, KeySet.diff_empty⟩
  | turkish =>
      cases h
      exact ⟨KeySet.union_empty, KeySet.diff_empty⟩

/-! ### One locale -/

/-- The document of a locale file, if what was read is JSON and an object. -/
def documentOf : Except ReadFailure String → Option Json
  | .error _ => none
  | .ok text =>
    match Json.read text with
    | .error _ => none
    | .ok document => if document.isObject then some document else none

/-- The ways a load of a locale ends, by what reading its file gave. -/
inductive LocaleLoad.Ends (locale : Locale) (file : Path) (reading : Except ReadFailure String) :
    LocaleLoad → Prop where
  | loaded {document : Json} : documentOf reading = some document →
      Ends locale file reading ⟨Messages.flatten document "" keySeparator, none⟩
  | failed {reason : String} : documentOf reading = none →
      Ends locale file reading ⟨.empty, some ⟨locale, file.text, reason⟩⟩

namespace LocaleLoad.Ends

variable {locale : Locale} {file : Path} {reading : Except ReadFailure String} {load : LocaleLoad}

theorem of_ofText {text : String} :
    Ends locale file (.ok text) (.ofResult locale file (Messages.ofText file text)) := by
  unfold Messages.ofText
  cases hread : Json.read text with
  | error reason => exact .failed (by simp only [documentOf, hread])
  | ok document =>
      by_cases hobject : document.isObject = true
      · simp only [if_pos hobject]
        exact .loaded (by simp only [documentOf, hread, if_pos hobject])
      · simp only [if_neg hobject]
        exact .failed (by simp only [documentOf, hread, if_neg hobject])

theorem keys_of_document (ends : Ends locale file reading load) {document : Json}
    (h : documentOf reading = some document) :
    load.keys = (Messages.flatten document "" keySeparator).keys := by
  cases ends with
  | loaded hdocument =>
      rw [hdocument] at h
      cases h
      rfl
  | failed hdocument =>
      rw [hdocument] at h
      cases h

theorem keys_of_none (ends : Ends locale file reading load) (h : documentOf reading = none) :
    load.keys = .empty := by
  cases ends with
  | loaded hdocument =>
      rw [hdocument] at h
      cases h
  | failed hdocument => rfl

end LocaleLoad.Ends

/-- **A load ends in one of the ways**, whatever reading the file gave. -/
theorem Host.run_loadLocale_of_readText {σ : Type} {host : Host (StateM σ)} {locale : Locale}
    {file : Path} {reading : Except ReadFailure String} {s s' : σ}
    (read : (host.readText file).run s = (reading, s')) :
    ∃ load, (host.loadLocale locale file).run s = (load, s') ∧
      load.Ends locale file reading := by
  cases reading with
  | error reason =>
      have messages : (host.readMessages file).run s =
          (.error (.messagesUnreadable file reason), s') := by
        rw [readMessages, run_bind_of_run read]
        rfl
      exact ⟨_, run_loadLocale messages, .failed rfl⟩
  | ok text =>
      have messages : (host.readMessages file).run s = (Messages.ofText file text, s') := by
        rw [readMessages, run_bind_of_run read]
        rfl
      exact ⟨_, run_loadLocale messages, .of_ofText⟩

/-! ### Both locales -/

/-- Each load counts or is warned of. -/
theorem LocaleLoad.loaded_add_warned (loads : List LocaleLoad) :
    (loads.filter isLoaded).length + (loads.filterMap warning).length = loads.length := by
  induction loads with
  | nil => rfl
  | cons load loads ih =>
      cases hwarning : load.warning with
      | none =>
          have hloaded : load.isLoaded = true := by rw [isLoaded, hwarning, Option.isNone_none]
          rw [List.filter_cons_of_pos hloaded, List.filterMap_cons_none hwarning,
            List.length_cons, List.length_cons]
          omega
      | some warning =>
          have hloaded : ¬ load.isLoaded = true := by simp [isLoaded, hwarning]
          rw [List.filter_cons_of_neg hloaded, List.filterMap_cons_some hwarning,
            List.length_cons, List.length_cons]
          omega

/-- Nothing but the count of locales decides the status. -/
theorem ExitStatus.ofAudit_eq_failure_iff_none_loaded {a : Audit} :
    ofAudit a = .failure ↔ a.localesLoaded = 0 := by
  unfold ofAudit Audit.hasLocaleData
  cases a.localesLoaded with
  | zero => simp
  | succ n => simp

/-- An audit tells what became of both locales, where reading their files gave this. -/
structure Audit.Accounts (a : Audit) (reading : Locale → Except ReadFailure String) : Prop where
  /-- Each locale is counted or warned of. -/
  total : a.localesLoaded + a.localeWarnings.length = 2
  /-- Those without a document are warned of, in order, each with its own file. -/
  warned : a.localeWarnings.map (fun w => (w.locale, w.file)) =
    (Locale.all.filter fun l => documentOf (reading l) = none).map
      fun l => (l, (a.paths.messages l).text)
  /-- Those with a document have the paths of its leaves, be there any or none. -/
  loaded : ∀ l document, documentOf (reading l) = some document →
    a.analysis.keysOf l = (Messages.flatten document "" keySeparator).keys
  /-- Those without have no keys, and those of the other locale are all its own. -/
  failed : ∀ l, documentOf (reading l) = none → a.analysis.keysOf l = .empty ∧
    a.analysis.all = a.analysis.keysOf l.other ∧
    a.analysis.only l.other = a.analysis.keysOf l.other
  /-- Only two warnings are a failure. -/
  status : ExitStatus.ofAudit a = .failure ↔ a.localeWarnings.length = 2

theorem Audit.accounts_ofParts {paths : AuditPaths} {en tr : LocaleLoad} {scan : SourceScan}
    {reading : Locale → Except ReadFailure String}
    (english : en.Ends .english paths.enMessages (reading .english))
    (turkish : tr.Ends .turkish paths.trMessages (reading .turkish)) :
    (Audit.ofParts paths en tr scan).Accounts reading := by
  have total : (Audit.ofParts paths en tr scan).localesLoaded +
      (Audit.ofParts paths en tr scan).localeWarnings.length = 2 :=
    LocaleLoad.loaded_add_warned [en, tr]
  have failed : ∀ l, documentOf (reading l) = none →
      (Audit.ofParts paths en tr scan).analysis.keysOf l = .empty := by
    intro l hl
    cases l with
    | english => exact english.keys_of_none hl
    | turkish => exact turkish.keys_of_none hl
  refine ⟨total, ?_, ?_, ?_, ?_⟩
  · cases english with
    | loaded hen =>
        cases turkish with
        | loaded htr => simp [ofParts, Locale.all, hen, htr]
        | failed htr => simp [ofParts, Locale.all, AuditPaths.messages, hen, htr]
    | failed hen =>
        cases turkish with
        | loaded htr => simp [ofParts, Locale.all, AuditPaths.messages, hen, htr]
        | failed htr => simp [ofParts, Locale.all, AuditPaths.messages, hen, htr]
  · intro l document hl
    cases l with
    | english => exact english.keys_of_document hl
    | turkish => exact turkish.keys_of_document hl
  · intro l hl
    exact ⟨failed l hl, Analysis.eq_of_keysOf_eq_empty (failed l hl)⟩
  · rw [ExitStatus.ofAudit_eq_failure_iff_none_loaded]
    omega

namespace Host

variable {σ : Type}

/-- **Both locales are accounted for.** Whatever reading the two files gives, an audit whose
scan is no error tells by its count, its warnings, its keys and its status what became of
each of them. Where looking changes nothing, and the program nothing that is looked at, it
is the audit that all runs of its jobs come to, in whatever order they take their turns, and
every run can be brought to its end. -/
theorem locales_accounted_for (host : Host (StateM σ)) {paths : AuditPaths}
    {preference : Scanner.Preference} {program : Path}
    {reading : Locale → Except ReadFailure String} {scan : SourceScan} {s s₁ s₂ s' : σ}
    (english : (host.readText paths.enMessages).run s = (reading .english, s₁))
    (turkish : (host.readText paths.trMessages).run s₁ = (reading .turkish, s₂))
    (scanned : (host.scanSources paths.sourceRoot preference program).run s₂ = (.ok scan, s')) :
    ∃ audit : Audit, (host.audit paths preference program).run s = (.ok audit, s') ∧
      audit.paths = paths ∧ audit.analysis.used = scan.keys ∧ audit.Accounts reading ∧
      ∀ {V : Type} {view : σ → V}, host.Observes view program → ∀ jobs,
        ReflTransGen (Jobs.Step host) (.start paths preference program s) jobs →
        (∃ last, ReflTransGen (Jobs.Step host) jobs last ∧ last.world = s' ∧
          last.ending? paths = some (.ok audit)) ∧
        ∀ result, jobs.ending? paths = some result → result = .ok audit ∧ jobs.world = s' := by
  obtain ⟨en, hen, english⟩ := run_loadLocale_of_readText english
  obtain ⟨tr, htr, turkish⟩ := run_loadLocale_of_readText turkish
  have audited : (host.audit paths preference program).run s =
      (.ok (.ofParts paths en tr scan), s') :=
    run_audit_iff.mpr ⟨en, s₁, tr, s₂, .ok scan, hen, htr, run_scanSources_iff.mp scanned, rfl⟩
  refine ⟨.ofParts paths en tr scan, audited, rfl, rfl, Audit.accounts_ofParts english turkish, ?_⟩
  intro V view observes jobs steps
  -- Every end that can still be reached is an end of a run from the start.
  have decided : ∀ last result, ReflTransGen (Jobs.Step host) jobs last →
      last.ending? paths = some result →
      result = .ok (.ofParts paths en tr scan) ∧ last.world = s' := by
    intro last result more ending
    have h := Jobs.run_audit_of_ending? observes (steps.trans more) ending
    rw [audited] at h
    cases h
    exact ⟨rfl, rfl⟩
  constructor
  · obtain ⟨last, result, more, ending⟩ := Jobs.exists_ending host paths jobs
    obtain ⟨rfl, hworld⟩ := decided last result more ending
    exact ⟨last, more, hworld, ending⟩
  · intro result ending
    exact decided jobs result .refl ending

end Host

/-! ### One empty file and one that is missing -/

namespace Files

theorem observes_memory (cwd : Path) (sources : SourceTree) (program : Path) :
    (host cwd sources).Observes (id : Files → Files) program where
  looks h := by
    cases h with
    | present p => exact ⟨fun files => (files.lookup p.components).isSome, fun _ => rfl⟩
    | isDirectory p => exact ⟨fun _ => true, fun _ => rfl⟩
    | read p => exact ⟨fun files => files.readAt p, fun _ => rfl⟩
    | survey p => exact ⟨fun _ => .ok sources, fun _ => rfl⟩
  runs _ _ := rfl

/-- An English file without keys, and no Turkish one. -/
def sampleLocales : Files := [((Path.mk "en.json").components, "\x7b\x7d")]

/-- The host of these files, whose sources are one empty directory. -/
def localesHost : Host (StateM Files) := host ⟨"/"⟩ (.directory [])

/-- What reading them gives. -/
def sampleReading : Locale → Except ReadFailure String
  | .english => .ok "\x7b\x7d"
  | .turkish => .error (.system .notFound)

/-- The empty file counts as loaded, so nothing fails though there is no key at all. -/
theorem locales_accounted_for_in_sampleLocales :
    ∃ audit files,
      (localesHost.audit .sample .walk ⟨"rg"⟩).run sampleLocales = (.ok audit, files) ∧
      audit.localesLoaded = 1 ∧
      audit.localeWarnings.map (fun w => (w.locale, w.file)) = [(.turkish, "tr.json")] ∧
      audit.analysis.all = .empty ∧ ExitStatus.ofAudit audit ≠ .failure ∧
      ∃ last,
        ReflTransGen (Jobs.Step localesHost) (.start .sample .walk ⟨"rg"⟩ sampleLocales) last ∧
        last.ending? .sample = some (.ok audit) := by
  have english : (localesHost.readText AuditPaths.sample.enMessages).run sampleLocales =
      (sampleReading .english, sampleLocales) := rfl
  have turkish : (localesHost.readText AuditPaths.sample.trMessages).run sampleLocales =
      (sampleReading .turkish, sampleLocales) := rfl
  rcases walked : (localesHost.scanByWalk AuditPaths.sample.sourceRoot).run sampleLocales with
    ⟨scan, files⟩
  have scanned : (localesHost.scanSources AuditPaths.sample.sourceRoot .walk ⟨"rg"⟩).run
      sampleLocales = (.ok scan, files) :=
    Host.run_scanSources_iff.mpr (.walk rfl walked)
  obtain ⟨audit, audited, hpaths, -, accounts, turns⟩ :=
    Host.locales_accounted_for localesHost english turkish scanned
  have hwarned : audit.localeWarnings.map (fun w => (w.locale, w.file)) =
      [(.turkish, "tr.json")] := by
    rw [accounts.warned, hpaths]
    rfl
  have hlength : audit.localeWarnings.length = 1 := by
    simpa using congrArg List.length hwarned
  have htotal := accounts.total
  have hkeys : audit.analysis.all = .empty := by
    rw [(accounts.failed .turkish rfl).2.1]
    exact accounts.loaded .english (.obj []) rfl
  obtain ⟨last, more, -, ending⟩ := (turns (observes_memory ⟨"/"⟩ (.directory []) _) _ .refl).1
  refine ⟨audit, files, audited, by omega, hwarned, hkeys, ?_, last, more, ending⟩
  rw [Ne, accounts.status]
  omega

end Files

end KeyAudit
