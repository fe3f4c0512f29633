/-
The walk and the program find the same.

On a tree that can be enumerated and whose source files hold text, both scanners give one
set of keys and no warnings, if the program answers its queries as
`Ripgrep.Query.Answers` says; so the analysis does not depend on the scanner that is
wanted (`strategies_agree`). Whether the probe for the program succeeds plays no part.
-/

import KeyAudit.Proofs.Ripgrep.Query
import KeyAudit.Proofs.Ripgrep.SearchOutcome

namespace KeyAudit

namespace Host

variable {host : Host Id} {root program : Path} {entries : List (String × SourceTree)}

/-- A walk of files that all hold text has nothing to complain of. -/
theorem warnings_scanByWalk_eq_nil
    (survey : (host.survey root).run = .ok (.directory entries))
    (named : (SourceTree.directory entries).WellNamed)
    (enumerable : (SourceTree.directory entries).Enumerable)
    (readable : ∀ file, (SourceTree.directory entries).SourceAt root file →
      ∃ text, host.Holds file text) :
    (host.scanByWalk root).run.warnings = [] := by
  rw [run_scanByWalk survey]
  have hcollect : (Walk.collect root (.ok (.directory entries))).warnings = [] :=
    Walk.warningsOf_of_enumerable enumerable root
  rw [Walk.scanOf, hcollect, List.nil_append, List.filterMap_eq_nil_iff]
  intro o ho
  obtain ⟨file, hfile, rfl⟩ := List.mem_map.mp ho
  obtain ⟨text, hholds⟩ := readable file
    ((Walk.mem_filesOf_directory_iff named).mp (Walk.mem_files_collect_iff.mp hfile))
  rw [readText_eq_ok_iff.mpr hholds]
  rfl

/-! ### The searches of a scan -/

/-- Where no program has a complaint, a search gives the printed keys alone. -/
theorem run_search {closing : Reference.Closing} {done : Finished}
    (ran : (host.run program (Ripgrep.arguments closing root)).run = .ok done)
    (status : done.status = .exited 0 ∨ done.status = .exited 1) :
    (host.search program root closing).run =
      .ok ⟨Ripgrep.printedKeys (Text.Utf8.decodeLossy done.stdout), []⟩ := by
  rw [run_search_eq ran]
  rcases status with h | h <;> rw [h] <;> rfl

theorem run_scanByRipgrep {first second : Ripgrep.Search}
    (hfirst : (host.search program root .mark).run = .ok first)
    (hsecond : (host.search program root .lineEnd).run = .ok second) :
    (host.scanByRipgrep program root).run =
      .ok ((Ripgrep.Search.start.add first).add second).scan := by
  unfold scanByRipgrep Reference.Closing.all
  simp only [searchAll, Id.run_bind, hfirst, hsecond, Id.run_pure]

/-- **The program finds what the source files reference.** -/
theorem run_scanByRipgrep_of_answers
    (answers : ∀ closing, ∃ done,
      (host.run program (Ripgrep.query closing root).arguments).run = .ok done ∧
        (Ripgrep.query closing root).Answers host (.directory entries) done) :
    ∃ scan, (host.scanByRipgrep program root).run = .ok scan ∧ scan.warnings = [] ∧
      ∀ key, key ∈ scan.keys ↔ host.ReferencesBelow root (.directory entries) key := by
  have hsearch (closing : Reference.Closing) : ∃ search : Ripgrep.Search,
      (host.search program root closing).run = .ok search ∧ search.warnings = [] ∧
        ∀ key, key ∈ search.keys ↔ ∃ file text, (SourceTree.directory entries).SourceAt root file ∧
          host.Holds file text ∧ Reference.Occurs closing text.toList key.toList := by
    obtain ⟨done, ran, hanswers⟩ := answers closing
    rw [← Ripgrep.arguments_eq] at ran
    have hstatus : done.status = .exited 0 ∨ done.status = .exited 1 := by
      obtain ⟨files, found, -, -, -, -, hstatus⟩ := hanswers
      rw [hstatus]
      by_cases hfound : found = []
      · exact .inr (by rw [if_pos hfound])
      · exact .inl (by rw [if_neg hfound])
    exact ⟨_, run_search ran hstatus, rfl, fun key => Ripgrep.mem_printedKeys_iff hanswers⟩
  obtain ⟨first, hfirst, hfirstWarnings, hfirstKeys⟩ := hsearch .mark
  obtain ⟨second, hsecond, hsecondWarnings, hsecondKeys⟩ := hsearch .lineEnd
  refine ⟨_, run_scanByRipgrep hfirst hsecond, ?_, ?_⟩
  · simp [Ripgrep.Search.scan, Ripgrep.Search.add, Ripgrep.Search.start, hfirstWarnings,
      hsecondWarnings, Ripgrep.addWarnings]
  · intro key
    simp only [Ripgrep.Search.scan, Ripgrep.Search.add, Ripgrep.Search.start, KeySet.mem_union,
      KeySet.not_mem_empty, false_or, hfirstKeys, hsecondKeys, ReferencesBelow,
      Reference.References]
    constructor
    · rintro (⟨file, text, hat, hholds, hoccurs⟩ | ⟨file, text, hat, hholds, hoccurs⟩)
      · exact ⟨file, text, hat, hholds, .mark, hoccurs⟩
      · exact ⟨file, text, hat, hholds, .lineEnd, hoccurs⟩
    · rintro ⟨file, text, hat, hholds, closing, hoccurs⟩
      cases closing with
      | mark => exact .inl ⟨file, text, hat, hholds, hoccurs⟩
      | lineEnd => exact .inr ⟨file, text, hat, hholds, hoccurs⟩

end Host

/-! ### Agreement -/

section Agreement

variable {host : Host Id} {paths : AuditPaths} {program : Path}
  {entries : List (String × SourceTree)}

theorem run_scanSources_of_agreement {root : Path} {walked searched : SourceScan}
    (preference : Scanner.Preference) (directory : (host.isDirectory root).run = true)
    (hwalked : (host.scanByWalk root).run = walked)
    (hsearched : (host.scanByRipgrep program root).run = .ok searched) :
    (host.scanSources root preference program).run = .ok walked ∨
      (host.scanSources root preference program).run = .ok searched := by
  have hwith (scanner : Scanner) : (host.scanWith scanner program root).run = .ok walked ∨
      (host.scanWith scanner program root).run = .ok searched := by
    cases scanner with
    | walk => exact .inl (congrArg Except.ok hwalked)
    | ripgrep => exact .inr hsearched
  unfold Host.scanSources
  simp only [Id.run_bind, directory]
  rcases hwith (host.selectScanner preference program).run with h | h
  · left
    simp [h]
  · right
    simp [h]

/-- **Both scanners find the same keys and complain of nothing**, so an audit compares the
same keys whichever scanner is wanted. -/
theorem strategies_agree (directory : (host.isDirectory paths.sourceRoot).run = true)
    (survey : (host.survey paths.sourceRoot).run = .ok (.directory entries))
    (named : (SourceTree.directory entries).WellNamed)
    (enumerable : (SourceTree.directory entries).Enumerable)
    (readable : ∀ file, (SourceTree.directory entries).SourceAt paths.sourceRoot file →
      ∃ text, host.Holds file text)
    (ripgrep : ∀ closing, ∃ done,
      (host.run program (Ripgrep.query closing paths.sourceRoot).arguments).run = .ok done ∧
        (Ripgrep.query closing paths.sourceRoot).Answers host (.directory entries) done) :
    (∃ searched, (host.scanByRipgrep program paths.sourceRoot).run = .ok searched ∧
      searched.keys = (host.scanByWalk paths.sourceRoot).run.keys ∧
      searched.warnings = [] ∧ (host.scanByWalk paths.sourceRoot).run.warnings = []) ∧
    ∃ analysis, ∀ preference, ∃ a,
      (host.audit paths preference program).run = .ok a ∧ a.analysis = analysis := by
  obtain ⟨searched, hsearched, hwarnings, hkeys⟩ := Host.run_scanByRipgrep_of_answers ripgrep
  have hsame : searched.keys = (host.scanByWalk paths.sourceRoot).run.keys := by
    apply KeySet.ext_mem
    intro key
    rw [hkeys, Host.mem_keys_scanByWalk_iff survey named, Host.ReferencesBelow]
  refine ⟨⟨searched, hsearched, hsame, hwarnings,
    Host.warnings_scanByWalk_eq_nil survey named enumerable readable⟩, ?_⟩
  refine ⟨⟨(host.loadLocale .english paths.enMessages).run.keys,
    (host.loadLocale .turkish paths.trMessages).run.keys, searched.keys⟩, ?_⟩
  intro preference
  rw [Host.run_audit]
  rcases run_scanSources_of_agreement preference directory rfl hsearched with h | h
  · exact ⟨_, by rw [h], by rw [Audit.ofParts, hsame]⟩
  · exact ⟨_, by rw [h], rfl⟩

end Agreement

/-! ### A world in which both scanners run -/

namespace Agreement

/-- A source file, a declaration and a link. -/
def sampleEntries : List (String × SourceTree) :=
  [("app.ts", .file), ("api.d.ts", .file), ("link.ts", .other)]

def sampleText : String := "t('a')\nformat('c') t('b'\r\n, \x7b n \x7d)"

/-- The program can be probed, and it replies to both searches. -/
def sampleWorld : Snapshot where
  texts := [(⟨"en.json"⟩, "\x7b\"a\": 1\x7d"), (⟨"src/app.ts"⟩, sampleText),
    (⟨"src/api.d.ts"⟩, "t('d')")]
  trees := [(⟨"src"⟩, .directory sampleEntries)]
  answer _ arguments :=
    match Reference.Closing.all.find? fun closing =>
        decide (arguments = Ripgrep.arguments closing AuditPaths.sample.sourceRoot) with
    | some closing => .ok (Ripgrep.reply closing [sampleText])
    | none => .ok ⟨.exited 0, [], []⟩

theorem wellNamed_sampleEntries : (SourceTree.directory sampleEntries).WellNamed := by
  apply SourceTree.wellNamed_directory
  intro entry hentry
  simp only [sampleEntries, List.mem_cons, List.not_mem_nil, or_false] at hentry
  rcases hentry with rfl | rfl | rfl
  · exact ⟨by decide, SourceTree.wellNamed_file⟩
  · exact ⟨by decide, SourceTree.wellNamed_file⟩
  · exact ⟨by decide, SourceTree.wellNamed_other⟩

theorem enumerable_sampleEntries : (SourceTree.directory sampleEntries).Enumerable := by
  apply SourceTree.Enumerable.directory
  intro name tree hentry
  simp only [sampleEntries, List.mem_cons, List.not_mem_nil, or_false, Prod.mk.injEq] at hentry
  rcases hentry with ⟨-, rfl⟩ | ⟨-, rfl⟩ | ⟨-, rfl⟩
  · exact .file
  · exact .file
  · exact .other

theorem filesOf_sampleEntries :
    Walk.filesOf AuditPaths.sample.sourceRoot (.directory sampleEntries) = [⟨"src/app.ts"⟩] := by
  decide

theorem readable_sampleWorld : ∀ file,
    (SourceTree.directory sampleEntries).SourceAt AuditPaths.sample.sourceRoot file →
      sampleWorld.host.Holds file sampleText := by
  intro file hfile
  have hmem := (Walk.mem_filesOf_directory_iff wellNamed_sampleEntries).mpr hfile
  rw [filesOf_sampleEntries, List.mem_singleton] at hmem
  subst hmem
  rfl

theorem ripgrep_sampleWorld : ∀ closing, ∃ done,
    (sampleWorld.host.run ⟨"rg"⟩
      (Ripgrep.query closing AuditPaths.sample.sourceRoot).arguments).run = .ok done ∧
        (Ripgrep.query closing AuditPaths.sample.sourceRoot).Answers sampleWorld.host
          (.directory sampleEntries) done := by
  intro closing
  have hanswers : (Ripgrep.query closing AuditPaths.sample.sourceRoot).Answers sampleWorld.host
      (.directory sampleEntries) (Ripgrep.reply closing
        ((Walk.filesOf AuditPaths.sample.sourceRoot (.directory sampleEntries)).map
          fun _ => sampleText)) :=
    Ripgrep.answers_reply wellNamed_sampleEntries readable_sampleWorld
  rw [filesOf_sampleEntries] at hanswers
  refine ⟨_, ?_, hanswers⟩
  rw [← Ripgrep.arguments_eq]
  cases closing <;> rfl

theorem strategies_agree_in_sampleWorld :
    ((sampleWorld.host.isDirectory AuditPaths.sample.sourceRoot).run = true ∧
      (sampleWorld.host.survey AuditPaths.sample.sourceRoot).run = .ok (.directory sampleEntries) ∧
      (SourceTree.directory sampleEntries).WellNamed ∧
      (SourceTree.directory sampleEntries).Enumerable ∧
      (∀ file, (SourceTree.directory sampleEntries).SourceAt AuditPaths.sample.sourceRoot file →
        ∃ text, sampleWorld.host.Holds file text) ∧
      ∀ closing, ∃ done,
        (sampleWorld.host.run ⟨"rg"⟩
          (Ripgrep.query closing AuditPaths.sample.sourceRoot).arguments).run = .ok done ∧
          (Ripgrep.query closing AuditPaths.sample.sourceRoot).Answers sampleWorld.host
            (.directory sampleEntries) done) ∧
    (∃ searched, (sampleWorld.host.scanByRipgrep ⟨"rg"⟩ AuditPaths.sample.sourceRoot).run =
        .ok searched ∧
      searched.keys = (sampleWorld.host.scanByWalk AuditPaths.sample.sourceRoot).run.keys ∧
      searched.warnings = [] ∧
      (sampleWorld.host.scanByWalk AuditPaths.sample.sourceRoot).run.warnings = []) ∧
    ∃ analysis, ∀ preference, ∃ a,
      (sampleWorld.host.audit AuditPaths.sample preference ⟨"rg"⟩).run = .ok a ∧
        a.analysis = analysis :=
  have readable := fun file hfile => ⟨sampleText, readable_sampleWorld file hfile⟩
  ⟨⟨rfl, rfl, wellNamed_sampleEntries, enumerable_sampleEntries, readable, ripgrep_sampleWorld⟩,
    strategies_agree rfl rfl wellNamed_sampleEntries enumerable_sampleEntries readable
      ripgrep_sampleWorld⟩

end Agreement

end KeyAudit
