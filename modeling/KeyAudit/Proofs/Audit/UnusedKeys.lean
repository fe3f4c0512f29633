/-
What it means that an audit calls a key unused.

The audit walks the sources. Whatever the two locale files hold and whatever lies below
the source root, it is carried out, and `unused_iff_defined_and_not_referenced` says of
every key whether it is listed: it is the path of a leaf of a document that was loaded,
and no source file references it. The keys called used are those that are referenced,
whether a locale defines them or not.
-/

import KeyAudit.Proofs.Audit.Parts

namespace KeyAudit.Audit

variable {host : Host Id} {paths : AuditPaths} {program : Path}
  {entries : List (String × SourceTree)}

/-- The keys that an audit compares are those that its locale files define and its scan
finds. -/
theorem mem_unused_ofParts_iff {scan : SourceScan} {key : String} :
    key ∈ (ofParts paths (host.loadLocale .english paths.enMessages).run
        (host.loadLocale .turkish paths.trMessages).run scan).analysis.unused ↔
      (host.Defines paths.enMessages key ∨ host.Defines paths.trMessages key) ∧
        ¬ key ∈ scan.keys := by
  rw [Analysis.mem_unused]
  exact and_congr_left' (or_congr Host.mem_keys_loadLocale_iff Host.mem_keys_loadLocale_iff)

/-- **A key is unused exactly if a loaded document defines it and no source file below the
root references it.** The keys used are all that are referenced. -/
theorem unused_iff_defined_and_not_referenced
    (directory : (host.isDirectory paths.sourceRoot).run = true)
    (survey : (host.survey paths.sourceRoot).run = .ok (.directory entries))
    (named : (SourceTree.directory entries).WellNamed) :
    ∃ a, (host.audit paths .walk program).run = .ok a ∧
      (∀ key, key ∈ a.analysis.unused ↔
        (host.Defines paths.enMessages key ∨ host.Defines paths.trMessages key) ∧
          ¬ host.ReferencesBelow paths.sourceRoot (.directory entries) key) ∧
      ∀ key, key ∈ a.analysis.used ↔
        host.ReferencesBelow paths.sourceRoot (.directory entries) key := by
  have hused (key : String) : key ∈ (host.scanByWalk paths.sourceRoot).run.keys ↔
      host.ReferencesBelow paths.sourceRoot (.directory entries) key :=
    Host.mem_keys_scanByWalk_iff survey named
  refine ⟨_, by rw [Host.run_audit, Host.run_scanSources_walk directory], ?_, hused⟩
  intro key
  rw [mem_unused_ofParts_iff, hused]

/-! ### A world in which one key is unused -/

/-- One source file and one declaration. -/
def sampleEntries : List (String × SourceTree) := [("app.ts", .file), ("api.d.ts", .file)]

/-- English defines `a` and `b.c`, Turkish holds no object, and only `a` is referenced
where it counts. -/
def sampleWorld : Snapshot where
  texts := [(⟨"en.json"⟩, "\x7b\"a\": 1, \"b\": \x7b\"c\": \"text\"\x7d\x7d"), (⟨"tr.json"⟩, "[]"),
    (⟨"src/app.ts"⟩, "t('a')\nformat('b.c')"), (⟨"src/api.d.ts"⟩, "t('b.c')")]
  trees := [(⟨"src"⟩, .directory sampleEntries)]
  answer _ _ := .error .notFound

theorem wellNamed_sampleEntries : (SourceTree.directory sampleEntries).WellNamed := by
  apply SourceTree.wellNamed_directory
  intro entry hentry
  simp only [sampleEntries, List.mem_cons, List.not_mem_nil, or_false] at hentry
  rcases hentry with rfl | rfl
  · exact ⟨by decide, SourceTree.wellNamed_file⟩
  · exact ⟨by decide, SourceTree.wellNamed_file⟩

theorem unused_of_sampleWorld :
    ((sampleWorld.host.isDirectory AuditPaths.sample.sourceRoot).run = true ∧
      (sampleWorld.host.survey AuditPaths.sample.sourceRoot).run = .ok (.directory sampleEntries) ∧
      (SourceTree.directory sampleEntries).WellNamed) ∧
    ∃ a, (sampleWorld.host.audit AuditPaths.sample .walk ⟨"rg"⟩).run = .ok a ∧
      (∀ key, key ∈ a.analysis.unused ↔
        (sampleWorld.host.Defines AuditPaths.sample.enMessages key ∨
            sampleWorld.host.Defines AuditPaths.sample.trMessages key) ∧
          ¬ sampleWorld.host.ReferencesBelow AuditPaths.sample.sourceRoot
            (.directory sampleEntries) key) ∧
      ∀ key, key ∈ a.analysis.used ↔
        sampleWorld.host.ReferencesBelow AuditPaths.sample.sourceRoot (.directory sampleEntries) key :=
  ⟨⟨rfl, rfl, wellNamed_sampleEntries⟩,
    unused_iff_defined_and_not_referenced rfl rfl wellNamed_sampleEntries⟩

end KeyAudit.Audit
