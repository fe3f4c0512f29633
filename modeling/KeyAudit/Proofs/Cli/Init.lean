/-
`init` and `analyze` agree on where the configuration of a project is.

`init` writes only where no configuration is found, and then at the root of the project,
where there is none. What it wrote is found again from every directory on the way up to
the root: the directories below are as bare as before, since nothing on the way but the
root has another entry now (`Host.Remembers`). It is read as the defaults, and a second
`init` refuses (`init_agrees_with_discovery`).
-/

import KeyAudit.Cli.Run
import KeyAudit.Proofs.Config.Discovery
import KeyAudit.Proofs.Config.Written
import KeyAudit.Proofs.Host.Memory

namespace KeyAudit

open KeyAudit.Cli

namespace Host

variable {σ : Type} {host : Host (StateM σ)} {here : σ → Path → Bool}

/-- What is at a path can be seen. A configuration that was written in a directory on the way
up is there and holds its text, and the entries that the searches ask for in the other
directories on the way are as they were. -/
structure Remembers (host : Host (StateM σ)) (here : σ → Path → Bool) (cwd : Path) : Prop where
  sees : host.Sees here
  present_written : ∀ {root text s s'}, root ∈ cwd.ancestors →
    (host.write (root.child Config.fileName) text).run s = (.ok (), s') →
    here s' (root.child Config.fileName) = true
  read_written : ∀ {root text s s'}, root ∈ cwd.ancestors →
    (host.write (root.child Config.fileName) text).run s = (.ok (), s') →
    (host.read (root.child Config.fileName)).run s' = (.ok text.toUTF8, s')
  others : ∀ {root text s s'}, root ∈ cwd.ancestors →
    (host.write (root.child Config.fileName) text).run s = (.ok (), s') →
    ∀ dir ∈ cwd.ancestors, dir.components ≠ root.components →
      ∀ name ∈ [Config.fileName, repositoryName], here s' (dir.child name) = here s (dir.child name)

/-! ### The command -/

theorem run_initFrom_of_found {cwd file : Path} {s s' : σ}
    (found : (host.findConfig cwd).run s = (some file, s')) :
    (host.initFrom cwd).run s = (alreadyThere file, s') := by
  rw [initFrom, run_bind_of_run found]
  rfl

theorem run_initFrom_of_written {cwd root : Path} {s s₁ s₂ s' : σ}
    (found : (host.findConfig cwd).run s = (none, s₁))
    (rooted : (host.findRoot cwd).run s₁ = (root, s₂))
    (written : (host.write (root.child Config.fileName) Config.default.written).run s₂ =
      (.ok (), s')) :
    (host.initFrom cwd).run s = (created (root.child Config.fileName) root, s') := by
  rw [initFrom, run_bind_of_run found]
  change (host.findRoot cwd >>= _).run s₁ = _
  rw [run_bind_of_run rooted, run_bind_of_run written]
  rfl

/-! ### What was written is found -/

theorem run_readText_of_read {file : Path} {text : String} {s s' : σ}
    (read : (host.read file).run s = (.ok text.toUTF8, s')) :
    (host.readText file).run s = (.ok text, s') := by
  have hdecode : Text.Utf8.decode? text.toUTF8 = some text :=
    Text.Utf8.decode?_eq_some_iff.mpr rfl
  rw [readText, run_bind_of_run read]
  simp only [hdecode]
  rfl

theorem run_readConfig_of_read {file : Path} {text : String} {config : Config} {s s' : σ}
    (read : (host.read file).run s = (.ok text.toUTF8, s')) (parsed : Config.read text = .ok config)
    (valid : config.firstBlank? = none) : (host.readConfig file).run s = (.ok config, s') := by
  rw [readConfig, run_bind_of_run (run_readText_of_read read)]
  simp only [parsed, valid]
  rfl

/-- A configuration of defaults that was written is read as such. -/
theorem run_readConfig_of_default {file : Path} {s s' : σ}
    (read : (host.read file).run s = (.ok Config.default.written.toUTF8, s')) :
    (host.readConfig file).run s = (.ok .default, s') :=
  run_readConfig_of_read read Config.read_written_default (by decide)

/-- The root of a loaded configuration is the directory of its file. -/
theorem run_loadConfig_of_found {dir root : Path} {config : Config} {s s₁ s' : σ}
    (found : (host.findConfig dir).run s = (some (root.child Config.fileName), s₁))
    (read : (host.readConfig (root.child Config.fileName)).run s₁ = (.ok config, s')) :
    ∃ loaded, (host.loadConfig dir).run s = (.ok loaded, s') ∧ loaded.config = config ∧
      loaded.fromFile = true ∧ loaded.root.components = root.components := by
  obtain ⟨parent, hparent, hcomponents⟩ :=
    @Path.exists_parent?_child root _ isEntryName_fileName
  refine ⟨⟨config, true, parent⟩, ?_, rfl, rfl, hcomponents⟩
  rw [loadConfig, run_bind_of_run found]
  change (host.readConfig _ >>= _).run s₁ = _
  rw [run_bind_of_run read, hparent]
  rfl

/-- **What is written at the root leaves the directories below it bare.** -/
theorem Remembers.bare_of_written {cwd dir root : Path} (remembers : host.Remembers here cwd)
    {text : String} {s s' : σ} (bare : Bare (here s) dir) (hdir : dir ∈ cwd.ancestors)
    (hroot : root ∈ cwd.ancestors) (below : root.components.length < dir.components.length)
    (written : (host.write (root.child Config.fileName) text).run s = (.ok (), s')) :
    Bare (here s') dir := by
  have hne : dir.components ≠ root.components := fun h =>
    Nat.ne_of_gt below (congrArg List.length h)
  have same := remembers.others hroot written dir hdir hne
  exact ⟨(same _ (by simp)).trans bare.config, (same _ (by simp)).trans bare.repository⟩

/-! ### The contract -/

/-- **`init` writes the configuration that `analyze` finds.** Where one is found, it refuses
and nothing changes. Otherwise there is none at the root of the project; once it is
written, it is what is found from every directory between the working directory and the
root, it loads as the defaults with the same root, and a second `init` from there
refuses. -/
theorem init_agrees_with_discovery {cwd : Path} (remembers : host.Remembers here cwd) (s : σ) :
    (∃ file, (host.findConfig cwd).run s = (some file, s) ∧
      (host.initFrom cwd).run s = (alreadyThere file, s) ∧ (alreadyThere file).status.code = 1) ∨
    ((host.findConfig cwd).run s = (none, s) ∧
      ∃ root, (host.findRoot cwd).run s = (root, s) ∧ root ∈ cwd.ancestors ∧
        here s (root.child Config.fileName) = false ∧
        ∀ s', (host.write (root.child Config.fileName) Config.default.written).run s =
            (.ok (), s') →
          (host.initFrom cwd).run s = (created (root.child Config.fileName) root, s') ∧
          ∀ dir ∈ cwd.ancestors, root ∈ dir.ancestors →
            (host.findConfig dir).run s' = (some (root.child Config.fileName), s') ∧
            (∃ loaded, (host.loadConfig dir).run s' = (.ok loaded, s') ∧
              loaded.config = .default ∧ loaded.fromFile = true ∧
              loaded.root.components = root.components) ∧
            (host.initFrom dir).run s' = (alreadyThere (root.child Config.fileName), s') ∧
            (alreadyThere (root.child Config.fileName)).status.code = 1) := by
  rcases found : (host.findConfig cwd).run s with ⟨_ | file, s₁⟩
  · cases state_of_run_findConfig remembers.sees found
    obtain ⟨below, root, above, hway, rooted, config, bare⟩ :=
      exists_root_of_run_findConfig_none remembers.sees found
    have atRoot : root ∈ cwd.ancestors := by simp [hway]
    have onWay : ∀ d ∈ below, d ∈ cwd.ancestors := fun d hd => hway ▸ List.mem_append_left _ hd
    refine .inr ⟨rfl, root, rooted, atRoot, config, ?_⟩
    intro s' written
    refine ⟨run_initFrom_of_written found rooted written, ?_⟩
    intro dir hdir hroot
    obtain ⟨between, hbetween, hsub⟩ := Path.ancestors_of_mem_ancestors hway hdir hroot
    have bare' : ∀ d ∈ between, Bare (here s') d := fun d hd =>
      remembers.bare_of_written (bare d (hsub d hd)) (onWay d (hsub d hd)) atRoot
        (Path.length_components_lt hway (hsub d hd)) written
    have found' := run_findConfig_of_bare remembers.sees hbetween bare'
      (remembers.present_written atRoot written)
    exact ⟨found', run_loadConfig_of_found found'
      (run_readConfig_of_default (remembers.read_written atRoot written)),
      run_initFrom_of_found found', rfl⟩
  · cases state_of_run_findConfig remembers.sees found
    exact .inl ⟨file, rfl, run_initFrom_of_found found, rfl⟩

end Host

/-! ### A repository without a configuration -/

namespace Files

theorem remembers_memory (cwd : Path) (sources : SourceTree) (dir : Path) :
    (host cwd sources).Remembers here dir where
  sees _ _ := rfl
  present_written _ h := by
    cases eq_put_of_run_write h
    rw [here, lookup_put_self]
    rfl
  read_written _ h := by
    cases eq_put_of_run_write h
    exact congrArg (·, _) readAt_put_self
  others {root text s s'} _ h d _ hne name hname := by
    have hentry : IsEntryName name := by
      simp only [List.mem_cons, List.not_mem_nil, or_false] at hname
      rcases hname with rfl | rfl
      · exact isEntryName_fileName
      · exact isEntryName_repositoryName
    have hplace : (d.child name).components ≠ (root.child Config.fileName).components := by
      rw [Path.components_child hentry, Path.components_child isEntryName_fileName]
      exact fun heq => hne (List.append_inj_left' heq rfl)
    cases eq_put_of_run_write h
    rw [here, lookup_put_of_ne hplace, here]

/-- A repository, and a file below it. -/
def sampleRepository : Files :=
  [((Path.mk "/work/.git").components, ""), ((Path.mk "/work/app/main.ts").components, "t('a')")]

theorem init_in_sampleRepository :
    ∃ files, ((host ⟨"/work/app"⟩ .other).initFrom ⟨"/work/app"⟩).run sampleRepository =
        (created ⟨"/work/.unusedi18nrc.json"⟩ ⟨"/work"⟩, files) ∧
      ((host ⟨"/work/app"⟩ .other).findConfig ⟨"/work/app"⟩).run files =
        (some ⟨"/work/.unusedi18nrc.json"⟩, files) ∧
      ((host ⟨"/work/app"⟩ .other).initFrom ⟨"/work/app"⟩).run files =
        (alreadyThere ⟨"/work/.unusedi18nrc.json"⟩, files) := by
  have remembers : (host ⟨"/work/app"⟩ .other).Remembers here ⟨"/work/app"⟩ :=
    remembers_memory _ _ _
  have noConfig :
      (((host ⟨"/work/app"⟩ .other).findConfig ⟨"/work/app"⟩).run sampleRepository).1 = none := by
    decide +kernel
  have atRoot :
      (((host ⟨"/work/app"⟩ .other).findRoot ⟨"/work/app"⟩).run sampleRepository).1 =
        ⟨"/work"⟩ := by
    decide +kernel
  rcases Host.init_agrees_with_discovery remembers sampleRepository with
    ⟨file, found, -⟩ | ⟨-, root, rooted, -, -, agrees⟩
  · rw [found] at noConfig
    cases noConfig
  · rw [rooted] at atRoot
    cases atRoot
    obtain ⟨first, again⟩ := agrees _ (run_write_of_not_hasBelow (by decide +kernel))
    obtain ⟨found, -, second, -⟩ := again ⟨"/work/app"⟩ (by decide +kernel) (by decide +kernel)
    exact ⟨_, first, found, second⟩

end Files

end KeyAudit
