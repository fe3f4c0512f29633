/-
The search for a configuration ends at the repository.

`LooksUp` is the search as it goes: it looks for a configuration in a directory, then for a
repository, and goes on in the parent only if neither is there. It ends from every
directory, and as `findConfig` does (`run_findConfig_iff`), with the first configuration on
the way up before which all directories are bare. So where a directory on the way holds a
repository, nothing above the nearest such directory is looked at (`run_findConfigIn_congr`).

* `search_ends_at_repository` — **what the search finds, and what it never comes to.**
-/

import KeyAudit.Proofs.Config.Discovery
import KeyAudit.Proofs.Host.Memory

namespace KeyAudit

/-! ### Directories on a way up -/

/-- No two directories on a way up have the same components. -/
theorem Path.eq_of_mem_ancestors {p a b : Path} (ha : a ∈ p.ancestors) (hb : b ∈ p.ancestors)
    (h : a.components = b.components) : a = b := by
  have hpairwise := p.pairwise_ancestors
  obtain ⟨below, above, hway⟩ := List.append_of_mem ha
  rw [hway] at hb hpairwise
  rw [List.pairwise_append, List.pairwise_cons] at hpairwise
  obtain ⟨-, ⟨hless, -⟩, hmore⟩ := hpairwise
  rcases List.mem_append.mp hb with hb | hb
  · have hlt := hmore b hb a List.mem_cons_self
    rw [h] at hlt
    exact absurd hlt (Nat.lt_irrefl _)
  · rcases List.mem_cons.mp hb with rfl | hb
    · rfl
    · have hlt := hless b hb
      rw [h] at hlt
      exact absurd hlt (Nat.lt_irrefl _)

/-- Directories on a way up have different entries. -/
theorem Path.eq_of_child_eq {p a b : Path} {name : String} (hname : IsEntryName name)
    (ha : a ∈ p.ancestors) (hb : b ∈ p.ancestors) (h : a.child name = b.child name) : a = b := by
  have hcomponents := congrArg Path.components h
  rw [Path.components_child hname, Path.components_child hname] at hcomponents
  exact Path.eq_of_mem_ancestors ha hb (List.append_cancel_right hcomponents)

/-! ### The search as it goes -/

/-- How the search that goes up from a directory ends, one directory after the other. -/
inductive LooksUp (here : Path → Bool) : Path → Option Path → Prop where
  | config {dir : Path} : here (dir.child Config.fileName) = true →
      LooksUp here dir (some (dir.child Config.fileName))
  | repository {dir : Path} : here (dir.child Config.fileName) = false →
      here (dir.child repositoryName) = true → LooksUp here dir none
  /-- There is no parent to go on in. -/
  | top {dir : Path} : Bare here dir → dir.parent? = none → LooksUp here dir none
  | up {dir parent : Path} {found : Option Path} : Bare here dir → dir.parent? = some parent →
      LooksUp here parent found → LooksUp here dir found

/-- **The search ends from every directory.** -/
theorem exists_looksUp (here : Path → Bool) (dir : Path) : ∃ found, LooksUp here dir found := by
  induction dir using Path.parent_induction with
  | top dir hparent =>
      cases config : here (dir.child Config.fileName) with
      | true => exact ⟨_, .config config⟩
      | false =>
          cases repository : here (dir.child repositoryName) with
          | true => exact ⟨_, .repository config repository⟩
          | false => exact ⟨_, .top ⟨config, repository⟩ hparent⟩
  | below dir parent hparent ih =>
      cases config : here (dir.child Config.fileName) with
      | true => exact ⟨_, .config config⟩
      | false =>
          cases repository : here (dir.child repositoryName) with
          | true => exact ⟨_, .repository config repository⟩
          | false =>
              obtain ⟨found, hfound⟩ := ih
              exact ⟨found, .up ⟨config, repository⟩ hparent hfound⟩

/-- The first directory on the way up that holds a configuration; those before it hold no
repository either. -/
def FirstConfigured (here : Path → Bool) (start dir : Path) : Prop :=
  ∃ nearer farther, start.ancestors = nearer ++ dir :: farther ∧ (∀ d ∈ nearer, Bare here d) ∧
    here (dir.child Config.fileName) = true

namespace Host

variable {σ : Type} {host host' : Host (StateM σ)} {here : σ → Path → Bool} {s : σ}
  {start dir root : Path} {below above : List Path}

theorem run_findConfig_of_looksUp (sees : host.Sees here) {found : Option Path}
    (h : LooksUp (here s) dir found) : (host.findConfig dir).run s = (found, s) := by
  induction h with
  | @config dir config =>
      obtain ⟨above, habove⟩ := dir.exists_ancestors_eq_cons
      rw [findConfig, habove, run_findConfigIn_of_config sees config]
  | @repository dir config repository =>
      obtain ⟨above, habove⟩ := dir.exists_ancestors_eq_cons
      rw [findConfig, habove, run_findConfigIn_of_repository sees config repository]
  | top bare hparent =>
      rw [findConfig, Path.ancestors_of_parent?_eq_none hparent, run_findConfigIn_of_bare sees bare]
      rfl
  | up bare hparent _ ih =>
      rw [findConfig, Path.ancestors_of_parent? hparent, run_findConfigIn_of_bare sees bare]
      exact ih

/-- **What is found is where the search ends.** -/
theorem run_findConfig_iff (sees : host.Sees here) {found : Option Path} :
    (host.findConfig dir).run s = (found, s) ↔ LooksUp (here s) dir found := by
  constructor
  · intro h
    obtain ⟨found', hfound'⟩ := exists_looksUp (here s) dir
    cases h.symm.trans (run_findConfig_of_looksUp sees hfound')
    exact hfound'
  · exact run_findConfig_of_looksUp sees

/-- A file that is found is the configuration of the first directory that holds one. -/
theorem exists_firstConfigured (sees : host.Sees here) {file : Path}
    (h : (host.findConfig start).run s = (some file, s)) :
    ∃ dir, FirstConfigured (here s) start dir ∧ file = dir.child Config.fileName := by
  rw [findConfig] at h
  rcases run_findConfigIn_cases sees start.ancestors s with
    ⟨nearer, dir, farther, hway, bare, config, hrun⟩ | ⟨_, _, _, _, _, _, _, hrun⟩ | ⟨_, hrun⟩
  · cases h.symm.trans hrun
    exact ⟨dir, ⟨nearer, farther, hway, bare, config⟩, rfl⟩
  · cases h.symm.trans hrun
  · cases h.symm.trans hrun

theorem run_findConfig_of_first (sees : host.Sees here) (first : FirstConfigured (here s) start dir) :
    (host.findConfig start).run s = (some (dir.child Config.fileName), s) := by
  obtain ⟨nearer, farther, hway, bare, config⟩ := first
  exact run_findConfig_of_bare sees hway bare config

/-- **The search finds the configuration of a directory exactly if that directory is the first
to hold one.** -/
theorem run_findConfig_eq_some_iff (sees : host.Sees here) (hdir : dir ∈ start.ancestors) :
    (host.findConfig start).run s = (some (dir.child Config.fileName), s) ↔
      FirstConfigured (here s) start dir := by
  constructor
  · intro h
    obtain ⟨dir', first, hfile⟩ := exists_firstConfigured sees h
    have hdir' : dir' ∈ start.ancestors := by
      obtain ⟨nearer, farther, hway, -, -⟩ := first
      simp [hway]
    rwa [Path.eq_of_child_eq isEntryName_fileName hdir hdir' hfile]
  · exact run_findConfig_of_first sees

/-! ### The repository on the way -/

/-- The nearest directory with a repository, and the directories before it. -/
structure NearestRepository (here : Path → Bool) (start : Path) (below : List Path) (root : Path)
    (above : List Path) : Prop where
  way : start.ancestors = below ++ root :: above
  without : ∀ d ∈ below, here (d.child repositoryName) = false
  repository : here (root.child repositoryName) = true

theorem exists_nearestRepository (here : Path → Bool) {repo : Path} (hrepo : repo ∈ start.ancestors)
    (repository : here (repo.child repositoryName) = true) :
    ∃ below root above, NearestRepository here start below root above := by
  generalize hway : start.ancestors = dirs at hrepo
  suffices ∃ below root above, dirs = below ++ root :: above ∧
      (∀ d ∈ below, here (d.child repositoryName) = false) ∧
      here (root.child repositoryName) = true by
    obtain ⟨below, root, above, hdirs, without, hroot⟩ := this
    exact ⟨below, root, above, hway.trans hdirs, without, hroot⟩
  clear hway
  induction dirs with
  | nil => cases hrepo
  | cons d dirs ih =>
      cases hd : here (d.child repositoryName) with
      | true => exact ⟨[], d, dirs, rfl, fun e he => absurd he List.not_mem_nil, hd⟩
      | false =>
          have hrest : repo ∈ dirs := by
            rcases List.mem_cons.mp hrepo with rfl | hrest
            · exact absurd (hd.symm.trans repository) Bool.false_ne_true
            · exact hrest
          obtain ⟨below, root, above, rfl, without, hroot⟩ := ih hrest
          exact ⟨d :: below, root, above, rfl, List.forall_mem_cons.mpr ⟨hd, without⟩, hroot⟩

section Nearest

variable (sees : host.Sees here) (nearest : NearestRepository (here s) start below root above)

include sees nearest

theorem run_findRoot_of_nearest : (host.findRoot start).run s = (root, s) := by
  have hsearch : (host.findRepositoryIn start.ancestors).run s = (some root, s) := by
    rw [nearest.way, run_findRepositoryIn_append sees nearest.without,
      run_findRepositoryIn_of_repository sees nearest.repository]
  exact run_findRoot hsearch

/-- **What is found lies in the repository.** -/
theorem exists_within_of_run_findConfig {file : Path}
    (h : (host.findConfig start).run s = (some file, s)) :
    ∃ dir ∈ below ++ [root], file = dir.child Config.fileName := by
  obtain ⟨dir, ⟨nearer, farther, hway, bare, -⟩, rfl⟩ := exists_firstConfigured sees h
  refine ⟨dir, ?_, rfl⟩
  rw [nearest.way] at hway
  rcases List.append_eq_append_iff.mp hway with ⟨rest, hnearer, hrest⟩ | ⟨rest, hbelow, hrest⟩
  · cases rest with
    | nil => exact List.mem_append_right _ (List.mem_singleton.mpr (List.cons.inj hrest).1.symm)
    | cons d rest =>
        -- the root would be a bare directory
        have hroot : root ∈ nearer := by
          rw [hnearer, (List.cons.inj hrest).1]
          exact List.mem_append_right _ List.mem_cons_self
        exact absurd ((bare root hroot).repository.symm.trans nearest.repository)
          Bool.false_ne_true
  · cases rest with
    | nil => exact List.mem_append_right _ (List.mem_singleton.mpr (List.cons.inj hrest).1)
    | cons d rest =>
        rw [hbelow, (List.cons.inj hrest).1]
        simp

/-- A configuration beside the repository is found if there is none nearer. -/
theorem run_findConfig_of_beside (config : here s (root.child Config.fileName) = true)
    (none : ∀ d ∈ below, here s (d.child Config.fileName) = false) :
    (host.findConfig start).run s = (some (root.child Config.fileName), s) :=
  run_findConfig_of_bare sees nearest.way (fun d hd => ⟨none d hd, nearest.without d hd⟩) config

/-- Where there is a configuration beside the repository, one is found. -/
theorem exists_run_findConfig_of_beside (config : here s (root.child Config.fileName) = true) :
    ∃ dir ∈ below ++ [root],
      (host.findConfig start).run s = (some (dir.child Config.fileName), s) := by
  rcases hrun : (host.findConfig start).run s with ⟨found, s'⟩
  cases state_of_run_findConfig sees hrun
  cases found with
  | some file =>
      obtain ⟨dir, hdir, rfl⟩ := exists_within_of_run_findConfig sees nearest hrun
      exact ⟨dir, hdir, rfl⟩
  | none =>
      obtain ⟨below', root', above', hway, hroot, without, -⟩ :=
        exists_root_of_run_findConfig_none sees hrun
      rw [run_findRoot_of_nearest sees nearest] at hroot
      cases hroot
      exact absurd (without.symm.trans config) Bool.false_ne_true

end Nearest

/-! ### What is never come to -/

/-- The hosts answer alike about what these directories hold for the searches. -/
structure AgreesIn (host host' : Host (StateM σ)) (dirs : List Path) : Prop where
  config : ∀ d ∈ dirs, host'.present (d.child Config.fileName) =
    host.present (d.child Config.fileName)
  repository : ∀ d ∈ dirs, host'.present (d.child repositoryName) =
    host.present (d.child repositoryName)
  read : ∀ d ∈ dirs, host'.read (d.child Config.fileName) = host.read (d.child Config.fileName)

theorem AgreesIn.mono {dirs dirs' : List Path} (agrees : AgreesIn host host' dirs)
    (h : ∀ d ∈ dirs', d ∈ dirs) : AgreesIn host host' dirs' where
  config d hd := agrees.config d (h d hd)
  repository d hd := agrees.repository d (h d hd)
  read d hd := agrees.read d (h d hd)

/-- **Nothing above a repository is looked at.** -/
theorem run_findConfigIn_congr (sees : host.Sees here)
    (agrees : AgreesIn host host' (below ++ [root]))
    (repository : here s (root.child repositoryName) = true) :
    (host'.findConfigIn (below ++ root :: above)).run s =
      (host.findConfigIn (below ++ root :: above)).run s := by
  have answers {d : Path} (hd : d ∈ below ++ [root]) (dirs : List Path) :=
    @run_findConfigIn_cons σ host' d dirs s _ _
      ((congrArg (·.run s) (agrees.config d hd)).trans (sees _ s))
      ((congrArg (·.run s) (agrees.repository d hd)).trans (sees _ s))
  induction below with
  | nil =>
      rw [List.nil_append, answers (List.mem_singleton_self root),
        run_findConfigIn_cons (sees _ s) (sees _ s), repository, if_pos rfl, if_pos rfl]
  | cons d below ih =>
      have hrest := ih (agrees.mono fun e he => List.mem_cons_of_mem d he) fun he dirs =>
        answers (List.mem_cons_of_mem d he) dirs
      rw [List.cons_append, answers List.mem_cons_self, run_findConfigIn_cons (sees _ s) (sees _ s),
        hrest]

theorem readConfig_congr {file : Path} (h : host'.read file = host.read file) :
    host'.readConfig file = host.readConfig file := by
  unfold readConfig readText
  rw [h]

/-- **Nor is it read.** -/
theorem run_loadConfig_congr (sees : host.Sees here)
    (nearest : NearestRepository (here s) start below root above)
    (agrees : AgreesIn host host' (below ++ [root])) :
    (host'.loadConfig start).run s = (host.loadConfig start).run s := by
  have hfind : (host'.findConfig start).run s = (host.findConfig start).run s := by
    rw [findConfig, findConfig, nearest.way,
      run_findConfigIn_congr sees agrees nearest.repository]
  rcases hrun : (host.findConfig start).run s with ⟨found, s'⟩
  cases state_of_run_findConfig sees hrun
  rw [loadConfig, loadConfig, run_bind_of_run hrun, run_bind_of_run (hfind.trans hrun)]
  cases found with
  | none => rfl
  | some file =>
      obtain ⟨dir, hdir, rfl⟩ := exists_within_of_run_findConfig sees nearest hrun
      change (host'.readConfig _ >>= _).run s = (host.readConfig _ >>= _).run s
      rw [readConfig_congr (agrees.read dir hdir)]

/-- **The search for a configuration ends at the repository.** It ends from every directory,
relative or not, and finds the configuration of a directory on the way up exactly if it is
the first to hold one and none before it holds a repository. Where some directory on the way
holds a repository, let `root` be the nearest: what is found lies at the root or below it; a
configuration beside the repository is found, unless there is one nearer; and whatever the
system says or does about the directories above, the same configuration is found and loaded. -/
theorem search_ends_at_repository (sees : host.Sees here) (start : Path) (s : σ) :
    (∃ found, LooksUp (here s) start found) ∧
    (∀ found, LooksUp (here s) start found ↔ (host.findConfig start).run s = (found, s)) ∧
    (∀ file, (host.findConfig start).run s = (some file, s) →
      ∃ dir ∈ start.ancestors, file = dir.child Config.fileName) ∧
    (∀ dir ∈ start.ancestors,
      (host.findConfig start).run s = (some (dir.child Config.fileName), s) ↔
        FirstConfigured (here s) start dir) ∧
    ∀ repo ∈ start.ancestors, here s (repo.child repositoryName) = true →
      ∃ below root above, NearestRepository (here s) start below root above ∧
        (host.findRoot start).run s = (root, s) ∧
        (∀ file, (host.findConfig start).run s = (some file, s) →
          ∃ dir ∈ below ++ [root], file = dir.child Config.fileName) ∧
        (here s (root.child Config.fileName) = true →
          (∃ dir ∈ below ++ [root],
            (host.findConfig start).run s = (some (dir.child Config.fileName), s)) ∧
          ((∀ d ∈ below, here s (d.child Config.fileName) = false) →
            (host.findConfig start).run s = (some (root.child Config.fileName), s))) ∧
        ∀ host', AgreesIn host host' (below ++ [root]) →
          (host'.findConfig start).run s = (host.findConfig start).run s ∧
          (host'.loadConfig start).run s = (host.loadConfig start).run s := by
  refine ⟨exists_looksUp _ _, fun found => (run_findConfig_iff sees).symm, ?_,
    fun dir => run_findConfig_eq_some_iff sees, ?_⟩
  · intro file h
    obtain ⟨dir, ⟨nearer, farther, hway, -, -⟩, hfile⟩ := exists_firstConfigured sees h
    exact ⟨dir, by simp [hway], hfile⟩
  · intro repo hrepo repository
    obtain ⟨below, root, above, nearest⟩ := exists_nearestRepository (here s) hrepo repository
    refine ⟨below, root, above, nearest, run_findRoot_of_nearest sees nearest,
      fun file => exists_within_of_run_findConfig sees nearest, ?_, ?_⟩
    · intro config
      exact ⟨exists_run_findConfig_of_beside sees nearest config,
        run_findConfig_of_beside sees nearest config⟩
    · intro host' agrees
      refine ⟨?_, run_loadConfig_congr sees nearest agrees⟩
      rw [findConfig, findConfig, nearest.way,
        run_findConfigIn_congr sees agrees nearest.repository]

end Host

/-! ### A repository below a configuration -/

namespace Files

/-- A configuration above a repository, and one beside it. -/
def sampleNested : Files :=
  [((Path.mk ".unusedi18nrc.json").components, "{}"), ((Path.mk "app/.git").components, ""),
    ((Path.mk "app/.unusedi18nrc.json").components, "{}")]

/-- From a relative directory in the repository its configuration is found, even beside the
repository; the one above is found from outside only. -/
theorem search_ends_in_sampleNested :
    (host ⟨"/"⟩ .other).Sees here ∧
      ((host ⟨"/"⟩ .other).findConfig ⟨"app/src"⟩).run sampleNested =
        (some ⟨"app/.unusedi18nrc.json"⟩, sampleNested) ∧
      ((host ⟨"/"⟩ .other).findRoot ⟨"app/src"⟩).run sampleNested = (⟨"app"⟩, sampleNested) ∧
      ((host ⟨"/"⟩ .other).findConfig ⟨"lib"⟩).run sampleNested =
        (some ⟨".unusedi18nrc.json"⟩, sampleNested) := by
  have sees : (host ⟨"/"⟩ .other).Sees here := fun _ _ => rfl
  obtain ⟨-, -, -, hfound, hnearest⟩ :=
    Host.search_ends_at_repository sees ⟨"app/src"⟩ sampleNested
  obtain ⟨-, -, -, houtside, -⟩ := Host.search_ends_at_repository sees ⟨"lib"⟩ sampleNested
  have hbare : ∀ p : Path, here sampleNested (p.child Config.fileName) = false →
      here sampleNested (p.child repositoryName) = false → Bare (here sampleNested) p :=
    fun _ config repository => ⟨config, repository⟩
  refine ⟨sees, ?_, ?_, ?_⟩
  · refine (hfound ⟨"app"⟩ (by decide +kernel)).mpr
      ⟨[⟨"app/src"⟩], [⟨""⟩], by decide +kernel, ?_, by decide +kernel⟩
    intro d hd
    cases List.mem_singleton.mp hd
    exact hbare _ (by decide +kernel) (by decide +kernel)
  · obtain ⟨below, root, above, -, hroot, -⟩ :=
      hnearest ⟨"app"⟩ (by decide +kernel) (by decide +kernel)
    have happ : (((host ⟨"/"⟩ .other).findRoot ⟨"app/src"⟩).run sampleNested).1 = ⟨"app"⟩ := by
      decide +kernel
    rw [hroot] at happ ⊢
    cases happ
    rfl
  · refine (houtside ⟨""⟩ (by decide +kernel)).mpr
      ⟨[⟨"lib"⟩], [], by decide +kernel, ?_, by decide +kernel⟩
    intro d hd
    cases List.mem_singleton.mp hd
    exact hbare _ (by decide +kernel) (by decide +kernel)

end Files

end KeyAudit
