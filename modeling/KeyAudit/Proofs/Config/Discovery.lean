/-
Where the searches up from a directory end, on a host of which `here` says what is at a
path.

A directory is bare if it holds neither a configuration nor a repository; both searches
pass over such directories. A search that finds no configuration therefore ends at the
directory with the repository, or finds nothing on the whole way up. Either way the root of
the project has no configuration, and every directory passed on the way to it is bare
(`exists_root_of_run_findConfig_none`).
-/

import KeyAudit.Proofs.Path.Components
import KeyAudit.Proofs.Scan.Fallback

namespace KeyAudit

theorem isEntryName_fileName : IsEntryName Config.fileName := by decide

theorem isEntryName_repositoryName : IsEntryName repositoryName := by decide

/-- A directory that holds neither a configuration nor a repository. -/
structure Bare (here : Path → Bool) (dir : Path) : Prop where
  config : here (dir.child Config.fileName) = false
  repository : here (dir.child repositoryName) = false

namespace Host

variable {σ : Type} {host : Host (StateM σ)} {here : σ → Path → Bool}

/-- What is at a path can be seen, and looking changes nothing. -/
def Sees (host : Host (StateM σ)) (here : σ → Path → Bool) : Prop :=
  ∀ p s, (host.present p).run s = (here s p, s)

/-! ### The search for a configuration -/

/-- What the search makes of one directory, where it sees both entries or misses them. -/
theorem run_findConfigIn_cons {dir : Path} {dirs : List Path} {s : σ} {config repository : Bool}
    (hconfig : (host.present (dir.child Config.fileName)).run s = (config, s))
    (hrepository : (host.present (dir.child repositoryName)).run s = (repository, s)) :
    (host.findConfigIn (dir :: dirs)).run s =
      if config then (some (dir.child Config.fileName), s)
      else if repository then (none, s)
      else (host.findConfigIn dirs).run s := by
  rw [findConfigIn, run_bind_of_run hconfig]
  cases config with
  | true => rfl
  | false =>
      change (host.present (dir.child repositoryName) >>= _).run s = _
      rw [run_bind_of_run hrepository]
      cases repository <;> rfl

section FindConfig

variable (sees : host.Sees here) {s : σ} {dir : Path} {dirs : List Path}

include sees

theorem run_findConfigIn_of_config (config : here s (dir.child Config.fileName) = true) :
    (host.findConfigIn (dir :: dirs)).run s = (some (dir.child Config.fileName), s) := by
  rw [run_findConfigIn_cons (sees _ s) (sees _ s), if_pos config]

/-- A repository without a configuration ends the search. -/
theorem run_findConfigIn_of_repository (config : here s (dir.child Config.fileName) = false)
    (repository : here s (dir.child repositoryName) = true) :
    (host.findConfigIn (dir :: dirs)).run s = (none, s) := by
  rw [run_findConfigIn_cons (sees _ s) (sees _ s), config, if_neg Bool.false_ne_true,
    if_pos repository]

theorem run_findConfigIn_of_bare (bare : Bare (here s) dir) :
    (host.findConfigIn (dir :: dirs)).run s = (host.findConfigIn dirs).run s := by
  rw [run_findConfigIn_cons (sees _ s) (sees _ s), bare.config, bare.repository,
    if_neg Bool.false_ne_true, if_neg Bool.false_ne_true]

/-- **Bare directories are passed over.** -/
theorem run_findConfigIn_append {below : List Path} (bare : ∀ d ∈ below, Bare (here s) d) :
    (host.findConfigIn (below ++ dirs)).run s = (host.findConfigIn dirs).run s := by
  induction below with
  | nil => rfl
  | cons d below ih =>
      rw [List.cons_append, run_findConfigIn_of_bare sees (bare d List.mem_cons_self)]
      exact ih fun e he => bare e (List.mem_cons_of_mem _ he)

/-- A configuration is found from every directory below which only bare ones lie. -/
theorem run_findConfig_of_bare {root : Path} {below above : List Path}
    (hway : dir.ancestors = below ++ root :: above) (bare : ∀ d ∈ below, Bare (here s) d)
    (config : here s (root.child Config.fileName) = true) :
    (host.findConfig dir).run s = (some (root.child Config.fileName), s) := by
  rw [findConfig, hway, run_findConfigIn_append sees bare, run_findConfigIn_of_config sees config]

/-- What a search comes to: a configuration behind bare directories, a repository behind
bare directories, or nothing where all are bare. -/
theorem run_findConfigIn_cases (dirs : List Path) (s : σ) :
    (∃ below dir above, dirs = below ++ dir :: above ∧ (∀ d ∈ below, Bare (here s) d) ∧
      here s (dir.child Config.fileName) = true ∧
      (host.findConfigIn dirs).run s = (some (dir.child Config.fileName), s)) ∨
    (∃ below dir above, dirs = below ++ dir :: above ∧ (∀ d ∈ below, Bare (here s) d) ∧
      here s (dir.child Config.fileName) = false ∧ here s (dir.child repositoryName) = true ∧
      (host.findConfigIn dirs).run s = (none, s)) ∨
    ((∀ d ∈ dirs, Bare (here s) d) ∧ (host.findConfigIn dirs).run s = (none, s)) := by
  induction dirs with
  | nil => exact .inr (.inr ⟨fun d hd => absurd hd List.not_mem_nil, rfl⟩)
  | cons dir dirs ih =>
      cases config : here s (dir.child Config.fileName) with
      | true =>
          exact .inl ⟨[], dir, dirs, rfl, fun d hd => absurd hd List.not_mem_nil, config,
            run_findConfigIn_of_config sees config⟩
      | false =>
          cases repository : here s (dir.child repositoryName) with
          | true =>
              exact .inr (.inl ⟨[], dir, dirs, rfl, fun d hd => absurd hd List.not_mem_nil, config,
                repository, run_findConfigIn_of_repository sees config repository⟩)
          | false =>
              have bare : Bare (here s) dir := ⟨config, repository⟩
              rw [run_findConfigIn_of_bare sees bare]
              rcases ih with ⟨below, d, above, rfl, hbelow, hfound⟩ |
                ⟨below, d, above, rfl, hbelow, hfound⟩ | ⟨hall, hnone⟩
              · exact .inl ⟨dir :: below, d, above, rfl, List.forall_mem_cons.mpr ⟨bare, hbelow⟩,
                  hfound⟩
              · exact .inr (.inl ⟨dir :: below, d, above, rfl,
                  List.forall_mem_cons.mpr ⟨bare, hbelow⟩, hfound⟩)
              · exact .inr (.inr ⟨List.forall_mem_cons.mpr ⟨bare, hall⟩, hnone⟩)

/-- A search changes nothing. -/
theorem state_of_run_findConfig {found : Option Path} {s' : σ}
    (h : (host.findConfig dir).run s = (found, s')) : s' = s := by
  rw [findConfig] at h
  rcases run_findConfigIn_cases sees dir.ancestors s with ⟨_, _, _, _, _, _, hrun⟩ |
    ⟨_, _, _, _, _, _, _, hrun⟩ | ⟨_, hrun⟩
  · exact (Prod.mk.inj (h.symm.trans hrun)).2
  · exact (Prod.mk.inj (h.symm.trans hrun)).2
  · exact (Prod.mk.inj (h.symm.trans hrun)).2

end FindConfig

/-! ### The search for a repository -/

section FindRepository

variable (sees : host.Sees here) {s : σ} {dir : Path} {dirs : List Path}

include sees

theorem run_findRepositoryIn_of_repository (repository : here s (dir.child repositoryName) = true) :
    (host.findRepositoryIn (dir :: dirs)).run s = (some dir, s) := by
  have hrepository := sees (dir.child repositoryName) s
  rw [findRepositoryIn, run_bind_of_run hrepository, repository]
  rfl

theorem run_findRepositoryIn_append {below : List Path}
    (without : ∀ d ∈ below, here s (d.child repositoryName) = false) :
    (host.findRepositoryIn (below ++ dirs)).run s = (host.findRepositoryIn dirs).run s := by
  induction below with
  | nil => rfl
  | cons d below ih =>
      have hrepository := sees (d.child repositoryName) s
      rw [List.cons_append, findRepositoryIn, run_bind_of_run hrepository,
        without d List.mem_cons_self]
      exact ih fun e he => without e (List.mem_cons_of_mem _ he)

end FindRepository

theorem run_findRoot {dir : Path} {found : Option Path} {s s' : σ}
    (h : (host.findRepositoryIn dir.ancestors).run s = (found, s')) :
    (host.findRoot dir).run s = (found.getD dir, s') := by
  rw [findRoot, run_bind_of_run h]
  rfl

/-! ### Both together -/

/-- **Where no configuration is found, the root of the project has none**, and the
directories below the root are bare. -/
theorem exists_root_of_run_findConfig_none (sees : host.Sees here) {dir : Path} {s : σ}
    (h : (host.findConfig dir).run s = (none, s)) :
    ∃ below root above, dir.ancestors = below ++ root :: above ∧
      (host.findRoot dir).run s = (root, s) ∧ here s (root.child Config.fileName) = false ∧
      ∀ d ∈ below, Bare (here s) d := by
  rcases run_findConfigIn_cases sees dir.ancestors s with ⟨below, root, above, -, -, -, hfound⟩ |
    ⟨below, root, above, hway, hbare, config, repository, -⟩ | ⟨hbare, -⟩
  · rw [findConfig, hfound] at h
    cases h
  · have hsearch : (host.findRepositoryIn dir.ancestors).run s = (some root, s) := by
      rw [hway, run_findRepositoryIn_append sees fun d hd => (hbare d hd).repository,
        run_findRepositoryIn_of_repository sees repository]
    exact ⟨below, root, above, hway, run_findRoot hsearch, config, hbare⟩
  · have hsearch : (host.findRepositoryIn dir.ancestors).run s = (none, s) := by
      have happend := @run_findRepositoryIn_append σ host here sees s [] dir.ancestors
        fun d hd => (hbare d hd).repository
      rwa [List.append_nil] at happend
    obtain ⟨above, habove⟩ := Path.exists_ancestors_eq_cons dir
    have hdir : dir ∈ dir.ancestors := habove ▸ List.mem_cons_self
    exact ⟨[], dir, above, habove, run_findRoot hsearch, (hbare dir hdir).config,
      fun d hd => absurd hd List.not_mem_nil⟩

end Host

end KeyAudit
