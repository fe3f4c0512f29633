/-
What the two searches of one scan give together.

Both searches visit the same files, so that what one could not read the other could not read
either, and in the order of its own. `Ripgrep.Reported` says what is left of all reports in
one list: each of them once, where it came first. It is kept by one warning more
(`Reported.step`), hence by the warnings of a whole search (`Reported.addWarnings`), whatever
repetitions they hold, and it leaves no choice (`Reported.unique`).

* `searches_merge` — **a scan fails as the first search that fails, and else has the keys of
  both searches and each of their warnings once.**
-/

import KeyAudit.Proofs.Scan.Fallback
import Mathlib.Data.List.Basic

namespace KeyAudit

namespace Ripgrep

/-! ### Warnings, each once -/

/-- The list has the members of `reports`, each once and in the order in which they are first
reported. -/
structure Reported (reports listed : List SourceWarning) : Prop where
  mem_iff : ∀ w, w ∈ listed ↔ w ∈ reports
  order : listed.Pairwise fun v w => reports.idxOf v < reports.idxOf w

namespace Reported

variable {reports listed listed' : List SourceWarning}

theorem nil : Reported [] [] := ⟨fun _ => Iff.rfl, .nil⟩

theorem nodup (h : Reported reports listed) : listed.Nodup := by
  refine h.order.imp ?_
  rintro v w hless rfl
  exact Nat.lt_irrefl _ hless

/-- There is one such list. -/
theorem unique (h : Reported reports listed) (h' : Reported reports listed') :
    listed = listed' := by
  have hperm : listed.Perm listed' :=
    (List.perm_ext_iff_of_nodup h.nodup h'.nodup).mpr fun w =>
      (h.mem_iff w).trans (h'.mem_iff w).symm
  refine hperm.eq_of_pairwise ?_ h.order h'.order
  intro v w _ _ hless hless'
  exact absurd hless' (Nat.lt_asymm hless)

/-- The members of a list that holds them already keep their places when more is reported. -/
theorem order_append (h : Reported reports listed) (more : List SourceWarning) :
    listed.Pairwise fun v w => (reports ++ more).idxOf v < (reports ++ more).idxOf w := by
  refine h.order.imp_of_mem ?_
  intro v w hv hw hless
  rwa [List.idxOf_append_of_mem ((h.mem_iff v).mp hv),
    List.idxOf_append_of_mem ((h.mem_iff w).mp hw)]

/-- Reports of what is listed already change nothing. -/
theorem of_subset (h : Reported reports listed) {more : List SourceWarning}
    (hmore : more ⊆ reports) : Reported (reports ++ more) listed := by
  refine ⟨?_, h.order_append more⟩
  intro w
  rw [h.mem_iff, List.mem_append]
  exact ⟨.inl, fun hw => hw.elim id (@hmore w)⟩

/-- A report of something new stands last. -/
theorem of_not_mem (h : Reported reports listed) {w : SourceWarning} (hw : w ∉ reports) :
    Reported (reports ++ [w]) (listed ++ [w]) := by
  constructor
  · intro v
    rw [List.mem_append, List.mem_append, h.mem_iff]
  · rw [List.pairwise_append]
    refine ⟨h.order_append [w], List.pairwise_singleton _ w, ?_⟩
    intro v hv u hu
    obtain rfl := List.mem_singleton.mp hu
    have hreported := (h.mem_iff v).mp hv
    rw [List.idxOf_append_of_mem hreported, List.idxOf_append_of_notMem hw]
    exact Nat.lt_add_right _ (List.idxOf_lt_length_of_mem hreported)

/-- **One report more**, new or not. -/
theorem step (h : Reported reports listed) (w : SourceWarning) :
    Reported (reports ++ [w]) (if w ∈ listed then listed else listed ++ [w]) := by
  split
  · rename_i hw
    exact h.of_subset (List.cons_subset.mpr ⟨(h.mem_iff w).mp hw, List.nil_subset _⟩)
  · rename_i hw
    exact h.of_not_mem fun hreported => hw ((h.mem_iff w).mpr hreported)

/-- **The reports of a whole search.** -/
theorem addWarnings (h : Reported reports listed) (more : List SourceWarning) :
    Reported (reports ++ more) (addWarnings listed more) := by
  induction more generalizing reports listed with
  | nil => rwa [List.append_nil]
  | cons w more ih =>
      have hrest := ih (h.step w)
      rwa [List.append_assoc, List.singleton_append] at hrest

end Reported

/-- Two searches that start from nothing leave each of their warnings once. -/
theorem reported_add (first second : Search) :
    Reported (first.warnings ++ second.warnings)
      ((Search.start.add first).add second).warnings := by
  have hfirst : Reported first.warnings (Search.start.add first).warnings :=
    Reported.nil.addWarnings first.warnings
  exact hfirst.addWarnings second.warnings

theorem mem_keys_add (first second : Search) (key : String) :
    key ∈ ((Search.start.add first).add second).keys ↔
      key ∈ first.keys ∨ key ∈ second.keys := by
  have hstart : key ∉ Search.start.keys := KeySet.not_mem_empty
  simp only [Search.add, KeySet.mem_union, hstart, false_or]

end Ripgrep

/-! ### Both searches of a scan -/

namespace Host

variable {σ : Type} {host : Host (StateM σ)} {program root : Path} {s s₁ s₂ : σ}
  {first second : Except Problem Ripgrep.Search}

/-- **Both searches are taken together.** A scan fails if and only if one of them does, and
with the problem of the first that does. Otherwise its keys are those of either search, and
its warnings those of either search, each once: in the order of the first list, and then in
that of the second. So if the second search warns of nothing else than the first, in
whatever order, the list is the one that the first search leaves alone. -/
theorem searches_merge (ran : (host.search program root .mark).run s = (first, s₁))
    (again : (host.search program root .lineEnd).run s₁ = (second, s₂)) :
    ((∃ problem s', (host.scanByRipgrep program root).run s = (.error problem, s')) ↔
      (∃ problem, first = .error problem) ∨ ∃ problem, second = .error problem) ∧
    (∀ problem, first = .error problem →
      (host.scanByRipgrep program root).run s = (.error problem, s₁)) ∧
    (∀ found problem, first = .ok found → second = .error problem →
      (host.scanByRipgrep program root).run s = (.error problem, s₂)) ∧
    ∀ found more, first = .ok found → second = .ok more →
      ∃ scan, (host.scanByRipgrep program root).run s = (.ok scan, s₂) ∧
        (∀ key, key ∈ scan.keys ↔ key ∈ found.keys ∨ key ∈ more.keys) ∧
        scan.warnings.Nodup ∧
        Ripgrep.Reported (found.warnings ++ more.warnings) scan.warnings ∧
        (more.warnings ⊆ found.warnings → Ripgrep.Reported found.warnings scan.warnings) := by
  have hfirst (problem : Problem) (h : first = .error problem) :
      (host.scanByRipgrep program root).run s = (.error problem, s₁) :=
    run_scanByRipgrep_of_searchesEnd (.firstFails (h ▸ ran))
  have hsecond (found : Ripgrep.Search) (problem : Problem) (h : first = .ok found)
      (h' : second = .error problem) :
      (host.scanByRipgrep program root).run s = (.error problem, s₂) :=
    run_scanByRipgrep_of_searchesEnd (.secondFails (h ▸ ran) (h' ▸ again))
  have hboth (found more : Ripgrep.Search) (h : first = .ok found) (h' : second = .ok more) :
      (host.scanByRipgrep program root).run s =
        (.ok ((Ripgrep.Search.start.add found).add more).scan, s₂) :=
    run_scanByRipgrep_of_searchesEnd (.bothFind (h ▸ ran) (h' ▸ again))
  refine ⟨?_, hfirst, hsecond, ?_⟩
  · constructor
    · rintro ⟨problem, s', hfails⟩
      cases first with
      | error problem => exact .inl ⟨problem, rfl⟩
      | ok found =>
          cases second with
          | error problem => exact .inr ⟨problem, rfl⟩
          | ok more =>
              rw [hboth found more rfl rfl] at hfails
              cases hfails
    · intro hfails
      cases first with
      | error problem => exact ⟨problem, s₁, hfirst problem rfl⟩
      | ok found =>
          obtain ⟨_, ⟨⟩⟩ | ⟨problem, rfl⟩ := hfails
          exact ⟨problem, s₂, hsecond found problem rfl rfl⟩
  · intro found more h h'
    have reported := Ripgrep.reported_add found more
    refine ⟨_, hboth found more h h', ?_, reported.nodup, reported, ?_⟩
    · exact Ripgrep.mem_keys_add found more
    · intro hmore
      have halone : Ripgrep.Reported found.warnings _ :=
        Ripgrep.Reported.nil.addWarnings found.warnings
      have hsame := reported.unique (halone.of_subset hmore)
      rwa [← hsame] at halone

end Host

/-! ### Searches that report in different orders -/

namespace Merged

/-- The program has found a key and complained of some files. -/
def sampleDone (stdout stderr : String) : Finished :=
  ⟨.exited 2, stdout.toUTF8.data.toList, stderr.toUTF8.data.toList⟩

/-- A host whose state counts the runs of its program. The first search complains of one file
twice; the second knows one file more and has the others the other way round. -/
def sampleHost : Host (StateM Nat) :=
  { Fallback.sampleHost with
    present := fun _ => return true
    run := fun _ _ runs => match runs with
      | 0 => (.ok (sampleDone "k\n" "b: x\na: y\nb: x\n"), 1)
      | n => (.ok (sampleDone "j\n" "a: y\nc: z\nb: x\n"), n + 1) }

theorem search_sampleHost :
    (sampleHost.search ⟨"rg"⟩ ⟨"src"⟩ .mark).run 0 =
      (.ok ⟨.ofList ["k"], [⟨"b", "x"⟩, ⟨"a", "y"⟩, ⟨"b", "x"⟩]⟩, 1) := by
  rfl

theorem search_again_sampleHost :
    (sampleHost.search ⟨"rg"⟩ ⟨"src"⟩ .lineEnd).run 1 =
      (.ok ⟨.ofList ["j"], [⟨"a", "y"⟩, ⟨"c", "z"⟩, ⟨"b", "x"⟩]⟩, 2) := by
  rfl

/-- Six reports of three failures are three warnings. -/
theorem searches_merge_in_sampleHost : ∃ scan,
    (sampleHost.scanByRipgrep ⟨"rg"⟩ ⟨"src"⟩).run 0 = (.ok scan, 2) ∧
      "k" ∈ scan.keys ∧ "j" ∈ scan.keys ∧
      scan.warnings = [⟨"b", "x"⟩, ⟨"a", "y"⟩, ⟨"c", "z"⟩] := by
  obtain ⟨scan, hrun, hkeys, -, reported, -⟩ :=
    (Host.searches_merge search_sampleHost search_again_sampleHost).2.2.2 _ _ rfl rfl
  refine ⟨scan, hrun, ?_, ?_, ?_⟩
  · exact (hkeys "k").mpr (.inl (by decide))
  · exact (hkeys "j").mpr (.inr (by decide))
  · apply reported.unique
    constructor
    · intro w
      simp only [List.mem_append, List.mem_cons, List.not_mem_nil, or_false]
      grind
    · decide

end Merged

end KeyAudit
