/-
The error lines of the program, and the files that are read off them.

An error line is written as `rg: `, a path, `: ` and an error, with nothing that marks where
the path ends. It is read by cutting it at the first `: ` behind the mark
(`namedFile?_eq_some_iff`), and counts only if there is something at the path found there. The
lines taken together name files only if each of them does (`run_namedFiles_eq_some_iff`).
-/

import KeyAudit.Proofs.Text.Lines
import KeyAudit.Scan.Ripgrep
import Mathlib.Data.List.Forall2

namespace KeyAudit.Ripgrep

/-! ### The grammar of an error line -/

/-- What stands between a path and an error. -/
def pathEnd : List Char := [':', ' ']

/-- What the program writes of a file that it cannot read. -/
def errorLine (w : SourceWarning) : List Char :=
  errorMark ++ (w.file.toList ++ (pathEnd ++ w.reason.toList))

/-- The text is a path, `: ` and an error. The first `: ` ends the path. -/
def IsAttributed (s : List Char) (w : SourceWarning) : Prop :=
  s = w.file.toList ++ (pathEnd ++ w.reason.toList) ∧ ¬ pathEnd <:+: w.file.toList

/-- How a line reads: a path, `: ` and an error, behind the mark if the line begins with it. -/
def Reads (line : List Char) (w : SourceWarning) : Prop :=
  (∃ s, line = errorMark ++ s ∧ IsAttributed s w) ∨ (¬ errorMark <+: line ∧ IsAttributed line w)

/-! ### Reading an error line -/

theorem cutAtColon_cons {c : Char} {s : List Char} (h : ¬ pathEnd <+: c :: s) :
    cutAtColon (c :: s) = (cutAtColon s).map fun (before, after) => (c :: before, after) := by
  rw [cutAtColon]
  rintro r rfl rfl
  exact h ⟨r, rfl⟩

/-- **A text is cut at its first `: `**, and only if it has one. -/
theorem cutAtColon_eq_some_iff {s before after : List Char} :
    cutAtColon s = some (before, after) ↔
      s = before ++ (pathEnd ++ after) ∧ ¬ pathEnd <:+: before := by
  induction s generalizing before with
  | nil =>
      simp [cutAtColon, pathEnd]
  | cons c s ih =>
      by_cases hcut : pathEnd <+: c :: s
      · -- The text begins with `: `, so nothing can stand before the cut.
        obtain ⟨r, hr⟩ := hcut
        rw [← hr]
        constructor
        · intro h
          cases h
          exact ⟨rfl, by simp [pathEnd]⟩
        · rintro ⟨he, hfree⟩
          cases before with
          | nil =>
              cases he
              rfl
          | cons d before =>
              cases before with
              | nil => simp [pathEnd] at he
              | cons e before =>
                  simp only [pathEnd, List.cons_append, List.nil_append, List.cons.injEq] at he
                  obtain ⟨rfl, rfl, -⟩ := he
                  exact absurd ⟨[], before, rfl⟩ hfree
      · rw [cutAtColon_cons hcut, Option.map_eq_some_iff]
        constructor
        · rintro ⟨⟨b, a⟩, hb, he⟩
          cases he
          obtain ⟨rfl, hfree⟩ := ih.mp hb
          refine ⟨rfl, ?_⟩
          rw [List.infix_cons_iff, not_or]
          refine ⟨?_, hfree⟩
          intro hopens
          exact hcut (hopens.trans (List.prefix_append (c :: b) _))
        · rintro ⟨he, hfree⟩
          cases before with
          | nil => exact absurd ⟨after, he.symm⟩ hcut
          | cons d before =>
              cases he
              rw [List.infix_cons_iff, not_or] at hfree
              exact ⟨(before, after), ih.mpr ⟨rfl, hfree.2⟩, rfl⟩

theorem cutAtColon_eq_none_iff {s : List Char} : cutAtColon s = none ↔ ¬ pathEnd <:+: s := by
  constructor
  · intro hnone hholds
    induction s with
    | nil => simp [pathEnd] at hholds
    | cons c s ih =>
        by_cases hcut : pathEnd <+: c :: s
        · obtain ⟨r, hr⟩ := hcut
          rw [← hr] at hnone
          cases hnone
        · rw [cutAtColon_cons hcut, Option.map_eq_none_iff] at hnone
          rw [List.infix_cons_iff] at hholds
          exact ih hnone (hholds.resolve_left hcut)
  · intro hfree
    rw [Option.eq_none_iff_forall_not_mem]
    rintro ⟨before, after⟩ hcut
    obtain ⟨rfl, -⟩ := cutAtColon_eq_some_iff.mp hcut
    exact hfree ⟨before, after, List.append_assoc ..⟩

/-- What stands before the first `: ` of a text, and all of it if there is none. -/
def beforeColon (s : List Char) : List Char := ((cutAtColon s).map Prod.fst).getD s

/-- A path is read up to its first `: `, and the rest of it goes to the error. -/
theorem exists_isAttributed_beforeColon (file reason : List Char) :
    ∃ rest, IsAttributed (file ++ (pathEnd ++ reason)) ⟨String.ofList (beforeColon file), rest⟩ := by
  cases hcut : cutAtColon file with
  | none =>
      refine ⟨String.ofList reason, ?_, ?_⟩
      · simp [beforeColon, hcut]
      · simpa [beforeColon, hcut] using cutAtColon_eq_none_iff.mp hcut
  | some cut =>
      obtain ⟨before, after⟩ := cut
      obtain ⟨rfl, hfree⟩ := cutAtColon_eq_some_iff.mp hcut
      refine ⟨String.ofList (after ++ (pathEnd ++ reason)), ?_, ?_⟩
      · simp [beforeColon, hcut]
      · simpa [beforeColon, hcut] using hfree

theorem withoutMark_append {s : List Char} : withoutMark (errorMark ++ s) = s := by
  rw [withoutMark, if_pos (by simp), List.drop_left]

theorem withoutMark_of_unmarked {line : List Char} (h : ¬ errorMark <+: line) :
    withoutMark line = line := by
  rw [withoutMark, if_neg (by simpa using h)]

theorem attributed_iff {s : List Char} {w : SourceWarning} :
    (cutAtColon s).map (fun (path, error) => (Path.ofChars path, String.ofList error)) =
      some (⟨w.file⟩, w.reason) ↔ IsAttributed s w := by
  rw [Option.map_eq_some_iff, IsAttributed, ← cutAtColon_eq_some_iff]
  constructor
  · rintro ⟨⟨path, error⟩, hcut, he⟩
    simp only [Path.ofChars, Prod.mk.injEq, Path.mk.injEq] at he
    rw [hcut, ← he.1, ← he.2, String.toList_ofList, String.toList_ofList]
  · intro hcut
    exact ⟨_, hcut, by simp [Path.ofChars]⟩

/-- **A line is read as its grammar says.** -/
theorem namedFile?_eq_some_iff {line : List Char} {w : SourceWarning} :
    namedFile? line = some (⟨w.file⟩, w.reason) ↔ Reads line w := by
  rw [namedFile?, attributed_iff, Reads]
  by_cases hmark : errorMark <+: line
  · obtain ⟨s, rfl⟩ := hmark
    simp [withoutMark_append]
  · have hnone : ∀ s, line ≠ errorMark ++ s := by
      rintro s rfl
      exact hmark (List.prefix_append ..)
    simp [withoutMark_of_unmarked hmark, hmark, hnone]

/-- A line has one reading at most. -/
theorem Reads.unique {line : List Char} {w w' : SourceWarning} (h : Reads line w)
    (h' : Reads line w') : w = w' := by
  have hnamed := namedFile?_eq_some_iff.mpr h
  rw [namedFile?_eq_some_iff.mpr h'] at hnamed
  cases w
  cases w'
  cases hnamed
  rfl

theorem reads_errorLine_iff {w w' : SourceWarning} :
    Reads (errorLine w) w' ↔
      IsAttributed (w.file.toList ++ (pathEnd ++ w.reason.toList)) w' := by
  rw [← namedFile?_eq_some_iff, namedFile?, errorLine, withoutMark_append, attributed_iff]

/-- What the program writes is read as it was meant exactly if the path holds no `: `. -/
theorem reads_errorLine_self_iff {w : SourceWarning} :
    Reads (errorLine w) w ↔ ¬ pathEnd <:+: w.file.toList := by
  simp [reads_errorLine_iff, IsAttributed]

end KeyAudit.Ripgrep

namespace KeyAudit.Host

variable {host : Host Id}

/-- The line names a file, and there is something at its path. -/
def Attributes (host : Host Id) (line : List Char) (w : SourceWarning) : Prop :=
  Ripgrep.Reads line w ∧ (host.present ⟨w.file⟩).run = true

theorem Attributes.unique {line : List Char} {w w' : SourceWarning}
    (h : host.Attributes line w) (h' : host.Attributes line w') : w = w' :=
  h.1.unique h'.1

/-- The line that is written of a file names one exactly if there is something at the part of
the path before its first `: `. -/
theorem exists_attributes_errorLine_iff {w : SourceWarning} :
    (∃ w', host.Attributes (Ripgrep.errorLine w) w') ↔
      (host.present (.ofChars (Ripgrep.beforeColon w.file.toList))).run = true := by
  obtain ⟨rest, hcut⟩ :=
    Ripgrep.exists_isAttributed_beforeColon w.file.toList w.reason.toList
  have hreads := Ripgrep.reads_errorLine_iff.mpr hcut
  constructor
  · rintro ⟨w', hreads', hpresent⟩
    rw [hreads'.unique hreads] at hpresent
    exact hpresent
  · intro hpresent
    exact ⟨_, hreads, hpresent⟩

theorem run_namedFiles_cons {line : List Char} {lines : List (List Char)}
    {ws : List SourceWarning} :
    (host.namedFiles (line :: lines)).run = some ws ↔
      ∃ w rest, host.Attributes line w ∧ (host.namedFiles lines).run = some rest ∧
        ws = w :: rest := by
  rw [namedFiles]
  cases hnamed : Ripgrep.namedFile? line with
  | none =>
      simp only [Id.run_pure, reduceCtorEq, false_iff]
      rintro ⟨w, rest, hw, -⟩
      rw [Ripgrep.namedFile?_eq_some_iff.mpr hw.1] at hnamed
      cases hnamed
  | some named =>
      obtain ⟨⟨file⟩, reason⟩ := named
      have hreads : Ripgrep.Reads line ⟨file, reason⟩ := Ripgrep.namedFile?_eq_some_iff.mp hnamed
      simp only [Id.run_bind]
      cases hpresent : (host.present ⟨file⟩).run with
      | false =>
          simp only [Bool.false_eq_true, if_false, Id.run_pure, reduceCtorEq, false_iff]
          rintro ⟨w, rest, hw, -⟩
          have hfound := hw.2
          rw [hw.1.unique hreads, hpresent] at hfound
          cases hfound
      | true =>
          simp only [if_true, Id.run_bind, Id.run_pure, Option.map_eq_some_iff]
          constructor
          · rintro ⟨rest, hrest, rfl⟩
            exact ⟨⟨file, reason⟩, rest, ⟨hreads, hpresent⟩, hrest, rfl⟩
          · rintro ⟨w, rest, hw, hrest, rfl⟩
            rw [hw.unique ⟨hreads, hpresent⟩]
            exact ⟨rest, hrest, rfl⟩

/-- **Lines name files only all together**, one file each and in their order. -/
theorem run_namedFiles_eq_some_iff {lines : List (List Char)} {ws : List SourceWarning} :
    (host.namedFiles lines).run = some ws ↔ List.Forall₂ host.Attributes lines ws := by
  induction lines generalizing ws with
  | nil =>
      rw [List.forall₂_nil_left_iff]
      constructor
      · intro h
        cases h
        rfl
      · rintro rfl
        rfl
  | cons line lines ih =>
      rw [run_namedFiles_cons, List.forall₂_cons_left_iff]
      constructor
      · rintro ⟨w, rest, hw, hrest, rfl⟩
        exact ⟨w, rest, hw, ih.mp hrest, rfl⟩
      · rintro ⟨w, rest, hw, hrest, rfl⟩
        exact ⟨w, rest, hw, ih.mpr hrest, rfl⟩

/-- Lines of which each names a file name them all. -/
theorem exists_attributed_iff {lines : List (List Char)} :
    (∃ ws, (host.namedFiles lines).run = some ws) ↔ ∀ line ∈ lines, ∃ w, host.Attributes line w := by
  induction lines with
  | nil =>
      constructor
      · rintro - line hline
        cases hline
      · intro _
        exact ⟨[], rfl⟩
  | cons line lines ih =>
      simp only [run_namedFiles_cons, List.forall_mem_cons, ← ih]
      constructor
      · rintro ⟨_, w, rest, hw, hrest, -⟩
        exact ⟨⟨w, hw⟩, rest, hrest⟩
      · rintro ⟨⟨w, hw⟩, rest, hrest⟩
        exact ⟨_, w, rest, hw, hrest, rfl⟩

end KeyAudit.Host
