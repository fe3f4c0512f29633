/-
Where the path settings of a configuration lead.

A `.` at the beginning is cut from the text together with the separators behind it, so that
what is joined to the root begins with a piece (`start_withoutHere`) and cannot be taken for
an absolute path. By components nothing else is lost: those of a relative path behind such a
`.` are those of its pieces (`afterHere_components`).

* `resolved_below_root` — **an absolute setting stands for itself, and any other lies below
  the root**, with or without `./` in front.
-/

import KeyAudit.Proofs.Path.Components

namespace KeyAudit

namespace Path

/-! ### Components behind a leading `.` -/

/-- Components without the `.` that they begin with, if they do. -/
def afterHere : List Component → List Component
  | .here :: cs => cs
  | cs => cs

theorem component?_ne_here {piece : List Char} : component? piece ≠ some .here := by
  unfold component?
  split
  · simp
  · split <;> simp

theorem component?_ne_root {piece : List Char} : component? piece ≠ some .root := by
  unfold component?
  split
  · simp
  · split <;> simp

/-- The pieces of a text name entries and directories above, and nothing else. -/
theorem ne_of_mem_filterMap {ps : List (List Char)} {c : Component}
    (h : c ∈ ps.filterMap component?) : c ≠ .root ∧ c ≠ .here := by
  obtain ⟨piece, -, hpiece⟩ := List.mem_filterMap.mp h
  constructor
  · rintro rfl
    exact component?_ne_root hpiece
  · rintro rfl
    exact component?_ne_here hpiece

theorem afterHere_filterMap (ps : List (List Char)) :
    afterHere (ps.filterMap component?) = ps.filterMap component? := by
  cases hps : ps.filterMap component? with
  | nil => rfl
  | cons c cs =>
      have hc : c ≠ .here := (ne_of_mem_filterMap (hps ▸ List.mem_cons_self)).2
      cases c with
      | here => exact absurd rfl hc
      | root => rfl
      | up => rfl
      | name s => rfl

/-- A lone `.` at the beginning of a text is a piece that names nothing. -/
theorem filterMap_pieces_here {s r : List Char} (h : start s = (.here, r)) :
    (pieces s).filterMap component? = (pieces r).filterMap component? := by
  unfold start at h
  split at h
  · cases h
  · cases h
    rfl
  · rename_i rest
    cases h
    have hcut : pieces ('.' :: '/' :: rest) = ['.'] :: pieces rest :=
      pieces_append_separator ['.'] rest
    have hcut' : pieces ('/' :: rest) = [] :: pieces rest := pieces_append_separator [] rest
    rw [hcut, hcut']
    rfl
  · cases h

theorem start_ne_root {p : Path} (h : p.isAbsolute = false) : (start p.chars).1 ≠ .root := by
  intro hroot
  rw [isAbsolute_iff.mpr hroot] at h
  cases h

/-- **Behind its leading `.` a relative path has the components of its pieces.** -/
theorem afterHere_components {p : Path} (h : p.isAbsolute = false) :
    afterHere p.components = (pieces p.chars).filterMap component? := by
  have hroot := start_ne_root h
  rcases hstart : start p.chars with ⟨st, r⟩
  rw [hstart] at hroot
  have hp := chars_start p.chars
  rw [hstart] at hp
  rw [components, hstart]
  cases st with
  | root => exact absurd rfl hroot
  | here => exact (filterMap_pieces_here hstart).symm
  | plain =>
      change r = p.chars at hp
      rw [← hp]
      exact afterHere_filterMap (pieces r)

/-! ### A path without its leading `.` -/

/-- A text begins with a piece if the first of its pieces names something. -/
theorem start_joinPieces {p : List Char} {ps : List (List Char)} (hp : isIdle p = false)
    (hsep : '/' ∉ p) : start (joinPieces (p :: ps)) = (.plain, joinPieces (p :: ps)) := by
  cases p with
  | nil => cases hp
  | cons c s =>
      have hjoin : ∃ rest, joinPieces ((c :: s) :: ps) = c :: rest ∧
          (rest = s ∨ ∃ r, rest = s ++ '/' :: r) := by
        cases ps with
        | nil => exact ⟨s, rfl, .inl rfl⟩
        | cons q ps => exact ⟨s ++ '/' :: joinPieces (q :: ps), rfl, .inr ⟨_, rfl⟩⟩
      obtain ⟨rest, hrest, hcut⟩ := hjoin
      rw [hrest]
      apply start_eq_plain
      · rintro rfl
        exact hsep List.mem_cons_self
      · rintro rfl
        have hs : s ≠ [] := by
          rintro rfl
          cases hp
        obtain ⟨d, s, rfl⟩ := List.exists_cons_of_ne_nil hs
        have hd : d ≠ '/' := by
          rintro rfl
          exact hsep (List.mem_cons_of_mem _ List.mem_cons_self)
        rcases hcut with rfl | ⟨r, rfl⟩
        · exact ⟨by simp, by simpa using hd⟩
        · exact ⟨by simp, by simpa using hd⟩

/-- The pieces that are left of a path behind its leading `.`. -/
def keptPieces (s : List Char) : List (List Char) := trimPieces ((pieces s).dropWhile isIdle)

theorem exists_keptPieces (s : List Char) :
    ∃ before after, pieces s = before ++ (keptPieces s ++ after) ∧
      (∀ p ∈ before, isIdle p = true) ∧ ∀ p ∈ after, isIdle p = true := by
  obtain ⟨after, hafter, hidle⟩ := exists_idle ((pieces s).dropWhile isIdle)
  refine ⟨(pieces s).takeWhile isIdle, after, ?_, ?_, hidle⟩
  · rw [keptPieces, trimPieces, ← hafter, List.takeWhile_append_dropWhile]
  · intro p hp
    exact List.all_eq_true.mp List.all_takeWhile p hp

theorem no_separator_of_mem_keptPieces {s p : List Char} (h : p ∈ keptPieces s) : '/' ∉ p := by
  obtain ⟨before, after, hpieces, -, -⟩ := exists_keptPieces s
  apply no_separator_of_mem_pieces (s := s)
  rw [hpieces]
  exact List.mem_append_right _ (List.mem_append_left _ h)

/-- Nothing that names something is cut. -/
theorem filterMap_keptPieces (s : List Char) :
    (keptPieces s).filterMap component? = (pieces s).filterMap component? := by
  obtain ⟨before, after, hpieces, hbefore, hafter⟩ := exists_keptPieces s
  rw [hpieces, List.filterMap_append, List.filterMap_append, filterMap_eq_nil_of_idle hbefore,
    filterMap_eq_nil_of_idle hafter, List.nil_append, List.append_nil]

/-- The first piece that is kept names something. -/
theorem isIdle_of_keptPieces {s p : List Char} {ps : List (List Char)}
    (h : keptPieces s = p :: ps) : isIdle p = false := by
  obtain ⟨after, hafter, -⟩ := exists_idle ((pieces s).dropWhile isIdle)
  rw [← trimPieces, ← keptPieces, h, List.cons_append] at hafter
  have hnot := List.head?_dropWhile_not isIdle (pieces s)
  rw [hafter] at hnot
  simpa using hnot

theorem withoutHere_eq {p : Path} {s : List Char} (h : start p.chars = (.here, s)) :
    p.withoutHere = ofChars (joinPieces (keptPieces s)) := by
  rw [withoutHere, h]
  rfl

theorem withoutHere_eq_self {p : Path} (h : (start p.chars).1 ≠ .here) : p.withoutHere = p := by
  rcases hstart : start p.chars with ⟨st, r⟩
  rw [hstart] at h
  rw [withoutHere, hstart]
  cases st with
  | root => rfl
  | here => exact absurd rfl h
  | plain => rfl

/-- **What is left of a relative path begins with a piece.** -/
theorem start_withoutHere {p : Path} (h : p.isAbsolute = false) :
    start p.withoutHere.chars = (.plain, p.withoutHere.chars) := by
  have hroot := start_ne_root h
  rcases hstart : start p.chars with ⟨st, r⟩
  rw [hstart] at hroot
  cases st with
  | root => exact absurd rfl hroot
  | here =>
      rw [withoutHere_eq hstart, chars_ofChars]
      cases hkept : keptPieces r with
      | nil => rfl
      | cons q qs =>
          have hq : q ∈ keptPieces r := hkept ▸ List.mem_cons_self
          exact start_joinPieces (isIdle_of_keptPieces hkept) (no_separator_of_mem_keptPieces hq)
  | plain =>
      have hp := chars_start p.chars
      rw [hstart] at hp
      rw [withoutHere_eq_self (by simp [hstart]), hstart]
      exact congrArg (Prod.mk Start.plain) hp

/-- **A relative path loses its leading `.` and no other component.** -/
theorem components_withoutHere {p : Path} (h : p.isAbsolute = false) :
    p.withoutHere.components = (pieces p.chars).filterMap component? := by
  rw [components, start_withoutHere h]
  change (pieces p.withoutHere.chars).filterMap component? = _
  rcases hstart : start p.chars with ⟨st, r⟩
  by_cases hhere : st = .here
  · subst hhere
    rw [withoutHere_eq hstart, chars_ofChars, filterMap_pieces_here hstart,
      filterMap_pieces_joinPieces fun q => no_separator_of_mem_keptPieces, filterMap_keptPieces]
  · rw [withoutHere_eq_self (by rwa [hstart])]

end Path

namespace Config

open KeyAudit.Path

/-! ### Settings below the root -/

theorem resolvePath_of_isAbsolute {root : Path} {value : String}
    (h : (Path.mk value).isAbsolute = true) : resolvePath root value = ⟨value⟩ := by
  have hstart : (start (Path.mk value).chars).1 ≠ .here := by simp [isAbsolute_iff.mp h]
  rw [resolvePath, withoutHere_eq_self hstart, join, if_pos h]

/-- **A relative setting adds the components of its pieces to those of the root.** -/
theorem components_resolvePath (root : Path) {value : String}
    (h : (Path.mk value).isAbsolute = false) :
    (resolvePath root value).components =
      root.components ++ (pieces value.toList).filterMap component? := by
  rw [resolvePath, components_join (start_withoutHere h), components_withoutHere h]
  rfl

theorem pieces_here_append (value : String) :
    (pieces ("./" ++ value).toList).filterMap component? =
      (pieces value.toList).filterMap component? := by
  rw [String.toList_append]
  change (pieces (['.'] ++ '/' :: value.toList)).filterMap component? = _
  rw [pieces_append_separator]
  rfl

/-- **A setting is taken from the root.** An absolute one stands for itself as it was given.
Any other leads to the components of the root and then its own, but for the `.` it begins
with: these are names and directories above, so that no setting but an absolute one leaves
the root other than by `..`. A `./` in front makes no difference. -/
theorem resolved_below_root (root : Path) (value : String) :
    ((Path.mk value).isAbsolute = true → resolvePath root value = ⟨value⟩) ∧
    ((Path.mk value).isAbsolute = false →
      (resolvePath root value).components =
        root.components ++ afterHere (Path.mk value).components ∧
      (∀ c ∈ afterHere (Path.mk value).components, c ≠ .root ∧ c ≠ .here) ∧
      (resolvePath root ("./" ++ value)).components = (resolvePath root value).components) := by
  refine ⟨resolvePath_of_isAbsolute, ?_⟩
  intro relative
  have hafter : afterHere (Path.mk value).components =
      (pieces value.toList).filterMap component? := afterHere_components relative
  have relative' : (Path.mk ("./" ++ value)).isAbsolute = false := by
    simp [isAbsolute, chars]
  refine ⟨?_, ?_, ?_⟩
  · rw [components_resolvePath root relative, hafter]
  · intro c hc
    rw [hafter] at hc
    exact ne_of_mem_filterMap hc
  · rw [components_resolvePath root relative', components_resolvePath root relative,
      pieces_here_append]

/-- What follows the leading `.` begins with a separator, or is nothing, or goes up. -/
theorem resolved_below_project :
    ((Path.mk "/tmp/./out.txt").isAbsolute = true ∧
      (Path.mk ".//abs").isAbsolute = false ∧ (Path.mk "./").isAbsolute = false ∧
      (Path.mk "./.././x/").isAbsolute = false) ∧
    resolvePath ⟨"/project"⟩ "/tmp/./out.txt" = ⟨"/tmp/./out.txt"⟩ ∧
    (resolvePath ⟨"/project"⟩ ".//abs").components =
      [.root, .name "project".toList, .name "abs".toList] ∧
    (resolvePath ⟨"/project"⟩ "./").components = [.root, .name "project".toList] ∧
    (resolvePath ⟨"/project"⟩ "./.././x/").components =
      [.root, .name "project".toList, .up, .name "x".toList] ∧
    (resolvePath ⟨"/project"⟩ "././.././x/").components =
      [.root, .name "project".toList, .up, .name "x".toList] := by
  have absolute : (Path.mk "/tmp/./out.txt").isAbsolute = true := by decide
  have twice : (Path.mk ".//abs").isAbsolute = false := by decide
  have alone : (Path.mk "./").isAbsolute = false := by decide
  have above : (Path.mk "./.././x/").isAbsolute = false := by decide
  obtain ⟨habove, -, hagain⟩ := (resolved_below_root ⟨"/project"⟩ "./.././x/").2 above
  refine ⟨⟨absolute, twice, alone, above⟩, ?_, ?_, ?_, ?_, ?_⟩
  · exact (resolved_below_root ⟨"/project"⟩ "/tmp/./out.txt").1 absolute
  · rw [((resolved_below_root ⟨"/project"⟩ ".//abs").2 twice).1]
    decide
  · rw [((resolved_below_root ⟨"/project"⟩ "./").2 alone).1]
    decide
  · rw [habove]
    decide
  · have hsame : "./" ++ "./.././x/" = "././.././x/" := by decide
    rw [hsame, habove] at hagain
    rw [hagain]
    decide

end Config

end KeyAudit
