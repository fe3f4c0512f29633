/-
The path of an entry of a directory.

A name under which a directory can hold an entry (`IsEntryName`) is a piece of its own at
the end of the entry's path, whatever the path of the directory looks like: empty, ending
in a separator, or a lone `.`. So it is the name that the path gives back.

* `name?_child` — **the last component of an entry's path is the entry's name.**
-/

import KeyAudit.SourceFile

namespace KeyAudit

/-- A name under which a directory can hold an entry. -/
structure IsEntryName (name : String) : Prop where
  ne_empty : name.toList ≠ []
  no_separator : '/' ∉ name.toList
  ne_here : name.toList ≠ ['.']
  ne_up : name.toList ≠ ['.', '.']

theorem isEntryName_iff {name : String} :
    IsEntryName name ↔ (name.toList ≠ [] ∧ '/' ∉ name.toList) ∧
      name.toList ≠ ['.'] ∧ name.toList ≠ ['.', '.'] :=
  ⟨fun h => ⟨⟨h.ne_empty, h.no_separator⟩, h.ne_here, h.ne_up⟩,
    fun h => ⟨h.1.1, h.1.2, h.2.1, h.2.2⟩⟩

instance (name : String) : Decidable (IsEntryName name) :=
  decidable_of_iff _ isEntryName_iff.symm

namespace Path

/-! ### Pieces -/

/-- A text without separators is one piece. -/
theorem pieces_of_no_separator {s : List Char} (h : '/' ∉ s) : pieces s = [s] := by
  induction s with
  | nil => rfl
  | cons c s ih =>
      have hc : c ≠ '/' := fun he => h (he ▸ List.mem_cons_self)
      rw [pieces, if_neg hc, ih fun hs => h (List.mem_cons_of_mem c hs)]

/-- A separator ends a piece. -/
theorem pieces_append_separator (s t : List Char) :
    pieces (s ++ '/' :: t) = pieces s ++ pieces t := by
  induction s with
  | nil => simp [pieces]
  | cons c s ih =>
      rw [List.cons_append, pieces, pieces]
      split
      · rw [ih, List.cons_append]
      · rw [ih]
        cases hp : pieces s with
        | nil => exact absurd hp (pieces_ne_nil s)
        | cons p ps => rfl

/-! ### Where a name begins -/

/-- Nothing, or a text that ends in a separator: behind it a piece begins. -/
def EndsPiece (s : List Char) : Prop := s = [] ∨ ∃ s', s = s' ++ ['/']

theorem isAbsolute_of_isEntryName {name : String} (h : IsEntryName name) :
    isAbsolute ⟨name⟩ = false := by
  obtain ⟨hne, hsep, -, -⟩ := h
  unfold isAbsolute chars
  cases hn : name.toList with
  | nil => exact absurd hn hne
  | cons c cs =>
      have hc : c ≠ '/' := fun he => hsep (by rw [hn, he]; exact List.mem_cons_self)
      simp [hc]

/-- The path of an entry is some text behind which a piece begins, and then the name. -/
theorem chars_child {p : Path} {name : String} (h : IsEntryName name) :
    ∃ s, EndsPiece s ∧ (p.child name).chars = s ++ name.toList := by
  unfold child join
  rw [isAbsolute_of_isEntryName h, if_neg Bool.false_ne_true]
  split
  · rename_i hend
    refine ⟨p.chars, ?_, chars_ofChars _⟩
    simp only [Bool.or_eq_true, List.isEmpty_iff, beq_iff_eq] at hend
    rcases hend with hend | hend
    · exact .inl hend
    · obtain ⟨s', hs⟩ := List.getLast?_eq_some_iff.mp hend
      exact .inr ⟨s', hs⟩
  · refine ⟨p.chars ++ ['/'], .inr ⟨p.chars, rfl⟩, ?_⟩
    rw [chars_ofChars, List.append_assoc]
    rfl

/-- The start of a path is not part of the name at its end. -/
theorem start_append_name {s : List Char} {name : String} (hs : EndsPiece s)
    (h : IsEntryName name) :
    ∃ s', EndsPiece s' ∧ (start (s ++ name.toList)).2 = s' ++ name.toList := by
  obtain ⟨hne, hsep, hhere, -⟩ := h
  cases s with
  | nil =>
      refine ⟨[], .inl rfl, ?_⟩
      rw [List.nil_append]
      unfold start
      split
      · rename_i hn
        exact absurd (hn ▸ List.mem_cons_self) hsep
      · rename_i hn
        exact absurd hn hhere
      · rename_i hn
        exact absurd (hn ▸ List.mem_cons_of_mem _ List.mem_cons_self) hsep
      · rfl
  | cons c s =>
      have htail : EndsPiece s := by
        rcases hs with hs | ⟨s', hs⟩
        · cases hs
        · cases s' with
          | nil =>
              cases hs
              exact .inl rfl
          | cons d s' =>
              cases hs
              exact .inr ⟨s', rfl⟩
      unfold start
      split
      · rename_i hn
        cases hn
        exact ⟨s, htail, rfl⟩
      · rename_i hn
        simp only [List.cons_append, List.cons.injEq, List.append_eq_nil_iff] at hn
        exact absurd hn.2.2 hne
      · rename_i r hn
        simp only [List.cons_append, List.cons.injEq] at hn
        exact ⟨s, htail, hn.2.symm⟩
      · exact ⟨c :: s, hs, rfl⟩

/-- The last piece of a path that ends in a name is the name. -/
theorem lastPiece?_append_name {s : List Char} {name : String} (hs : EndsPiece s)
    (h : IsEntryName name) : ∃ ps, lastPiece? (s ++ name.toList) = some (ps, name.toList) := by
  obtain ⟨hne, hsep, hhere, -⟩ := h
  have hidle : isIdle name.toList = false := by
    simp [isIdle, hne, hhere]
  have hpieces : ∃ ps, pieces (s ++ name.toList) = ps ++ [name.toList] := by
    rcases hs with rfl | ⟨s', rfl⟩
    · exact ⟨[], pieces_of_no_separator hsep⟩
    · refine ⟨pieces s', ?_⟩
      rw [List.append_assoc, List.singleton_append, pieces_append_separator,
        pieces_of_no_separator hsep]
  obtain ⟨ps, hps⟩ := hpieces
  refine ⟨ps, ?_⟩
  simp [lastPiece?, hps, hidle]

/-- **The last component of an entry's path is the entry's name.** -/
theorem name?_child {p : Path} {name : String} (h : IsEntryName name) :
    (p.child name).name? = some name := by
  obtain ⟨s, hs, hchars⟩ := chars_child (p := p) h
  obtain ⟨s', hs', hstart⟩ := start_append_name hs h
  obtain ⟨ps, hlast⟩ := lastPiece?_append_name hs' h
  unfold name?
  rw [hchars, hstart, hlast]
  simp only [if_neg h.ne_up, String.ofList_toList]

/-- Whether an entry is a source is decided by its name. -/
theorem isSource_child {p : Path} {name : String} (h : IsEntryName name) :
    (p.child name).isSource = isSourceName name := by
  rw [isSource, name?_child h]

end Path

end KeyAudit
