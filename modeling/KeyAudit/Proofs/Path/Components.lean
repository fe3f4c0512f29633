/-
The components of the paths around a path: its entries, its parent and its ancestors.

The operations cut and join texts; here they are said by components. An entry has one
component more (`components_child`) and a parent one less (`components_of_parent?`),
whatever separators and idle pieces the texts hold. So the components on the way up get
fewer with every step, and the bound of `ancestors` is never met
(`ancestors_of_parent?`).
-/

import KeyAudit.Config.Discovery
import KeyAudit.Proofs.Path.Child

namespace KeyAudit.Path

/-! ### The start of a text -/

theorem chars_start (s : List Char) : (start s).1.chars ++ (start s).2 = s := by
  unfold start
  split <;> rfl

/-- A text that begins with neither a separator nor a lone `.` has no start beside its
pieces. -/
theorem start_eq_plain {c : Char} {s : List Char} (hroot : c ≠ '/')
    (hhere : c = '.' → s ≠ [] ∧ ∀ r, s ≠ '/' :: r) : start (c :: s) = (.plain, c :: s) := by
  unfold start
  split
  · rename_i h
    exact absurd (List.cons.inj h).1 hroot
  · rename_i h
    exact absurd (List.cons.inj h).2 (hhere (List.cons.inj h).1).1
  · rename_i r h
    exact absurd (List.cons.inj h).2 ((hhere (List.cons.inj h).1).2 r)
  · rfl

/-- A text keeps its start when a separator follows it. -/
theorem start_append_separator {s : List Char} (h : s ≠ []) (t : List Char) :
    start (s ++ '/' :: t) = ((start s).1, (start s).2 ++ '/' :: t) := by
  cases s with
  | nil => exact absurd rfl h
  | cons c s =>
      by_cases hroot : c = '/'
      · subst hroot
        rfl
      · by_cases hhere : c = '.' ∧ (s = [] ∨ ∃ r, s = '/' :: r)
        · obtain ⟨rfl, rfl | ⟨r, rfl⟩⟩ := hhere
          · rfl
          · rfl
        · have hplain : c = '.' → s ≠ [] ∧ ∀ r, s ≠ '/' :: r := fun hc =>
            ⟨fun hs => hhere ⟨hc, .inl hs⟩, fun r hs => hhere ⟨hc, .inr ⟨r, hs⟩⟩⟩
          have hplain' : c = '.' → s ++ '/' :: t ≠ [] ∧ ∀ r, s ++ '/' :: t ≠ '/' :: r := by
            intro hc
            refine ⟨by simp, fun r hr => ?_⟩
            cases s with
            | nil => exact (hplain hc).1 rfl
            | cons d s =>
                cases hr
                exact (hplain hc).2 s rfl
          rw [List.cons_append, start_eq_plain hroot hplain', start_eq_plain hroot hplain,
            List.cons_append]

/-- The components of a text: those of its start and those of its pieces. -/
theorem components_ofChars (s : List Char) :
    (ofChars s).components =
      (start s).1.components ++ (pieces (start s).2).filterMap component? := by
  rw [components, chars_ofChars]

theorem components_append_separator {s : List Char} (h : s ≠ []) (t : List Char) :
    (ofChars (s ++ '/' :: t)).components =
      (ofChars s).components ++ (pieces t).filterMap component? := by
  rw [components_ofChars, components_ofChars, start_append_separator h, pieces_append_separator,
    List.filterMap_append, List.append_assoc]

/-- What follows a separator adds its pieces. -/
theorem components_behind_separator (s t : List Char) :
    (ofChars (s ++ '/' :: t)).components =
      (ofChars (s ++ ['/'])).components ++ (pieces t).filterMap component? := by
  have hidle : (pieces []).filterMap component? = [] := rfl
  by_cases hs : s = []
  · subst hs
    rw [components_ofChars, components_ofChars]
    rfl
  · rw [components_append_separator hs, components_append_separator hs, hidle, List.append_nil]

/-! ### Joining -/

/-- A path is absolute exactly if its start is the root. -/
theorem isAbsolute_iff {p : Path} : p.isAbsolute = true ↔ (start p.chars).1 = .root := by
  constructor
  · intro h
    unfold isAbsolute at h
    cases hp : p.chars with
    | nil => simp [hp] at h
    | cons c s =>
        have hc : c = '/' := by simpa [hp] using h
        rw [hc]
        rfl
  · intro h
    have hp := chars_start p.chars
    rw [h] at hp
    rw [isAbsolute, ← hp]
    rfl

/-- **A path that begins with a piece adds its components** to those of the path above. -/
theorem components_join {p q : Path} (h : start q.chars = (.plain, q.chars)) :
    (p.join q).components = p.components ++ q.components := by
  have hp : p.components = (ofChars p.chars).components := by
    rw [components_ofChars, components]
  have hq : q.components = (pieces q.chars).filterMap component? := by
    rw [components, h]
    rfl
  have hrelative : ¬ q.isAbsolute = true := by simp [isAbsolute_iff, h]
  rw [join, if_neg hrelative, hp, hq]
  split
  · rename_i hend
    simp only [Bool.or_eq_true, List.isEmpty_iff, beq_iff_eq] at hend
    rcases hend with hend | hend
    · rw [hend, List.nil_append, components_ofChars, h]
      rfl
    · obtain ⟨s, hs⟩ := List.getLast?_eq_some_iff.mp hend
      rw [hs, List.append_assoc, List.singleton_append, components_behind_separator]
  · rename_i hend
    have hne : p.chars ≠ [] := by
      intro hnil
      exact hend (by simp [hnil])
    rw [components_append_separator hne]

/-! ### Entries -/

theorem filterMap_pieces_name {name : String} (h : IsEntryName name) :
    (pieces name.toList).filterMap component? = [.name name.toList] := by
  obtain ⟨hne, hsep, hhere, hup⟩ := h
  have hidle : isIdle name.toList = false := by
    simp [isIdle, hne, hhere]
  have hname : component? name.toList = some (.name name.toList) := by
    simp [component?, hidle, hup]
  rw [pieces_of_no_separator hsep, List.filterMap_cons_some hname, List.filterMap_nil]

theorem start_name {name : String} (h : IsEntryName name) :
    start name.toList = (.plain, name.toList) := by
  obtain ⟨hne, hsep, hhere, -⟩ := h
  cases hname : name.toList with
  | nil => exact absurd hname hne
  | cons c s =>
      rw [hname] at hsep hhere
      apply start_eq_plain
      · rintro rfl
        exact hsep List.mem_cons_self
      · rintro rfl
        refine ⟨fun hs => hhere (by rw [hs]), ?_⟩
        rintro r rfl
        exact hsep (List.mem_cons_of_mem _ List.mem_cons_self)

/-- **An entry has the components of its directory and its name.** -/
theorem components_child {p : Path} {name : String} (h : IsEntryName name) :
    (p.child name).components = p.components ++ [.name name.toList] := by
  have hstart := start_name h
  have hname : (Path.mk name).components = [.name name.toList] := by
    rw [components, chars, hstart, filterMap_pieces_name h]
    rfl
  rw [child, components_join hstart, hname]

/-! ### Pieces of a part -/

theorem no_separator_of_mem_pieces {s piece : List Char} (h : piece ∈ pieces s) : '/' ∉ piece := by
  induction s generalizing piece with
  | nil =>
      cases List.mem_singleton.mp h
      exact List.not_mem_nil
  | cons c s ih =>
      rw [pieces] at h
      split at h
      · rcases List.mem_cons.mp h with rfl | h
        · exact List.not_mem_nil
        · exact ih h
      · rename_i hc
        cases hp : pieces s with
        | nil => exact absurd hp (pieces_ne_nil s)
        | cons first rest =>
            rw [hp] at h ih
            rcases List.mem_cons.mp h with rfl | h
            · intro hm
              rcases List.mem_cons.mp hm with he | hm
              · exact hc he.symm
              · exact ih List.mem_cons_self hm
            · exact ih (List.mem_cons_of_mem first h)

theorem joinPieces_append {ps qs : List (List Char)} (hp : ps ≠ []) (hq : qs ≠ []) :
    joinPieces (ps ++ qs) = joinPieces ps ++ '/' :: joinPieces qs := by
  induction ps with
  | nil => exact absurd rfl hp
  | cons p ps ih =>
      cases ps with
      | nil =>
          cases qs with
          | nil => exact absurd rfl hq
          | cons q qs => rfl
      | cons p' ps =>
          have htail := ih (List.cons_ne_nil p' ps)
          rw [List.cons_append, List.cons_append, joinPieces, ← List.cons_append, htail, joinPieces,
            List.append_assoc, List.cons_append]

/-- Pieces without separators are found again in the text that they make. -/
theorem pieces_joinPieces {ps : List (List Char)} (hne : ps ≠ []) (hsep : ∀ p ∈ ps, '/' ∉ p) :
    pieces (joinPieces ps) = ps := by
  induction ps with
  | nil => exact absurd rfl hne
  | cons p ps ih =>
      have hp := pieces_of_no_separator (hsep p List.mem_cons_self)
      cases ps with
      | nil => exact hp
      | cons q qs =>
          have htail := ih (List.cons_ne_nil q qs) fun r hr => hsep r (List.mem_cons_of_mem p hr)
          rw [joinPieces, pieces_append_separator, htail, hp, List.singleton_append]

theorem filterMap_pieces_joinPieces {ps : List (List Char)} (hsep : ∀ p ∈ ps, '/' ∉ p) :
    (pieces (joinPieces ps)).filterMap component? = ps.filterMap component? := by
  by_cases hne : ps = []
  · subst hne
    rfl
  · rw [pieces_joinPieces hne hsep]

/-- A path that is cut between two pieces keeps its start. -/
theorem start_cut {s : List Char} {ps more : List (List Char)}
    (h : pieces (start s).2 = ps ++ more) :
    start ((start s).1.chars ++ joinPieces ps) = ((start s).1, joinPieces ps) := by
  have hs := chars_start s
  have hjoin := joinPieces_pieces (start s).2
  rw [h] at hjoin
  by_cases hps : ps = []
  · subst hps
    cases (start s).1 <;> rfl
  · by_cases hmore : more = []
    · subst hmore
      rw [List.append_nil] at hjoin
      rw [hjoin, hs]
    · rw [joinPieces_append hps hmore] at hjoin
      by_cases hnil : (start s).1.chars ++ joinPieces ps = []
      · obtain ⟨hstart, hpieces⟩ := List.append_eq_nil_iff.mp hnil
        rw [hstart, hpieces]
        cases hplain : (start s).1 with
        | root => simp [hplain, Start.chars] at hstart
        | here => simp [hplain, Start.chars] at hstart
        | plain => rfl
      · have hcut := start_append_separator hnil (joinPieces more)
        rw [List.append_assoc, hjoin, hs] at hcut
        have hrest := (congrArg Prod.snd hcut).symm.trans hjoin.symm
        exact Prod.ext (congrArg Prod.fst hcut).symm (List.append_cancel_right hrest)

/-! ### The parent -/

theorem filterMap_eq_nil_of_idle {ps : List (List Char)} (h : ∀ p ∈ ps, isIdle p = true) :
    ps.filterMap component? = [] := by
  rw [List.filterMap_eq_nil_iff]
  intro p hp
  exact if_pos (h p hp)

theorem exists_component {piece : List Char} (h : isIdle piece = false) :
    ∃ c, component? piece = some c := by
  rw [component?, if_neg (by simp [h])]
  split
  · exact ⟨.up, rfl⟩
  · exact ⟨.name piece, rfl⟩

/-- Pieces fall into those up to the last that names something and idle ones. -/
theorem exists_idle (ps : List (List Char)) :
    ∃ idle, ps = (ps.reverse.dropWhile isIdle).reverse ++ idle ∧ ∀ q ∈ idle, isIdle q = true := by
  refine ⟨(ps.reverse.takeWhile isIdle).reverse, ?_, ?_⟩
  · rw [← List.reverse_append, List.takeWhile_append_dropWhile, List.reverse_reverse]
  · intro q hq
    exact List.all_eq_true.mp List.all_takeWhile q (List.mem_reverse.mp hq)

theorem exists_idle_of_lastPiece? {s p : List Char} {ps : List (List Char)}
    (h : lastPiece? s = some (ps, p)) :
    isIdle p = false ∧ ∃ idle, pieces s = ps ++ p :: idle ∧ ∀ q ∈ idle, isIdle q = true := by
  obtain ⟨idle, hpieces, hidle⟩ := exists_idle (pieces s)
  unfold lastPiece? at h
  split at h
  · cases h
  · rename_i last before hdrop
    cases h
    have hnot := List.head?_dropWhile_not isIdle (pieces s).reverse
    rw [hdrop] at hnot hpieces
    refine ⟨by simpa using hnot, idle, ?_, hidle⟩
    simpa using hpieces

theorem idle_of_lastPiece?_eq_none {s : List Char} (h : lastPiece? s = none) :
    ∀ q ∈ pieces s, isIdle q = true := by
  obtain ⟨idle, hpieces, hidle⟩ := exists_idle (pieces s)
  unfold lastPiece? at h
  split at h
  · rename_i hdrop
    rw [hdrop] at hpieces
    rwa [hpieces]
  · cases h

/-- The components above the last one. -/
theorem components_above {s p : List Char} {ps : List (List Char)}
    (h : lastPiece? (start s).2 = some (ps, p)) :
    ∃ c, (ofChars s).components =
      (ofChars ((start s).1.chars ++ joinPieces (trimPieces ps))).components ++ [c] := by
  obtain ⟨hp, idle, hpieces, hidle⟩ := exists_idle_of_lastPiece? h
  obtain ⟨between, hps, hbetween⟩ := exists_idle ps
  obtain ⟨c, hc⟩ := exists_component hp
  rw [← trimPieces] at hps
  have hcut : pieces (start s).2 = trimPieces ps ++ (between ++ p :: idle) := by
    rw [hpieces, ← List.append_assoc, ← hps]
  have hsep : ∀ q ∈ trimPieces ps, '/' ∉ q := by
    intro q hq
    apply no_separator_of_mem_pieces (s := (start s).2)
    rw [hcut]
    exact List.mem_append_left _ hq
  refine ⟨c, ?_⟩
  rw [components_ofChars, components_ofChars, start_cut hcut, filterMap_pieces_joinPieces hsep,
    hcut, List.filterMap_append, List.filterMap_append, filterMap_eq_nil_of_idle hbetween,
    List.filterMap_cons_some hc, filterMap_eq_nil_of_idle hidle, List.append_assoc]
  rfl

/-- **The parent lacks the last component and no other.** -/
theorem components_of_parent? {p q : Path} (h : p.parent? = some q) :
    ∃ c, p.components = q.components ++ [c] := by
  have hp : p.components = (ofChars p.chars).components := by
    rw [components_ofChars, components]
  rw [hp]
  unfold parent? at h
  split at h
  · rename_i st r ps last hstart hlast
    cases h
    have habove := components_above hlast
    rwa [hstart] at habove
  · rename_i r hstart hlast
    cases h
    rw [hstart] at hlast
    rw [components_ofChars, hstart, filterMap_eq_nil_of_idle (idle_of_lastPiece?_eq_none hlast)]
    exact ⟨.here, rfl⟩
  · cases h

/-- **The parent of an entry has the components of its directory.** -/
theorem exists_parent?_child {p : Path} {name : String} (h : IsEntryName name) :
    ∃ q, (p.child name).parent? = some q ∧ q.components = p.components := by
  obtain ⟨s, hs, hchars⟩ := chars_child (p := p) h
  obtain ⟨s', hs', hstart⟩ := start_append_name hs h
  obtain ⟨ps, hlast⟩ := lastPiece?_append_name hs' h
  have hparent : ∃ q, (p.child name).parent? = some q := by
    unfold parent?
    rw [hchars, hstart, hlast]
    exact ⟨_, rfl⟩
  obtain ⟨q, hq⟩ := hparent
  obtain ⟨c, hc⟩ := components_of_parent? hq
  rw [components_child h] at hc
  exact ⟨q, hq, (List.append_inj' hc rfl).1.symm⟩

/-! ### The way up -/

theorem length_filterMap_pieces_le (s : List Char) :
    ((pieces s).filterMap component?).length ≤ s.length := by
  induction s with
  | nil => exact Nat.le_refl 0
  | cons c s ih =>
      rw [pieces]
      split
      · exact Nat.le_succ_of_le ih
      · cases hp : pieces s with
        | nil => exact absurd hp (pieces_ne_nil s)
        | cons p ps =>
            rw [hp] at ih
            have htail : (ps.filterMap component?).length ≤
                ((p :: ps).filterMap component?).length :=
              ((List.sublist_cons_self p ps).filterMap component?).length_le
            have hhead : (((c :: p) :: ps).filterMap component?).length ≤
                (ps.filterMap component?).length + 1 := by
              rw [List.filterMap_cons]
              split
              · exact Nat.le_succ _
              · exact Nat.le_refl _
            change (((c :: p) :: ps).filterMap component?).length ≤ s.length + 1
            omega

/-- A path has no more components than characters. -/
theorem length_components_le (p : Path) : p.components.length ≤ p.chars.length := by
  have hstart : (start p.chars).1.components.length = (start p.chars).1.chars.length := by
    cases (start p.chars).1 <;> rfl
  have hrest := length_filterMap_pieces_le (start p.chars).2
  have hchars := congrArg List.length (chars_start p.chars)
  rw [List.length_append] at hchars
  rw [components, List.length_append]
  omega

/-- A bound that exceeds the components is as good as any other. -/
theorem ancestorsWithin_eq {n : Nat} {p : Path} (hn : p.components.length ≤ n) :
    ∀ {m : Nat}, p.components.length ≤ m → ancestorsWithin n p = ancestorsWithin m p := by
  induction n generalizing p with
  | zero =>
      intro m hm
      have hnone : p.parent? = none := by
        cases hparent : p.parent? with
        | none => rfl
        | some q =>
            obtain ⟨c, hc⟩ := components_of_parent? hparent
            rw [hc] at hn
            simp at hn
      cases m with
      | zero => rfl
      | succ m => simp [ancestorsWithin, hnone]
  | succ n ih =>
      intro m hm
      cases hparent : p.parent? with
      | none => cases m <;> simp [ancestorsWithin, hparent]
      | some q =>
          obtain ⟨c, hc⟩ := components_of_parent? hparent
          rw [hc, List.length_append, List.length_singleton] at hn hm
          cases m with
          | zero => omega
          | succ m =>
              simp only [ancestorsWithin, hparent]
              rw [ih (by omega) (by omega : q.components.length ≤ m)]

theorem ancestors_of_parent?_eq_none {p : Path} (h : p.parent? = none) : p.ancestors = [p] := by
  rw [ancestors]
  cases p.chars.length with
  | zero => rfl
  | succ n => simp [ancestorsWithin, h]

/-- **The way up from a path goes on from its parent.** -/
theorem ancestors_of_parent? {p q : Path} (h : p.parent? = some q) :
    p.ancestors = p :: q.ancestors := by
  obtain ⟨c, hc⟩ := components_of_parent? h
  have hlength := length_components_le p
  rw [hc, List.length_append, List.length_singleton] at hlength
  obtain ⟨n, hn⟩ : ∃ n, p.chars.length = n + 1 := ⟨p.chars.length - 1, by omega⟩
  rw [ancestors, hn, ancestorsWithin, h, ancestors]
  exact congrArg (p :: ·) (ancestorsWithin_eq (by omega) (length_components_le q))

/-- What holds of paths without a parent and passes from a parent to its paths holds of
every path. -/
@[elab_as_elim]
theorem parent_induction {motive : Path → Prop} (top : ∀ p, p.parent? = none → motive p)
    (below : ∀ p q, p.parent? = some q → motive q → motive p) (p : Path) : motive p := by
  induction hn : p.components.length using Nat.strongRecOn generalizing p with
  | ind n ih =>
      cases hparent : p.parent? with
      | none => exact top p hparent
      | some q =>
          obtain ⟨c, hc⟩ := components_of_parent? hparent
          rw [hc, List.length_append, List.length_singleton] at hn
          exact below p q hparent (ih q.components.length (by omega) q rfl)

/-- The way up from a path begins with the path. -/
theorem exists_ancestors_eq_cons (p : Path) : ∃ above, p.ancestors = p :: above := by
  cases hparent : p.parent? with
  | none => exact ⟨[], ancestors_of_parent?_eq_none hparent⟩
  | some q => exact ⟨q.ancestors, ancestors_of_parent? hparent⟩

/-- The way up from a path ends with the way up from each path on it. -/
theorem exists_below_of_mem_ancestors {p q : Path} (h : q ∈ p.ancestors) :
    ∃ below, p.ancestors = below ++ q.ancestors := by
  induction p using parent_induction with
  | top p hparent =>
      have hq := h
      rw [ancestors_of_parent?_eq_none hparent, List.mem_singleton] at hq
      exact ⟨[], by rw [hq, List.nil_append]⟩
  | below p p' hparent ih =>
      rw [ancestors_of_parent? hparent] at h
      rcases List.mem_cons.mp h with rfl | h
      · exact ⟨[], rfl⟩
      · obtain ⟨below, hbelow⟩ := ih h
        exact ⟨p :: below, by rw [ancestors_of_parent? hparent, hbelow, List.cons_append]⟩

/-- Of two paths on the way up, the later one has fewer components. -/
theorem pairwise_ancestors (p : Path) :
    p.ancestors.Pairwise fun a b => b.components.length < a.components.length := by
  induction p using parent_induction with
  | top p hparent =>
      rw [ancestors_of_parent?_eq_none hparent]
      exact List.pairwise_singleton _ p
  | below p q hparent ih =>
      obtain ⟨c, hc⟩ := components_of_parent? hparent
      have hq : q.components.length < p.components.length := by
        rw [hc, List.length_append, List.length_singleton]
        exact Nat.lt_succ_self _
      rw [ancestors_of_parent? hparent]
      refine List.pairwise_cons.mpr ⟨?_, ih⟩
      intro a ha
      obtain ⟨above, habove⟩ := exists_ancestors_eq_cons q
      rw [habove] at ha ih
      rcases List.mem_cons.mp ha with rfl | ha
      · exact hq
      · exact Nat.lt_trans ((List.pairwise_cons.mp ih).1 a ha) hq

/-- A path on the way up that has this path on its own way up lies before it or is it. -/
theorem ancestors_of_mem_ancestors {p q root : Path} {below above : List Path}
    (hway : p.ancestors = below ++ root :: above) (hq : q ∈ p.ancestors)
    (hroot : root ∈ q.ancestors) :
    ∃ between, q.ancestors = between ++ root :: above ∧ ∀ d ∈ between, d ∈ below := by
  obtain ⟨before, hbefore⟩ := exists_below_of_mem_ancestors hq
  have hpairwise := pairwise_ancestors p
  rw [hway] at hbefore hpairwise
  rcases List.append_eq_append_iff.mp hbefore with ⟨c, hc, hrest⟩ | ⟨between, hbetween, hq'⟩
  · cases c with
    | nil =>
        rw [List.nil_append] at hrest
        exact ⟨[], hrest.symm, fun d hd => absurd hd List.not_mem_nil⟩
    | cons d c =>
        -- the way up from `q` would lie above the root, which is on it
        have habove : root ∈ above := by
          rw [(List.cons.inj hrest).2]
          exact List.mem_append_right c hroot
        have hless := (List.pairwise_cons.mp (List.pairwise_append.mp hpairwise).2.1).1 root habove
        exact absurd hless (Nat.lt_irrefl _)
  · refine ⟨between, hq', ?_⟩
    intro d hd
    rw [hbetween]
    exact List.mem_append_right before hd

/-- A path before another on a way up has more components. -/
theorem length_components_lt {p root d : Path} {below above : List Path}
    (hway : p.ancestors = below ++ root :: above) (hd : d ∈ below) :
    root.components.length < d.components.length := by
  have hpairwise := pairwise_ancestors p
  rw [hway, List.pairwise_append] at hpairwise
  exact hpairwise.2.2 d hd root List.mem_cons_self

end KeyAudit.Path
