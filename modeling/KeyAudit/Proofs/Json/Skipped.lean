/-
Every value is passed over.

A reader that passes over a value must stop where the value stops, at any depth and whatever
stands in it. This is said for the parts of a list or of an object first (`Passes`,
`readItems_inside`), and then for one level of nesting (`skipOuter_of_isValue`). Each level hands
the next one values that are shorter than its own, so that neither the bound on the items nor
the one on the depth is ever reached (`skipNested_of_isValue`, by induction on the depth).
-/

import KeyAudit.Proofs.Json.Quoted

namespace KeyAudit.Json

/-! ### Numbers -/

/-- No digit goes on into this text. -/
def endsDigits : List Char → Bool
  | [] => true
  | c :: _ => !c.isDigit

theorem endsDigits_of_endsNumber {s : List Char} (h : endsNumber s = true) :
    endsDigits s = true := by
  cases s with
  | nil => rfl
  | cons c s =>
      simp only [endsNumber, Bool.and_eq_true] at h
      exact h.1.1.1

theorem skipDigits_append {ds s : List Char} (miss : List Char → Failure) (hds : IsDigits ds)
    (hs : endsDigits s = true) : skipDigits miss (ds ++ s) = .ok ((), s) := by
  obtain ⟨c, r, rfl, -⟩ := hds.exists_cons
  have htake : s.takeWhile Char.isDigit = [] ∧ s.dropWhile Char.isDigit = s := by
    cases s with
    | nil => exact ⟨rfl, rfl⟩
    | cons d s =>
        have hd : ¬ d.isDigit = true := by simpa [endsDigits] using hs
        exact ⟨List.takeWhile_cons_of_neg hd, List.dropWhile_cons_of_neg hd⟩
  rw [skipDigits, List.takeWhile_append_of_pos hds.2, List.dropWhile_append_of_pos hds.2,
    htake.1, htake.2]
  rfl

theorem skipExponent_of_endsNumber {s : List Char} (h : endsNumber s = true) :
    skipExponent s = .ok ((), s) := by
  cases s with
  | nil => rfl
  | cons c s =>
      simp only [endsNumber, Bool.and_eq_true, bne_iff_ne] at h
      exact if_neg (not_or.mpr ⟨h.1.2, h.2⟩)

theorem skipExponent_append {e s : List Char} (he : IsExponent e) (hs : endsNumber s = true) :
    skipExponent (e ++ s) = .ok ((), s) := by
  rcases he with rfl | ⟨mark, sign, ds, hmark, hsign, hds, rfl⟩
  · exact skipExponent_of_endsNumber hs
  · have hdigits := skipDigits_append (failAfter .numberInvalid 1) hds (endsDigits_of_endsNumber hs)
    have hletter : mark = 'e' ∨ mark = 'E' := by
      simpa only [List.mem_cons, List.not_mem_nil, or_false] using hmark
    obtain ⟨c, r, rfl, hc⟩ := hds.exists_cons
    have hplus : ¬ (c = '+' ∨ c = '-') := by
      rintro (rfl | rfl) <;> exact absurd hc (by decide)
    simp only [List.mem_cons, List.not_mem_nil, or_false] at hsign
    rcases hsign with rfl | rfl | rfl
    · simp only [List.cons_append, List.nil_append, skipExponent, if_pos hletter, if_neg hplus]
      exact hdigits
    · simp only [List.cons_append, List.nil_append, skipExponent, if_pos hletter]
      exact hdigits
    · simp only [List.cons_append, List.nil_append, skipExponent, if_pos hletter]
      exact hdigits

theorem endsDigits_exponent {e s : List Char} (he : IsExponent e) (hs : endsNumber s = true) :
    endsDigits (e ++ s) = true := by
  rcases he with rfl | ⟨mark, sign, ds, hmark, -, -, rfl⟩
  · exact endsDigits_of_endsNumber hs
  · simp only [List.mem_cons, List.not_mem_nil, or_false] at hmark
    rcases hmark with rfl | rfl <;> rfl

theorem skipTail_of_ne {s : List Char} (h : ∀ r, s ≠ '.' :: r) : skipTail s = skipExponent s := by
  unfold skipTail
  split
  · exact absurd rfl (h _)
  · rfl

theorem skipTail_append {f e s : List Char} (hf : IsFraction f) (he : IsExponent e)
    (hs : endsNumber s = true) : skipTail (f ++ (e ++ s)) = .ok ((), s) := by
  rcases hf with rfl | ⟨ds, hds, rfl⟩
  · have hpoint : ∀ r, e ++ s ≠ '.' :: r := by
      rcases he with rfl | ⟨mark, sign, ds, hmark, -, -, rfl⟩
      · rintro r rfl
        cases hs
      · rintro r heq
        obtain ⟨rfl, -⟩ := List.cons.inj heq
        exact absurd hmark (by decide)
    exact (skipTail_of_ne hpoint).trans (skipExponent_append he hs)
  · simp only [List.cons_append, skipTail, skipDigits_append _ hds (endsDigits_exponent he hs)]
    exact skipExponent_append he hs

theorem endsDigits_fraction {f s : List Char} (hf : IsFraction f) (hs : endsDigits s = true) :
    endsDigits (f ++ s) = true := by
  rcases hf with rfl | ⟨ds, -, rfl⟩
  · exact hs
  · rfl

/-- What follows the sign of a number is passed over. -/
theorem skipNumber_append {w f e s : List Char} (hw : IsWhole w) (hf : IsFraction f)
    (he : IsExponent e) (hs : endsNumber s = true) :
    skipNumber (w ++ (f ++ (e ++ s))) = .ok ((), s) := by
  have htail := skipTail_append hf he hs
  have hstop := endsDigits_fraction hf (endsDigits_exponent he hs)
  generalize f ++ (e ++ s) = t at htail hstop
  obtain ⟨hdigits, hzero⟩ := hw
  unfold skipNumber
  split
  · -- A zero that comes first is all there is before the point.
    rename_i r heq
    obtain ⟨c, w', rfl, -⟩ := hdigits.exists_cons
    obtain ⟨rfl, rfl⟩ := List.cons.inj heq
    obtain rfl := hzero w' rfl
    cases t with
    | nil => exact htail
    | cons d t =>
        have hd : ¬ d.isDigit = true := by simpa [endsDigits] using hstop
        exact (if_neg hd).trans htail
  · rw [skipDigits_append _ hdigits hstop]
    exact htail

/-! ### Integers -/

theorem readReal_ne_int {negative : Bool} {n : Nat} {e k : Int} {s r : List Char} :
    readReal negative n e s ≠ .ok (.int k, r) := by
  unfold readReal
  split <;> rintro ⟨⟩

theorem readExponent_ne_int {negative : Bool} {n : Nat} {e k : Int} {s r : List Char} :
    readExponent negative n e s ≠ .ok (.int k, r) := by
  simp only [readExponent]
  repeat' split
  all_goals first
    | exact readReal_ne_int
    | rintro ⟨⟩

theorem readFraction_ne_int {negative : Bool} {n : Nat} {e k : Int} {s r : List Char} :
    readFraction negative n e s ≠ .ok (.int k, r) := by
  simp only [readFraction]
  split
  · rintro ⟨⟩
  · rintro ⟨⟩
  · split
    · exact readExponent_ne_int
    · exact readExponent_ne_int
    · exact readReal_ne_int

theorem skipTail_of_readTail {negative : Bool} {n excess : Nat} {k : Int} {s r : List Char}
    (h : readTail negative n excess s = .ok (.int k, r)) : skipTail s = .ok ((), r) := by
  unfold readTail at h
  split at h
  · exact absurd h readFraction_ne_int
  · exact absurd h readExponent_ne_int
  · exact absurd h readExponent_ne_int
  · rename_i hpoint hsmall hlarge
    split at h
    · obtain ⟨-, rfl⟩ := Prod.mk.inj (Except.ok.inj h)
      rw [skipTail_of_ne hpoint]
      cases s with
      | nil => rfl
      | cons c s =>
          apply if_neg
          rintro (rfl | rfl)
          · exact hsmall s rfl
          · exact hlarge s rfl
    · exact absurd h readReal_ne_int

/-- **An integer that is read leaves the same behind it as one that is passed over.** -/
theorem skipNumber_of_readNumber {negative : Bool} {k : Int} {s r : List Char}
    (h : readNumber negative s = .ok (.int k, r)) : skipNumber s = .ok ((), r) := by
  unfold readNumber at h
  split at h
  · cases h
  · split at h
    · rename_i d t
      split at h
      · cases h
      · rename_i hd
        exact (if_neg hd).trans (skipTail_of_readTail h)
    · exact skipTail_of_readTail h
  · rename_i c s hzero
    split at h
    · rename_i hc
      have hdigits : skipDigits (failAfter .numberInvalid 1) (c :: s) =
          .ok ((), (c :: s).dropWhile Char.isDigit) := by
        simp only [skipDigits, List.takeWhile_cons_of_pos hc]
      unfold skipNumber
      split
      · rename_i heq
        exact absurd (List.cons.inj heq).1 hzero
      · rw [hdigits]
        exact skipTail_of_readTail h
    · cases h

/-! ### Parts of lists and objects -/

/-- Passes over this value and the blanks before it. -/
def PassesOver (reader : Reader Unit) (v : List Char) : Prop :=
  ∀ before rest, IsBlank before → endsNumber rest = true →
    reader (before ++ (v ++ rest)) = .ok ((), rest)

/-- Passes over this part of a list or of an object, but for blanks at its end. -/
def Passes (next : Bool → List Char → Except Failure Next) (reader : Reader Unit)
    (part : List Char) : Prop :=
  ∀ first b rest, IsBlank b → Stops rest →
    ∃ r after, IsBlank after ∧ next first (lead first b ++ (part ++ rest)) = .ok (.more r) ∧
      reader r = .ok ((), after ++ rest)

/-- Sees the closing mark behind blanks. -/
def Closes (next : Bool → List Char → Except Failure Next) (close : Char) : Prop :=
  close ∈ [']', '\x7d'] ∧ ∀ first b rest, IsBlank b →
    next first (b ++ close :: rest) = .ok (.done rest)

section Parts

variable {next : Bool → List Char → Except Failure Next} {reader : Reader Unit} {close : Char}

/-- **The parts that are left are passed over** to the closing mark. -/
theorem readItems_remaining (hclose : Closes next close) {ts : List (List Char)}
    (hparts : ∀ t ∈ ts, Passes next reader t) {n : Nat} (hn : ts.length < n) (first : Bool)
    {b : List Char} (hb : IsBlank b) (rest : List Char) :
    ∃ xs, readItems next reader n first (remaining first b ts ++ close :: rest) =
      .ok (xs, rest) := by
  obtain ⟨hmark, hdone⟩ := hclose
  induction ts generalizing n first b with
  | nil =>
      cases n with
      | zero => exact absurd hn (Nat.not_lt_zero _)
      | succ n => exact ⟨[], by simp only [remaining, readItems, hdone first b rest hb]⟩
  | cons t ts ih =>
      cases n with
      | zero => exact absurd hn (Nat.not_lt_zero _)
      | succ n =>
          obtain ⟨r, after, hafter, hnext, hread⟩ :=
            hparts t List.mem_cons_self first b _ hb (stops_remaining ts hmark rest)
          obtain ⟨xs, hxs⟩ := ih (fun u hu => hparts u (List.mem_cons_of_mem _ hu))
            (Nat.lt_of_succ_lt_succ hn) false hafter
          rw [← append_remaining, List.append_assoc] at hxs
          refine ⟨() :: xs, ?_⟩
          simp only [remaining, List.append_assoc, readItems, hnext, hread, hxs]

/-- **What stands between brackets is passed over.** -/
theorem readItems_inside {α : Type} {chars : α → List Char} {xs : List α} {s : List Char}
    (hclose : Closes next close) (hinside : Inside chars xs s)
    (hparts : ∀ x ∈ xs, Passes next reader (chars x)) {n : Nat} (hn : xs.length < n)
    (rest : List Char) :
    ∃ ys, readItems next reader n true (s ++ close :: rest) = .ok (ys, rest) := by
  obtain ⟨b, hb, rfl⟩ := hinside.exists_remaining
  apply readItems_remaining hclose ?_ ?_ true hb rest
  · intro t ht
    obtain ⟨x, hx, rfl⟩ := List.mem_map.mp ht
    exact hparts x hx
  · rw [List.length_map]
    exact hn

end Parts

/-! ### Items -/

theorem closes_nextSkippedItem : Closes nextSkippedItem ']' := by
  refine ⟨by decide, fun first b rest hb => ?_⟩
  rw [nextSkippedItem, skipSpace_blank hb]
  rfl

theorem passes_item {reader : Reader Unit} {i : Item} (hi : i.Spaced) (hvalue : IsValue i.value)
    (hreader : PassesOver reader i.value) : Passes nextSkippedItem reader i.chars := by
  intro first b rest hb hrest
  have hread (before : List Char) (hbefore : IsBlank before) :=
    hreader before (i.after ++ rest) hbefore (endsNumber_blank hi.after hrest)
  obtain ⟨c, v, hv, hc⟩ := hvalue.exists_head
  cases first with
  | true =>
      have hclose : c ≠ ']' := hc.ne (by decide)
      refine ⟨i.value ++ (i.after ++ rest), i.after, hi.after, ?_, hread [] isBlank_nil⟩
      rw [lead, List.nil_append, i.chars_append, nextSkippedItem, skipSpace_blank hi.before, hv,
        List.cons_append, skipSpace_cons hc.isSpace]
      split
      · rename_i heq
        cases heq
      · rename_i heq
        exact absurd (List.cons.inj heq).1 hclose
      · rename_i heq
        cases heq
        rfl
  | false =>
      refine ⟨i.before ++ (i.value ++ (i.after ++ rest)), i.after, hi.after, ?_,
        hread i.before hi.before⟩
      rw [lead, List.append_assoc, i.chars_append, nextSkippedItem, skipSpace_blank hb]
      rfl

/-! ### Members -/

theorem openName_blank {b : List Char} (hb : IsBlank b) (s : List Char) :
    openName (b ++ '"' :: s) = .ok (.more s) := by
  rw [openName, skipSpace_blank hb]
  rfl

theorem closes_nextSkippedMember : Closes nextSkippedMember '\x7d' := by
  refine ⟨by decide, fun first b rest hb => ?_⟩
  rw [nextSkippedMember, skipSpace_blank hb]
  rfl

theorem readColon_blank {b : List Char} (hb : IsBlank b) (s : List Char) :
    readColon (b ++ ':' :: s) = .ok ((), s) := by
  rw [readColon, skipSpace_blank hb]
  rfl

theorem passes_member {reader : Reader Unit} {m : Member} (hm : m.Spaced)
    (hbody : IsTextBody m.body) (hreader : PassesOver reader m.item.value) :
    Passes nextSkippedMember (skipMember reader) m.chars := by
  intro first b rest hb hrest
  refine ⟨m.body ++ '"' :: (m.beforeColon ++ ':' :: (m.item.chars ++ rest)), m.item.after,
    hm.item.after, ?_, ?_⟩
  · rw [m.chars_append]
    cases first with
    | true =>
        rw [lead, List.nil_append, nextSkippedMember, skipSpace_blank hm.before,
          skipSpace_cons rfl]
        exact openName_blank isBlank_nil _
    | false =>
        rw [lead, List.append_assoc, nextSkippedMember, skipSpace_blank hb]
        exact openName_blank hm.before _
  · have hread := hreader m.item.before (m.item.after ++ rest) hm.item.before
      (endsNumber_blank hm.item.after hrest)
    simp only [skipMember, skipText, skipTextFrom_of_isTextBody hbody,
      readColon_blank hm.beforeColon, m.item.chars_append, hread]

/-! ### Values -/

theorem skipOuter_digit {bound : Nat} {inner : Reader Unit} {c : Char} {s t : List Char}
    (hc : c.isDigit = true) (hs : skipSpace s = c :: t) :
    skipOuter bound inner s = skipNumber (c :: t) := by
  have hne (d : Char) (hd : d.isDigit = false) : c ≠ d := by
    rintro rfl
    exact absurd hc (by simp [hd])
  rw [skipOuter, hs]
  split
  · rename_i heq
    cases heq
  all_goals rename_i heq
  all_goals first
    | exact absurd (List.cons.inj heq).1 (hne _ (by decide))
    | cases heq
      exact if_pos hc

/-- Where a value begins, the blanks before it make no difference. -/
theorem skipOuter_blank {bound : Nat} {inner : Reader Unit} {b : List Char} (hb : IsBlank b)
    (s : List Char) : skipOuter bound inner (b ++ s) = skipOuter bound inner s := by
  simp only [skipOuter, skipSpace_blank hb]

theorem skipOuter_number {bound : Nat} {inner : Reader Unit} {v rest : List Char}
    (hv : IsNumber v) (hrest : endsNumber rest = true) :
    skipOuter bound inner (v ++ rest) = .ok ((), rest) := by
  obtain ⟨hsign, hwhole, hfraction, hexponent⟩ := hv
  have hskip := skipNumber_append hwhole hfraction hexponent hrest
  simp only [List.append_assoc]
  simp only [List.mem_cons, List.not_mem_nil, or_false] at hsign
  rcases hsign with rfl | rfl
  · obtain ⟨c, r, rfl, hc⟩ := hwhole.1.exists_cons
    exact (skipOuter_digit hc (skipSpace_cons (BeginsValue.isSpace (.inl hc)) _)).trans hskip
  · exact hskip

theorem skipOuter_list {bound : Nat} {inner : Reader Unit} {items : List Item} {s : List Char}
    (hinside : Inside Item.chars items s)
    (hparts : ∀ i ∈ items, Passes nextSkippedItem inner i.chars) (hcount : items.length < bound)
    (rest : List Char) :
    skipOuter bound inner ('[' :: (s ++ ']' :: rest)) = .ok ((), rest) := by
  obtain ⟨ys, hys⟩ := readItems_inside closes_nextSkippedItem hinside hparts hcount rest
  change mapRead (fun _ => ()) (readItems nextSkippedItem inner bound true _) = _
  rw [hys, mapRead]

theorem skipOuter_object {bound : Nat} {inner : Reader Unit} {members : List Member}
    {s : List Char} (hinside : Inside Member.chars members s)
    (hparts : ∀ m ∈ members, Passes nextSkippedMember (skipMember inner) m.chars)
    (hcount : members.length < bound) (rest : List Char) :
    skipOuter bound inner ('\x7b' :: (s ++ '\x7d' :: rest)) = .ok ((), rest) := by
  obtain ⟨ys, hys⟩ := readItems_inside closes_nextSkippedMember hinside hparts hcount rest
  change mapRead (fun _ => ()) (readItems nextSkippedMember (skipMember inner) bound true _) = _
  rw [hys, mapRead]

/-- A value is passed over if the shorter ones in it are. -/
theorem skipOuter_of_isValue {v : List Char} (hv : IsValue v) {bound : Nat} {inner : Reader Unit}
    (hbound : v.length ≤ bound)
    (hinner : ∀ w, IsValue w → w.length < v.length → PassesOver inner w) :
    PassesOver (skipOuter bound inner) v := by
  intro before rest hbefore hrest
  rw [skipOuter_blank hbefore]
  cases hv with
  | word hw =>
      simp only [List.mem_cons, List.not_mem_nil, or_false] at hw
      rcases hw with rfl | rfl | rfl <;> rfl
  | number hs => exact skipOuter_number hs hrest
  | text hs =>
      rw [List.cons_append, List.append_assoc]
      exact skipTextFrom_of_isTextBody hs rest
  | list hinside hspaced hvalues =>
      obtain ⟨hcount, hlength⟩ := hinside.length_le
      simp only [List.length_cons, List.length_append, List.length_nil] at hbound hinner
      rw [List.cons_append, List.append_assoc]
      refine skipOuter_list hinside (fun i hi => ?_) (by omega) rest
      have hle := Nat.le_trans i.length_value_le (hlength i hi)
      exact passes_item (hspaced i hi) (hvalues i hi) (hinner _ (hvalues i hi) (by omega))
  | object hinside hspaced hvalues =>
      obtain ⟨hcount, hlength⟩ := hinside.length_le
      simp only [List.length_cons, List.length_append, List.length_nil] at hbound hinner
      rw [List.cons_append, List.append_assoc]
      refine skipOuter_object hinside (fun m hm => ?_) (by omega) rest
      have hle := Nat.le_trans m.length_value_le (hlength m hm)
      exact passes_member (hspaced m hm).1 (hspaced m hm).2 (hinner _ (hvalues m hm) (by omega))

/-- **Every value is passed over**, with the blanks before it, whatever it holds and however
deep it nests. -/
theorem skipNested_of_isValue {v : List Char} (hv : IsValue v) {bound depth : Nat}
    (hbound : v.length ≤ bound) (hdepth : v.length ≤ depth) :
    PassesOver (skipNested bound depth) v := by
  induction depth generalizing v with
  | zero =>
      obtain ⟨c, r, rfl, -⟩ := hv.exists_head
      exact absurd hdepth (Nat.not_succ_le_zero _)
  | succ depth ih =>
      apply skipOuter_of_isValue hv hbound
      intro w hw hshorter
      exact ih hw (by omega) (by omega)

end KeyAudit.Json
