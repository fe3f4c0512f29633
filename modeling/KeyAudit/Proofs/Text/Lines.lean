/-
Texts that are written line by line and read back.

`Text.printed` ends every line with a line feed. Lines without blanks around them come back
as they were written (`filledLines_printed`), and so does ASCII text through its bytes
(`decodeLossy_toUTF8`). `Text.joinLines` puts lines one below the other with a line feed
between each and the next.
-/

import KeyAudit.Text.Blank
import KeyAudit.Text.Utf8

namespace KeyAudit.Text

/-! ### Lines of a text -/

/-- The first line feed of a text ends its first line. -/
theorem lines_append_newline {s t : List Char} (h : '\n' ∉ s) :
    lines (s ++ '\n' :: t) = s :: lines t := by
  induction s with
  | nil => rfl
  | cons c s ih =>
      have hc : c ≠ '\n' := fun he => h (he ▸ List.mem_cons_self)
      rw [List.cons_append, lines.eq_3 c _ fun he => hc he,
        ih fun hs => h (List.mem_cons_of_mem c hs)]

/-- Lines one below the other. -/
def joinLines : List (List Char) → List Char
  | [] => []
  | [line] => line
  | line :: next :: lines => line ++ '\n' :: joinLines (next :: lines)

theorem lines_ne_nil (s : List Char) : lines s ≠ [] := by
  fun_cases lines s <;> simp_all

theorem joinLines_cons_cons {c : Char} {line : List Char} {rest : List (List Char)} :
    joinLines ((c :: line) :: rest) = c :: joinLines (line :: rest) := by
  cases rest <;> rfl

/-- **The lines of a text make it up again.** -/
theorem joinLines_lines (s : List Char) : joinLines (lines s) = s := by
  induction s with
  | nil => rfl
  | cons c s ih =>
      by_cases hc : c = '\n'
      · subst hc
        rw [lines]
        cases hl : lines s with
        | nil => exact absurd hl (lines_ne_nil s)
        | cons line rest =>
            rw [joinLines, ← hl, ih, List.nil_append]
      · rw [lines.eq_3 c s hc]
        cases hl : lines s with
        | nil => exact absurd hl (lines_ne_nil s)
        | cons line rest => rw [joinLines_cons_cons, ← hl, ih]

theorem feedless_of_mem_lines {s line : List Char} (h : line ∈ lines s) : '\n' ∉ line := by
  induction s generalizing line with
  | nil =>
      cases List.mem_singleton.mp h
      exact List.not_mem_nil
  | cons c s ih =>
      by_cases hc : c = '\n'
      · subst hc
        rw [lines] at h
        rcases List.mem_cons.mp h with rfl | h
        · exact List.not_mem_nil
        · exact ih h
      · rw [lines.eq_3 c s hc] at h
        cases hl : lines s with
        | nil => exact absurd hl (lines_ne_nil s)
        | cons first rest =>
            rw [hl] at h ih
            rcases List.mem_cons.mp h with rfl | h
            · intro hm
              rcases List.mem_cons.mp hm with he | hm
              · exact hc he.symm
              · exact ih List.mem_cons_self hm
            · exact ih (List.mem_cons_of_mem _ h)

/-! ### Texts without blanks around them -/

theorem dropWhile_isBlank_eq_self {s : List Char}
    (h : ∀ c, s.head? = some c → isBlank c = false) : s.dropWhile isBlank = s := by
  cases s with
  | nil => rfl
  | cons c s =>
      have hc := h c rfl
      exact List.dropWhile_cons_of_neg (by simp [hc])

/-- A text that neither begins nor ends with a blank is trimmed already. -/
theorem trim_eq_self {s : List Char} (hhead : ∀ c, s.head? = some c → isBlank c = false)
    (hlast : ∀ c, s.getLast? = some c → isBlank c = false) : trim s = s := by
  have hreverse : ∀ c, s.reverse.head? = some c → isBlank c = false := by
    rwa [List.head?_reverse]
  rw [trim, trimStart, trimEnd, dropWhile_isBlank_eq_self hhead,
    dropWhile_isBlank_eq_self hreverse, List.reverse_reverse]

/-- A line feed behind such a text is trimmed off. -/
theorem trim_append_newline {s : List Char} (hne : s ≠ [])
    (hhead : ∀ c, s.head? = some c → isBlank c = false)
    (hlast : ∀ c, s.getLast? = some c → isBlank c = false) : trim (s ++ ['\n']) = s := by
  have hstart : trimStart (s ++ ['\n']) = s ++ ['\n'] := by
    apply dropWhile_isBlank_eq_self
    cases s with
    | nil => exact absurd rfl hne
    | cons c s => exact hhead
  have hreverse : ∀ c, s.reverse.head? = some c → isBlank c = false := by
    rwa [List.head?_reverse]
  rw [trim, hstart, trimEnd, List.reverse_append, List.reverse_singleton, List.singleton_append,
    List.dropWhile_cons_of_pos (by decide), dropWhile_isBlank_eq_self hreverse,
    List.reverse_reverse]

/-- What is trimmed does not end with a blank. -/
theorem isBlank_getLast?_trim {s : List Char} {c : Char} (h : (trim s).getLast? = some c) :
    isBlank c = false := by
  rw [trim, trimEnd, List.getLast?_reverse] at h
  have hfirst := List.head?_dropWhile_not isBlank (trimStart s).reverse
  rw [h] at hfirst
  simpa using hfirst

theorem trim_eq_self_of_solid {s : List Char} (h : ∀ c ∈ s, isBlank c = false) : trim s = s :=
  trim_eq_self (fun c hc => h c (List.mem_of_head? hc)) (fun c hc => h c (List.mem_of_getLast? hc))

/-! ### Lines that are written -/

/-- Each text on a line of its own. -/
def printed (texts : List (List Char)) : List Char := texts.flatMap fun s => s ++ ['\n']

/-- **Lines without line feeds are told apart again.** Behind the last one the text ends. -/
theorem lines_printed {texts : List (List Char)} (h : ∀ s ∈ texts, '\n' ∉ s) :
    lines (printed texts) = texts ++ [[]] := by
  induction texts with
  | nil => rfl
  | cons s texts ih =>
      have hs : '\n' ∉ s := h s List.mem_cons_self
      have htexts := ih fun t ht => h t (List.mem_cons_of_mem s ht)
      have hprinted : printed (s :: texts) = s ++ '\n' :: printed texts := by
        simp [printed]
      rw [hprinted, lines_append_newline hs, htexts, List.cons_append]

/-- **Lines that hold something are read back as they were written**, where none of them
begins or ends with a blank. -/
theorem filledLines_printed {texts : List (List Char)}
    (h : ∀ s ∈ texts, s ≠ [] ∧ '\n' ∉ s ∧ trim s = s) : filledLines (printed texts) = texts := by
  have hlines : lines (printed texts) = texts ++ [[]] := lines_printed fun s hs => (h s hs).2.1
  have htrim : texts.map trim = texts := by
    conv => rhs; rw [← List.map_id texts]
    apply List.map_congr_left
    intro s hs
    exact (h s hs).2.2
  have hfilter : texts.filter (fun l => !l.isEmpty) = texts := by
    apply List.filter_eq_self.mpr
    intro s hs
    simpa using (h s hs).1
  rw [filledLines, hlines, List.map_append, htrim, List.filter_append, hfilter]
  simp [trim, trimStart, trimEnd]

theorem filledLines_printed_of_solid {texts : List (List Char)}
    (h : ∀ s ∈ texts, s ≠ [] ∧ ∀ c ∈ s, isBlank c = false) :
    filledLines (printed texts) = texts := by
  apply filledLines_printed
  intro s hs
  obtain ⟨hne, hsolid⟩ := h s hs
  refine ⟨hne, ?_, trim_eq_self_of_solid hsolid⟩
  intro hm
  have := hsolid _ hm
  revert this
  decide

/-! ### Bytes of ASCII text -/

theorem bytes_of_ascii {s : List Char} (ascii : ∀ c ∈ s, c.toNat < 128) :
    (String.ofList s).toUTF8.data.toList = s.map fun c => c.val.toUInt8 := by
  rw [String.toUTF8_eq_toByteArray, String.toByteArray_ofList, List.utf8Encode,
    List.toList_data_toByteArray]
  induction s with
  | nil => rfl
  | cons c s ih =>
      have hsize : c.utf8Size = 1 := by
        rw [Char.utf8Size_eq_one_iff, UInt32.le_iff_toNat_le]
        have := ascii c List.mem_cons_self
        have hval : c.toNat = c.val.toNat := rfl
        have h127 : (127 : UInt32).toNat = 127 := rfl
        omega
      rw [List.flatMap_cons, String.utf8EncodeChar_eq_singleton hsize, List.map_cons,
        ih fun d hd => ascii d (List.mem_cons_of_mem c hd)]
      rfl

theorem toNat_toUInt8_of_ascii {c : Char} (h : c.toNat < 128) :
    c.val.toUInt8.toNat = c.toNat := by
  have hval : c.val.toNat = c.toNat := rfl
  rw [UInt32.toNat_toUInt8, hval]
  exact Nat.mod_eq_of_lt (by omega)

/-- **ASCII text is read from its bytes as it was written.** -/
theorem decodeLossy_toUTF8 {s : List Char} (ascii : ∀ c ∈ s, c.toNat < 128) :
    Utf8.decodeLossy (String.ofList s).toUTF8.data.toList = s := by
  have hsmall : ∀ b ∈ s.map fun c => c.val.toUInt8, b < 0x80 := by
    intro b hb
    obtain ⟨c, hc, rfl⟩ := List.mem_map.mp hb
    rw [UInt8.lt_iff_toNat_lt, toNat_toUInt8_of_ascii (ascii c hc)]
    exact ascii c hc
  rw [bytes_of_ascii ascii, Utf8.decodeLossy_ascii hsmall, List.map_map]
  conv => rhs; rw [← List.map_id s]
  apply List.map_congr_left
  intro c hc
  rw [Function.comp_apply, toNat_toUInt8_of_ascii (ascii c hc), Char.ofNat_toNat, id_eq]

end KeyAudit.Text
