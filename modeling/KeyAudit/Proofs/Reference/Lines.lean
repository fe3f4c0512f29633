/-
References and the lines of a text.

A scan goes through a text line by line: what it finds in a text is what it finds in each of
the lines taken alone, one after the other (`Reference.scan_joinLines`). So it is of no
concern how lines are spread over texts, or in which order they come.

Nor is it how a line ends. `Text.withReturns` puts a carriage return before every line feed;
a reference that the end of a line closes is closed there as before, and none is closed or
cut that was not (`Reference.scan_returned`).

* `referencedKeys_by_line` — **the keys of a text are those of its lines.**
* `referencedKeys_withReturns` — **carriage returns at the ends of lines change nothing.**
-/

import KeyAudit.Proofs.Reference.Occurrence
import KeyAudit.Proofs.Text.Lines

namespace KeyAudit

/-! ### Texts of lines -/

namespace Text

/-- The lines of a text, told apart by line feeds. -/
def linesOf (text : String) : List String := (lines text.toList).map String.ofList

/-- Texts one below the other are their lines one below the other. -/
theorem toList_intercalate_newline (texts : List String) :
    ("\n".intercalate texts).toList = joinLines (texts.map String.toList) := by
  induction texts with
  | nil => rfl
  | cons text texts ih =>
      cases texts with
      | nil => rw [String.intercalate_singleton, List.map_singleton, joinLines]
      | cons next texts =>
          rw [String.intercalate_cons_cons, String.toList_append, String.toList_append, ih,
            List.append_assoc]
          rfl

/-- **The lines of a text make it up again.** -/
theorem intercalate_linesOf (text : String) : "\n".intercalate (linesOf text) = text := by
  have hlines : (linesOf text).map String.toList = lines text.toList := by
    rw [linesOf, List.map_map]
    exact List.map_id'' (fun line => String.toList_ofList) _
  rw [← String.toList_inj, toList_intercalate_newline, hlines, joinLines_lines]

/-- The text with a carriage return before every line feed. -/
def returned (s : List Char) : List Char :=
  s.flatMap fun c => if c = '\n' then ['\r', '\n'] else [c]

/-- The text with a carriage return before every line feed. -/
def withReturns (text : String) : String := String.ofList (returned text.toList)

theorem returned_cons {c : Char} {s : List Char} (hc : c ≠ '\n') :
    returned (c :: s) = c :: returned s := by
  rw [returned, List.flatMap_cons, if_neg hc]
  rfl

theorem returned_newline {s : List Char} : returned ('\n' :: s) = '\r' :: '\n' :: returned s := by
  rw [returned, List.flatMap_cons, if_pos rfl]
  rfl

theorem returned_append {u s : List Char} (hu : '\n' ∉ u) :
    returned (u ++ s) = u ++ returned s := by
  induction u with
  | nil => rfl
  | cons c u ih =>
      rw [List.mem_cons, not_or] at hu
      rw [List.cons_append, returned_cons (Ne.symm hu.1), ih hu.2, List.cons_append]

/-- What stands at the start and holds no carriage return was there before. -/
theorem exists_of_returned_eq {u s rest : List Char} (hu : '\r' ∉ u)
    (h : returned s = u ++ rest) : ∃ r, s = u ++ r ∧ rest = returned r := by
  induction u generalizing s with
  | nil => exact ⟨s, rfl, h.symm⟩
  | cons c u ih =>
      rw [List.mem_cons, not_or] at hu
      cases s with
      | nil => cases h
      | cons d s =>
          by_cases hd : d = '\n'
          · subst hd
            rw [returned_newline] at h
            exact absurd (List.cons.inj h).1 hu.1
          · rw [returned_cons hd] at h
            obtain ⟨rfl, hs⟩ := List.cons.inj h
            obtain ⟨r, rfl, hr⟩ := ih hu.2 hs
            exact ⟨r, rfl, hr⟩

end Text

/-! ### Scans of lines -/

namespace Reference

open Text

/-- **A scan finds what it finds in each line, one after the other.** -/
theorem scan_joinLines {closing : Closing} {lines : List (List Char)} :
    scan closing 0 none (joinLines lines) = lines.flatMap (scan closing 0 none) := by
  induction lines with
  | nil => rfl
  | cons line lines ih =>
      cases lines with
      | nil => rw [joinLines, List.flatMap_singleton]
      | cons next lines => rw [joinLines, scan_append_newline, ih, ← List.flatMap_cons]

/-- A reference in a text stands in one of its lines. -/
theorem occurs_joinLines_iff {closing : Closing} {lines : List (List Char)} {key : List Char} :
    Occurs closing (joinLines lines) key ↔ ∃ line ∈ lines, Occurs closing line key := by
  simp only [← mem_scan_iff_occurs, scan_joinLines, List.mem_flatMap]

/-! ### Scans of lines with carriage returns -/

/-- A call holds no carriage return. -/
theorem return_not_mem_call {q q' : Char} {key : List Char} (hq : IsQuote q) (hkey : IsKey key)
    (hq' : IsQuote q') : '\r' ∉ call q key q' :=
  fun hc => absurd (of_mem_call hq hkey hq' hc) (by decide)

/-- A reference is closed by the end of a line, whichever way the line ends. -/
theorem closes_returned_iff {closing : Closing} {rest : List Char} (hrest : '\r' ∉ rest) :
    Closes closing (returned rest) ↔ Closes closing rest := by
  cases rest with
  | nil => exact Iff.rfl
  | cons c rest =>
      rw [← length?_iff_closes, ← length?_iff_closes]
      by_cases hc : c = '\n'
      · subst hc
        rw [returned_newline]
        cases closing with
        | mark => simp [Closing.length?]
        | lineEnd => simp [Closing.length?]
      · have hreturn : c ≠ '\r' := fun he => hrest (he ▸ List.mem_cons_self)
        rw [returned_cons hc]
        cases closing with
        | mark => rfl
        | lineEnd => simp [Closing.length?, hc, hreturn]

theorem exists_callAt_returned_iff {closing : Closing} {s key : List Char} (hs : '\r' ∉ s) :
    (∃ n, callAt closing (returned s) = some (key, n)) ↔
      ∃ n, callAt closing s = some (key, n) := by
  rw [exists_callAt_iff, exists_callAt_iff]
  constructor
  · rintro ⟨hkey, q, q', rest, hq, hq', he, hrest⟩
    obtain ⟨r, rfl, rfl⟩ := exists_of_returned_eq (return_not_mem_call hq hkey hq') he
    have hr : '\r' ∉ r := fun hm => hs (List.mem_append_right _ hm)
    exact ⟨hkey, q, q', r, hq, hq', rfl, (closes_returned_iff hr).mp hrest⟩
  · rintro ⟨hkey, q, q', rest, hq, hq', rfl, hrest⟩
    have hr : '\r' ∉ rest := fun hm => hs (List.mem_append_right _ hm)
    exact ⟨hkey, q, q', returned rest, hq, hq',
      returned_append (newline_not_mem_call hq hkey hq'), (closes_returned_iff hr).mpr hrest⟩

/-- **A scan finds the same with carriage returns at the ends of the lines.** The induction is
on the text: a line feed and the carriage return before it begin no reference, and a word may
begin behind them as behind the line feed alone. -/
theorem scan_returned {closing : Closing} {before : Option Char} {s : List Char}
    (hs : '\r' ∉ s) : scan closing 0 before (returned s) = scan closing 0 before s := by
  induction s generalizing before with
  | nil => rfl
  | cons c s ih =>
      have hs' : '\r' ∉ s := fun hm => hs (List.mem_cons_of_mem c hm)
      by_cases hc : c = '\n'
      · subst hc
        rw [returned_newline, scan_cons, scan_cons, scan_cons, keyHere_eq_nil (by decide),
          keyHere_eq_nil (by decide), keyHere_eq_nil (by decide), ih hs']
        rfl
      · have hhere : keyHere closing before (returned (c :: s)) = keyHere closing before (c :: s) :=
          keyHere_congr fun key => exists_callAt_returned_iff hs
        rw [returned_cons hc] at hhere ⊢
        rw [scan_cons, scan_cons, hhere, ih hs']

end Reference

/-! ### Keys of lines -/

open Text Reference

/-- A key of a text is one that some scan finds. -/
theorem mem_referencedKeys_iff_mem_scan {text key : String} :
    key ∈ referencedKeys text ↔ ∃ closing, key.toList ∈ scan closing 0 none text.toList := by
  simp only [mem_referencedKeys_iff, References, mem_scan_iff_occurs]

/-- **Texts one below the other have the keys of each.** -/
theorem referencedKeys_intercalate (texts : List String) :
    referencedKeys ("\n".intercalate texts) = KeySet.unions (texts.map referencedKeys) := by
  apply KeySet.ext_mem
  intro key
  simp only [mem_referencedKeys_iff_mem_scan, toList_intercalate_newline, scan_joinLines,
    List.mem_flatMap, List.mem_map, KeySet.mem_unions]
  constructor
  · rintro ⟨closing, _, ⟨text, hmem, rfl⟩, hkey⟩
    exact ⟨_, ⟨text, hmem, rfl⟩, mem_referencedKeys_iff_mem_scan.mpr ⟨closing, hkey⟩⟩
  · rintro ⟨_, ⟨text, hmem, rfl⟩, hkey⟩
    obtain ⟨closing, hkey⟩ := mem_referencedKeys_iff_mem_scan.mp hkey
    exact ⟨closing, _, ⟨text, hmem, rfl⟩, hkey⟩

/-- The order of texts one below the other makes no difference. -/
theorem referencedKeys_intercalate_perm {texts texts' : List String} (h : texts.Perm texts') :
    referencedKeys ("\n".intercalate texts) = referencedKeys ("\n".intercalate texts') := by
  rw [referencedKeys_intercalate, referencedKeys_intercalate]
  apply KeySet.ext_mem
  intro key
  simp only [KeySet.mem_unions, (h.map referencedKeys).mem_iff]

/-- **References are local to lines.** Two texts one below the other have the keys of both, and
each scan finds in them what it finds in the first and then what it finds in the second. So the
keys of a text are those of its lines taken alone, in whatever order the lines are put; and any
number of texts may be put one below the other and keep their keys. -/
theorem referencedKeys_by_line :
    (∀ a b : String,
      referencedKeys (a ++ "\n" ++ b) = (referencedKeys a).union (referencedKeys b) ∧
      ∀ closing, scan closing 0 none (a ++ "\n" ++ b).toList =
        scan closing 0 none a.toList ++ scan closing 0 none b.toList) ∧
    (∀ text, referencedKeys text = KeySet.unions ((linesOf text).map referencedKeys)) ∧
    (∀ text order, order.Perm (linesOf text) →
      referencedKeys ("\n".intercalate order) = referencedKeys text) ∧
    ∀ texts, referencedKeys ("\n".intercalate texts) =
      KeySet.unions (texts.map referencedKeys) := by
  refine ⟨fun a b => ⟨?_, ?_⟩, ?_, ?_, referencedKeys_intercalate⟩
  · have hboth : a ++ "\n" ++ b = "\n".intercalate [a, b] := by
      rw [String.intercalate_cons_cons, String.intercalate_singleton]
    rw [hboth, referencedKeys_intercalate]
    apply KeySet.ext_mem
    simp
  · intro closing
    have hboth : (a ++ "\n" ++ b).toList = a.toList ++ '\n' :: b.toList := by
      rw [String.toList_append, String.toList_append, List.append_assoc]
      rfl
    rw [hboth, scan_append_newline]
  · intro text
    rw [← referencedKeys_intercalate, intercalate_linesOf]
  · intro text order horder
    rw [referencedKeys_intercalate_perm horder, intercalate_linesOf]

/-- Lines that end within a call and begin with one, the other way round. -/
theorem referencedKeys_of_reordered_lines :
    ["const t", "t('b')", "t('a.b'"].Perm (linesOf "t('a.b'\nt('b')\nconst t") ∧
      referencedKeys "const t\nt('b')\nt('a.b'" = referencedKeys "t('a.b'\nt('b')\nconst t" := by
  have horder : ["const t", "t('b')", "t('a.b'"].Perm (linesOf "t('a.b'\nt('b')\nconst t") := by
    decide
  have hjoined : "\n".intercalate ["const t", "t('b')", "t('a.b'"] =
      "const t\nt('b')\nt('a.b'" := by
    decide
  have hkeys := referencedKeys_by_line.2.2.1 _ _ horder
  rw [hjoined] at hkeys
  exact ⟨horder, hkeys⟩

/-- **Which way lines end makes no difference.** Where a text holds no carriage return, one may
be put before every line feed: each scan finds the same keys in the same order. -/
theorem referencedKeys_withReturns {text : String} (h : '\r' ∉ text.toList) :
    referencedKeys (withReturns text) = referencedKeys text ∧
      ∀ closing, scan closing 0 none (withReturns text).toList =
        scan closing 0 none text.toList := by
  have hscan (closing : Closing) :
      scan closing 0 none (withReturns text).toList = scan closing 0 none text.toList := by
    rw [withReturns, String.toList_ofList, scan_returned h]
  refine ⟨?_, hscan⟩
  apply KeySet.ext_mem
  intro key
  simp only [mem_referencedKeys_iff_mem_scan, hscan]

theorem referencedKeys_of_returned_lines :
    '\r' ∉ "t('a.b'\nt(\"c\"\n".toList ∧
      referencedKeys "t('a.b'\r\nt(\"c\"\r\n" = referencedKeys "t('a.b'\nt(\"c\"\n" ∧
      (referencedKeys "t('a.b'\nt(\"c\"\n").toList = ["a.b", "c"] :=
  ⟨by decide, (@referencedKeys_withReturns "t('a.b'\nt(\"c\"\n" (by decide)).1, by decide⟩

end KeyAudit
