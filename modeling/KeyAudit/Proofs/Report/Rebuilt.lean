/-
The report loses nothing: its text alone gives back both locales, the used keys and the
time.

`Report.rebuilt` reads a report. A line that lists a key begins with the brackets around
the first locale, behind an indent at most, and no heading, rule or blank line begins so
(`Report.listed?`). So it does not matter which sections are left out, nor what stands in
a key: what a line lists is decided before the key begins.

* `mem_entries_body_iff` — the keys that are listed, each with its locales.
* `rebuilt_render` — **what a report is rendered from is read back from it.**
-/

import KeyAudit.Proofs.Report.Characters
import KeyAudit.Proofs.Text.Lines

namespace KeyAudit.Report

/-! ### Reading a report -/

/-- The locales in brackets at the start of a line, and the key behind them. Any two
characters that are not the tag of a locale mark its absence. -/
def bracketed? : List Char → Option (Presence × String)
  | '[' :: a :: b :: ']' :: ' ' :: '[' :: c :: d :: ']' :: ' ' :: key =>
    some (⟨decide ([a, b] = Locale.english.tag.toList),
      decide ([c, d] = Locale.turkish.tag.toList)⟩, String.ofList key)
  | _ => none

/-- What a line lists, if it lists a key. -/
def listed? (line : List Char) : Option (Presence × String) :=
  bracketed? (line.dropWhile fun c => c == ' ')

/-- The heading over the keys that are used. -/
def usedHeading : List Char := "USED KEYS (for verification)".toList

/-- The keys with a presence that the test accepts. -/
def keysWith (test : Presence → Bool) (entries : List (Presence × String)) : KeySet :=
  .ofList ((entries.filter fun e => test e.1).map Prod.snd)

/-- The analysis and the time that a report was rendered from. The first nine lines are
the header and the summary; of them only the time is read. -/
def rebuilt (text : String) : Analysis × String :=
  let lines := Text.lines text.toList
  let body := lines.drop 9
  let entries := body.filterMap listed?
  let used := (body.dropWhile fun line => line != usedHeading).filterMap listed?
  (⟨keysWith Presence.en entries, keysWith Presence.tr entries, keysWith (fun _ => true) used⟩,
    String.ofList ((lines.getD 2 []).drop "Generated on: ".toList.length))

/-! ### Lines that list keys -/

/-- What the line of a key lists. -/
def entry (a : Analysis) (key : String) : Presence × String := (a.presence key, key)

/-- Two characters that are not the tag of a locale. -/
def IsMark (mark : String) : Prop :=
  ∃ x y, mark.toList = [x, y] ∧ ∀ l : Locale, [x, y] ≠ l.tag.toList

theorem isMark_absentMark : IsMark absentMark :=
  ⟨' ', ' ', rfl, fun l => by cases l <;> decide⟩

theorem isMark_missingMark : IsMark missingMark :=
  ⟨'✘', ' ', rfl, fun l => by cases l <;> decide⟩

/-- Between its brackets a locale has two characters, which tell whether it defines the
key. -/
theorem exists_shown {mark : String} (h : IsMark mark) (l : Locale) (defined : Bool) :
    ∃ x y, (if defined then l.tag else mark).toList = [x, y] ∧
      decide ([x, y] = l.tag.toList) = defined := by
  cases defined with
  | true =>
      cases l with
      | english => exact ⟨'E', 'N', by simp [Locale.tag], by decide⟩
      | turkish => exact ⟨'T', 'R', by simp [Locale.tag], by decide⟩
  | false =>
      obtain ⟨x, y, hmark, htag⟩ := h
      exact ⟨x, y, hmark, decide_eq_false (htag l)⟩

/-- **The line of a key lists the key with its locales**, whatever the key holds. -/
theorem bracketed?_keyLine {a : Analysis} {mark key : String} (h : IsMark mark) :
    bracketed? (keyLine a mark key).toList = some (entry a key) := by
  obtain ⟨x, y, hshown, hen⟩ := exists_shown h .english (a.presence key).en
  obtain ⟨z, w, hshown', htr⟩ := exists_shown h .turkish (a.presence key).tr
  have hline : (keyLine a mark key).toList =
      '[' :: x :: y :: ']' :: ' ' :: '[' :: z :: w :: ']' :: ' ' :: key.toList := by
    simp [keyLine, Presence.label, hshown, hshown']
  rw [hline, bracketed?, hen, htr, String.ofList_toList, entry]

theorem listed?_keyLine {a : Analysis} {mark key : String} (h : IsMark mark) :
    listed? (keyLine a mark key).toList = some (entry a key) := by
  have hbracket : ∃ rest, (keyLine a mark key).toList = '[' :: rest := by
    simp [keyLine, Presence.label]
  obtain ⟨rest, hrest⟩ := hbracket
  rw [listed?, hrest, List.dropWhile_cons_of_neg (by decide), ← hrest, bracketed?_keyLine h]

theorem listed?_indented {a : Analysis} {mark key : String} (h : IsMark mark) :
    listed? ("  " ++ keyLine a mark key).toList = some (entry a key) := by
  have hindent : "  ".toList = [' ', ' '] := by decide
  have hline := @listed?_keyLine a mark key h
  rw [listed?] at hline
  rw [String.toList_append, hindent, listed?, List.cons_append, List.cons_append,
    List.dropWhile_cons_of_pos (by decide), List.dropWhile_cons_of_pos (by decide),
    List.nil_append, hline]

/-- A line that begins otherwise lists no key. -/
theorem listed?_eq_none {c : Char} {line : List Char} (hblank : c ≠ ' ') (hbracket : c ≠ '[') :
    listed? (c :: line) = none := by
  rw [listed?, List.dropWhile_cons_of_neg (by simpa using hblank)]
  unfold bracketed?
  split
  · rename_i heq
    exact absurd (List.cons.inj heq).1 hbracket
  · rfl

/-! ### The sections -/

/-- What lines list. -/
def entries (ls : List String) : List (Presence × String) := ls.filterMap fun l => listed? l.toList

theorem entries_append {ls ls' : List String} : entries (ls ++ ls') = entries ls ++ entries ls' :=
  List.filterMap_append

theorem entries_cons_of_none {l : String} {ls : List String} (h : listed? l.toList = none) :
    entries (l :: ls) = entries ls :=
  List.filterMap_cons_none h

theorem entries_keyLines {a : Analysis} {line : String → String}
    (h : ∀ key, listed? (line key).toList = some (entry a key)) (keys : List String) :
    entries (keys.map line) = keys.map (entry a) := by
  rw [entries, List.filterMap_map]
  simp only [Function.comp_def, h, List.filterMap_eq_map']

theorem toList_eq_nil_of_isEmpty {keys : KeySet} (h : keys.isEmpty = true) : keys.toList = [] :=
  List.isEmpty_iff.mp h

theorem toList_onlyHeading (a : Analysis) (l : Locale) :
    (onlyHeading a l).toList = 'K' :: ("eys only in ".toList ++
      (l.label.toList ++ (": ".toList ++ Nat.toDigits 10 (a.only l).size))) := by
  have hkeys : "Keys only in ".toList = 'K' :: "eys only in ".toList := by decide
  delta onlyHeading
  simp only [String.toList_append, Nat.toString_eq_repr, Nat.toList_repr, hkeys, List.append_assoc,
    List.cons_append]

theorem listed?_onlyHeading (a : Analysis) (l : Locale) :
    listed? (onlyHeading a l).toList = none := by
  rw [toList_onlyHeading]
  exact listed?_eq_none (by decide) (by decide)

theorem listed?_blankLine : listed? "".toList = none := by decide

theorem mem_onlySection {a : Analysis} {l : Locale} {s : String} (h : s ∈ onlySection a l) :
    s = onlyHeading a l ∨ (∃ key ∈ a.only l, s = "  " ++ keyLine a absentMark key) ∨ s = "" := by
  rw [onlySection] at h
  split at h
  · cases h
  · simp only [List.cons_append, List.mem_cons, List.mem_append, List.mem_map,
      List.not_mem_nil, or_false] at h
    rcases h with rfl | ⟨key, hkey, rfl⟩ | rfl
    · exact .inl rfl
    · exact .inr (.inl ⟨key, hkey, rfl⟩)
    · exact .inr (.inr rfl)

theorem mem_unusedSection {a : Analysis} {s : String} (h : s ∈ unusedSection a) :
    s = "UNUSED TRANSLATION KEYS" ∨ s = rule 30 ∨
      (∃ key ∈ a.unused, s = keyLine a absentMark key) ∨ s = "" := by
  rw [unusedSection] at h
  split at h
  · cases h
  · simp only [List.cons_append, List.mem_cons, List.mem_append, List.mem_map,
      List.not_mem_nil, or_false] at h
    rcases h with rfl | rfl | ⟨key, hkey, rfl⟩ | rfl
    · exact .inl rfl
    · exact .inr (.inl rfl)
    · exact .inr (.inr (.inl ⟨key, hkey, rfl⟩))
    · exact .inr (.inr (.inr rfl))

theorem entries_onlySection (a : Analysis) (l : Locale) :
    entries (onlySection a l) = (a.only l).toList.map (entry a) := by
  rw [onlySection]
  split
  · rename_i hempty
    rw [toList_eq_nil_of_isEmpty hempty]
    rfl
  · rw [entries_append, entries_cons_of_none (listed?_onlyHeading a l),
      entries_keyLines (fun key => listed?_indented isMark_absentMark),
      entries_cons_of_none listed?_blankLine]
    exact List.append_nil _

theorem entries_unusedSection (a : Analysis) :
    entries (unusedSection a) = a.unused.toList.map (entry a) := by
  rw [unusedSection]
  split
  · rename_i hempty
    rw [toList_eq_nil_of_isEmpty hempty]
    rfl
  · rw [entries_append, entries_cons_of_none (by decide), entries_cons_of_none (by decide),
      entries_keyLines (fun key => listed?_keyLine isMark_absentMark),
      entries_cons_of_none listed?_blankLine]
    exact List.append_nil _

theorem entries_usedSection (a : Analysis) :
    entries (usedSection a) = a.used.toList.map (entry a) := by
  rw [usedSection, entries_cons_of_none (by decide), entries_cons_of_none (by decide),
    entries_keyLines (fun key => listed?_keyLine isMark_missingMark)]

/-! ### The whole report -/

/-- The lines behind the summary. -/
def body (a : Analysis) : List String :=
  onlySection a .english ++ onlySection a .turkish ++ unusedSection a ++ usedSection a

theorem drop_lines (a : Analysis) (generatedAt : String) :
    (lines a generatedAt).drop 9 = body a := by
  have hlines : lines a generatedAt = ["TRANSLATION USAGE ANALYSIS REPORT", rule 50,
      "Generated on: " ++ generatedAt, ""] ++ summary a ++ [""] ++ body a := by
    simp only [lines, body, List.append_assoc]
  rw [hlines]
  rfl

/-- **The keys listed are all keys that are defined or used**, each with its locales. -/
theorem mem_entries_body_iff {a : Analysis} {e : Presence × String} :
    e ∈ entries (body a) ↔
      ∃ key, (key ∈ a.en ∨ key ∈ a.tr ∨ key ∈ a.used) ∧ e = entry a key := by
  have hentries : entries (body a) =
      (a.enOnly.toList ++ a.trOnly.toList ++ a.unused.toList ++ a.used.toList).map (entry a) := by
    simp only [body, entries_append, entries_onlySection, entries_unusedSection,
      entries_usedSection, List.map_append, Analysis.only]
  have hlisted (key : String) :
      key ∈ a.enOnly.toList ++ a.trOnly.toList ++ a.unused.toList ++ a.used.toList ↔
        key ∈ a.en ∨ key ∈ a.tr ∨ key ∈ a.used := by
    simp only [List.mem_append, KeySet.toList, KeySet.mem_keys, Analysis.mem_enOnly,
      Analysis.mem_trOnly, Analysis.mem_unused]
    by_cases hused : key ∈ a.used
    · simp [hused]
    · by_cases hen : key ∈ a.en <;> simp [hen, hused]
  rw [hentries, List.mem_map]
  constructor
  · rintro ⟨key, hkey, rfl⟩
    exact ⟨key, (hlisted key).mp hkey, rfl⟩
  · rintro ⟨key, hkey, rfl⟩
    exact ⟨key, (hlisted key).mpr hkey, rfl⟩

theorem mem_keysWith_iff {test : Presence → Bool} {es : List (Presence × String)} {key : String} :
    key ∈ keysWith test es ↔ ∃ p, (p, key) ∈ es ∧ test p = true := by
  simp only [keysWith, KeySet.mem_ofList, List.mem_map, List.mem_filter]
  constructor
  · rintro ⟨⟨p, k⟩, ⟨hmem, htest⟩, rfl⟩
    exact ⟨p, hmem, htest⟩
  · rintro ⟨p, hmem, htest⟩
    exact ⟨(p, key), ⟨hmem, htest⟩, rfl⟩

/-- A set of keys that are all defined or used is read from the presence that each entry
shows. -/
theorem keysWith_body {a : Analysis} {test : Presence → Bool} {keys : KeySet}
    (listed : ∀ key, key ∈ keys → key ∈ a.en ∨ key ∈ a.tr ∨ key ∈ a.used)
    (shown : ∀ key, test (a.presence key) = true ↔ key ∈ keys) :
    keysWith test (entries (body a)) = keys := by
  apply KeySet.ext_mem
  intro key
  rw [mem_keysWith_iff]
  constructor
  · rintro ⟨p, hmem, htest⟩
    obtain ⟨key', -, he⟩ := mem_entries_body_iff.mp hmem
    cases he
    exact (shown key).mp htest
  · intro hkey
    exact ⟨_, mem_entries_body_iff.mpr ⟨key, listed key hkey, rfl⟩, (shown key).mpr hkey⟩

theorem ne_usedHeading_of_listed {l : String} {e : Presence × String}
    (h : listed? l.toList = some e) : l.toList ≠ usedHeading := by
  intro heading
  have hnone : listed? usedHeading = none := by decide
  rw [heading, hnone] at h
  cases h

theorem onlyHeading_ne_usedHeading (a : Analysis) (l : Locale) :
    (onlyHeading a l).toList ≠ usedHeading := by
  have hused : usedHeading = 'U' :: "SED KEYS (for verification)".toList := by decide
  rw [toList_onlyHeading, hused]
  intro heading
  exact absurd (List.cons.inj heading).1 (by decide)

theorem ne_usedHeading_of_mem_onlySection {a : Analysis} {l : Locale} {s : String}
    (h : s ∈ onlySection a l) : s.toList ≠ usedHeading := by
  rcases mem_onlySection h with rfl | ⟨key, -, rfl⟩ | rfl
  · exact onlyHeading_ne_usedHeading a l
  · exact ne_usedHeading_of_listed (listed?_indented isMark_absentMark)
  · decide

theorem ne_usedHeading_of_mem_unusedSection {a : Analysis} {s : String}
    (h : s ∈ unusedSection a) : s.toList ≠ usedHeading := by
  rcases mem_unusedSection h with rfl | rfl | ⟨key, -, rfl⟩ | rfl
  · decide
  · decide
  · exact ne_usedHeading_of_listed (listed?_keyLine isMark_absentMark)
  · decide

/-- No line before the last section is its heading. -/
theorem dropWhile_body (a : Analysis) (rest : List (List Char)) :
    ((body a).map String.toList ++ rest).dropWhile (fun line => line != usedHeading) =
      (usedSection a).map String.toList ++ rest := by
  have hbefore : ∀ s ∈ (onlySection a .english ++ onlySection a .turkish ++
      unusedSection a).map String.toList, (s != usedHeading) = true := by
    intro s hs
    obtain ⟨l, hl, rfl⟩ := List.mem_map.mp hs
    rw [bne_iff_ne]
    rcases List.mem_append.mp hl with hl | hl
    · rcases List.mem_append.mp hl with hl | hl
      · exact ne_usedHeading_of_mem_onlySection hl
      · exact ne_usedHeading_of_mem_onlySection hl
    · exact ne_usedHeading_of_mem_unusedSection hl
  rw [body, List.map_append, List.append_assoc, List.dropWhile_append_of_pos hbefore, usedSection,
    List.map_cons]
  exact List.dropWhile_cons_of_neg (by decide)

/-! ### Lines without line feeds -/

/-- No key holds a line feed. -/
def Feedless (a : Analysis) : Prop :=
  ∀ key, key ∈ a.en ∨ key ∈ a.tr ∨ key ∈ a.used → '\n' ∉ key.toList

/-- **No line of a report holds a line feed** unless a key or the time does. -/
theorem newline_not_mem_lines {a : Analysis} {generatedAt : String} (keys : Feedless a)
    (time : '\n' ∉ generatedAt.toList) :
    ∀ s ∈ lines a generatedAt, '\n' ∉ s.toList := by
  have honly (l : Locale) (s : String) (hs : s ∈ onlySection a l) : '\n' ∉ s.toList := by
    rcases mem_onlySection hs with rfl | ⟨key, hkey, rfl⟩ | rfl
    · exact control_not_mem_onlyHeading (by decide) a l
    · have hlisted : key ∈ a.en ∨ key ∈ a.tr ∨ key ∈ a.used := by
        cases l with
        | english => exact .inl (Analysis.mem_enOnly.mp hkey).1
        | turkish => exact .inr (.inl (Analysis.mem_trOnly.mp hkey).1)
      have hline : '\n' ∉ (keyLine a absentMark key).toList :=
        control_not_mem_keyLine (by decide) (.inl rfl) (keys key hlisted)
      simp [hline]
    · decide
  have hunused (s : String) (hs : s ∈ unusedSection a) : '\n' ∉ s.toList := by
    rcases mem_unusedSection hs with rfl | rfl | ⟨key, hkey, rfl⟩ | rfl
    · decide
    · decide
    · have hlisted : key ∈ a.en ∨ key ∈ a.tr ∨ key ∈ a.used := by
        rcases (Analysis.mem_unused.mp hkey).1 with hen | htr
        · exact .inl hen
        · exact .inr (.inl htr)
      exact control_not_mem_keyLine (by decide) (.inl rfl) (keys key hlisted)
    · decide
  have hused (s : String) (hs : s ∈ usedSection a) : '\n' ∉ s.toList := by
    simp only [usedSection, List.mem_cons, List.mem_map] at hs
    rcases hs with rfl | rfl | ⟨key, hkey, rfl⟩
    · decide
    · decide
    · exact control_not_mem_keyLine (by decide) (.inr rfl) (keys key (.inr (.inr hkey)))
  have hopening (s : String) (hs : s ∈ ["TRANSLATION USAGE ANALYSIS REPORT", rule 50,
      "Generated on: " ++ generatedAt, ""]) : '\n' ∉ s.toList := by
    simp only [List.mem_cons, List.not_mem_nil, or_false] at hs
    rcases hs with rfl | rfl | rfl | rfl
    · decide
    · decide
    · simp [time]
    · decide
  intro s hs
  simp only [lines, List.mem_append, List.mem_singleton] at hs
  rcases hs with (((((hs | hs) | rfl) | hs) | hs) | hs) | hs
  · exact hopening s hs
  · exact control_not_mem_summary (by decide) a s hs
  · decide
  · exact honly .english s hs
  · exact honly .turkish s hs
  · exact hunused s hs
  · exact hused s hs

theorem toList_joinLines (ls : List String) :
    (joinLines ls).toList = Text.printed (ls.map String.toList) := by
  rw [joinLines, String.toList_join, List.flatMap_map, Text.printed, List.flatMap_map]
  simp only [String.toList_append]
  rfl

/-- A report of keys and a time without line feeds falls into its lines. -/
theorem lines_render {a : Analysis} {generatedAt : String} (keys : Feedless a)
    (time : '\n' ∉ generatedAt.toList) :
    Text.lines (render a generatedAt).toList =
      (lines a generatedAt).map String.toList ++ [[]] := by
  rw [render, toList_joinLines]
  apply Text.lines_printed
  intro s hs
  obtain ⟨l, hl, rfl⟩ := List.mem_map.mp hs
  exact newline_not_mem_lines keys time l hl

/-- **What a report is rendered from is read back from it.** -/
theorem rebuilt_render {a : Analysis} {generatedAt : String} (keys : Feedless a)
    (time : '\n' ∉ generatedAt.toList) : rebuilt (render a generatedAt) = (a, generatedAt) := by
  have hbody : ((lines a generatedAt).map String.toList ++ [[]]).drop 9 =
      (body a).map String.toList ++ [[]] := by
    rw [← drop_lines a generatedAt, List.map_drop]
    rfl
  have hentries (ls : List String) :
      (ls.map String.toList ++ [[]]).filterMap listed? = entries ls := by
    rw [List.filterMap_append, List.filterMap_map]
    exact List.append_nil _
  have htime : (((lines a generatedAt).map String.toList ++ [[]]).getD 2 []).drop
      "Generated on: ".toList.length = generatedAt.toList := by
    change ("Generated on: " ++ generatedAt).toList.drop "Generated on: ".toList.length = _
    rw [String.toList_append, List.drop_left]
  have hen : keysWith Presence.en (entries (body a)) = a.en :=
    keysWith_body (fun key hkey => .inl hkey) fun key => decide_eq_true_iff
  have htr : keysWith Presence.tr (entries (body a)) = a.tr :=
    keysWith_body (fun key hkey => .inr (.inl hkey)) fun key => decide_eq_true_iff
  have hused : keysWith (fun _ => true) (entries (usedSection a)) = a.used := by
    apply KeySet.ext_mem
    intro key
    simp [mem_keysWith_iff, entries_usedSection, entry, KeySet.toList]
  simp only [rebuilt, lines_render keys time, hbody, hentries, dropWhile_body, htime, hen, htr,
    hused, String.ofList_toList]

/-- **Reports with the same text come from the same keys and the same time**, whichever of
their sections are left out. -/
theorem eq_of_render_eq {en tr used en' tr' used' : KeySet} {time time' : String}
    (feedless : ∀ key, key ∈ en ∨ key ∈ tr ∨ key ∈ used → '\n' ∉ key.toList)
    (feedless' : ∀ key, key ∈ en' ∨ key ∈ tr' ∨ key ∈ used' → '\n' ∉ key.toList)
    (oneLine : '\n' ∉ time.toList) (oneLine' : '\n' ∉ time'.toList)
    (same : render ⟨en, tr, used⟩ time = render ⟨en', tr', used'⟩ time') :
    en = en' ∧ tr = tr' ∧ used = used' ∧ time = time' := by
  have hread : rebuilt (render ⟨en, tr, used⟩ time) = (⟨en, tr, used⟩, time) :=
    rebuilt_render feedless oneLine
  have hread' : rebuilt (render ⟨en', tr', used'⟩ time') = (⟨en', tr', used'⟩, time') :=
    rebuilt_render feedless' oneLine'
  rw [same, hread'] at hread
  cases hread
  exact ⟨rfl, rfl, rfl, rfl⟩

/-! ### Keys that look like lines of the report -/

/-- No key at all, a heading, the line of a key, and a key in both locales. -/
def sampleKeys : List String := ["", "USED KEYS (for verification)", "[EN] [TR] a", "a b"]

/-- The keys are the same in any order, and so is the report. -/
theorem eq_of_render_eq_of_sampleKeys :
    (∀ key, key ∈ KeySet.ofList sampleKeys ∨ key ∈ KeySet.ofList ["a b"] ∨
      key ∈ KeySet.ofList ["", "a b"] → '\n' ∉ key.toList) ∧
    '\n' ∉ "2024-01-01 00:00:00".toList ∧
    render ⟨.ofList sampleKeys, .ofList ["a b"], .ofList ["", "a b"]⟩ "2024-01-01 00:00:00" =
      render ⟨.ofList sampleKeys.reverse, .ofList ["a b"], .ofList ["a b", "", "a b"]⟩
        "2024-01-01 00:00:00" ∧
    KeySet.ofList sampleKeys = KeySet.ofList sampleKeys.reverse := by
  have feedless : ∀ key, key ∈ KeySet.ofList sampleKeys ∨ key ∈ KeySet.ofList ["a b"] ∨
      key ∈ KeySet.ofList ["", "a b"] → '\n' ∉ key.toList := by
    have hkeys : ∀ key ∈ sampleKeys, '\n' ∉ key.toList := by decide
    intro key hkey
    apply hkeys
    simp only [KeySet.mem_ofList, List.mem_cons, List.not_mem_nil, or_false] at hkey
    rcases hkey with hkey | rfl | rfl | rfl
    · exact hkey
    · decide
    · decide
    · decide
  have oneLine : '\n' ∉ "2024-01-01 00:00:00".toList := by decide
  have hreverse : KeySet.ofList sampleKeys.reverse = KeySet.ofList sampleKeys := by
    apply KeySet.ext_mem
    simp
  have hused : KeySet.ofList ["a b", "", "a b"] = KeySet.ofList ["", "a b"] := by
    apply KeySet.ext_mem
    simp [or_comm]
  have same : render ⟨.ofList sampleKeys, .ofList ["a b"], .ofList ["", "a b"]⟩
        "2024-01-01 00:00:00" =
      render ⟨.ofList sampleKeys.reverse, .ofList ["a b"], .ofList ["a b", "", "a b"]⟩
        "2024-01-01 00:00:00" := by
    rw [hreverse, hused]
  have feedless' : ∀ key, key ∈ KeySet.ofList sampleKeys.reverse ∨ key ∈ KeySet.ofList ["a b"] ∨
      key ∈ KeySet.ofList ["a b", "", "a b"] → '\n' ∉ key.toList := by
    rwa [hreverse, hused]
  exact ⟨feedless, oneLine, same,
    (eq_of_render_eq feedless feedless' oneLine oneLine same).1⟩

end KeyAudit.Report
