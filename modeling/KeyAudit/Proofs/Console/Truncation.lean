/-
What the console lists is the beginning of what the report lists.

Both outputs are read as lines, whatever a key holds: `Report.linesBelow` gives the lines
of a section of the report, `Console.linesBelow` the indented lines below a heading of the
console. A heading is told from all lines before it by its first two characters
(`OpenAs.not_mem`). So each listing can be cut out of its output, and the two are compared
as texts: the console shows the first lines of the section, with the same locales, and says
how many more there are (`console_truncates_report`).
-/

import KeyAudit.Console
import KeyAudit.Proofs.Report.Rebuilt
import Mathlib.Data.List.TakeWhile

namespace KeyAudit

/-! ### Lines by their openings -/

/-- The first two characters of a line. -/
def opening (s : String) : List Char := s.toList.take 2

/-- Every line opens in one of these ways. -/
def OpenAs (os : List (List Char)) (ls : List String) : Prop := ∀ s ∈ ls, opening s ∈ os

section OpenAs

variable {os os' : List (List Char)} {ls ls' : List String} {heading : String}

/-- A line that opens otherwise is none of them. -/
theorem OpenAs.not_mem (h : OpenAs os ls) (other : opening heading ∉ os) : heading ∉ ls :=
  fun hmem => other (h heading hmem)

theorem OpenAs.append (h : OpenAs os ls) (h' : OpenAs os' ls') :
    OpenAs (os ++ os') (ls ++ ls') := by
  intro s hs
  rw [List.mem_append] at hs ⊢
  exact hs.imp (h s) (h' s)

theorem bne_of_not_mem (h : heading ∉ ls) : ∀ s ∈ ls, (s != heading) = true := by
  intro s hs
  rw [bne_iff_ne]
  rintro rfl
  exact h hs

/-- The search for a heading ends at it. -/
theorem dropWhile_heading (h : heading ∉ ls) (after : List String) :
    (ls ++ heading :: after).dropWhile (fun s => s != heading) = heading :: after := by
  rw [List.dropWhile_append_of_pos (bne_of_not_mem h)]
  exact List.dropWhile_cons_of_neg (by simp)

theorem dropWhile_no_heading (h : heading ∉ ls) :
    ls.dropWhile (fun s => s != heading) = [] :=
  List.dropWhile_eq_nil_iff.mpr (bne_of_not_mem h)

end OpenAs

/-! ### Paragraphs -/

/-- The lines up to the next blank one. -/
def paragraph (ls : List String) : List String := ls.takeWhile fun s => s != ""

theorem paragraph_append {ls : List String} (h : "" ∉ ls) (rest : List String) :
    paragraph (ls ++ "" :: rest) = ls := by
  rw [paragraph, List.takeWhile_append_of_pos (bne_of_not_mem h),
    List.takeWhile_cons_of_neg (by simp), List.append_nil]

theorem paragraph_eq_self {ls : List String} (h : "" ∉ ls) : paragraph ls = ls :=
  List.takeWhile_eq_self_iff.mpr (bne_of_not_mem h)

/-! ### The sections of a report -/

namespace Report

/-- The lines below a heading and its rule, up to the next blank line. -/
def linesBelow (heading : String) (ls : List String) : List String :=
  paragraph ((ls.dropWhile fun s => s != heading).drop 2)

/-- The lines below the header of a report, up to the next blank line. -/
def summaryOf (ls : List String) : List String :=
  paragraph ((ls.dropWhile fun s => s != "").drop 1)

/-- How the line of a key opens. -/
def keyOpenings : List (List Char) := [['[', 'E'], ['[', ' '], ['[', '✘']]

theorem openAs_keyLines (a : Analysis) {mark : String} (keys : List String)
    (h : mark = absentMark ∨ mark = missingMark) :
    OpenAs keyOpenings (keys.map (keyLine a mark)) := by
  intro s hs
  obtain ⟨key, -, rfl⟩ := List.mem_map.mp hs
  have htag : Locale.english.tag = "EN" := rfl
  cases hen : (a.presence key).en with
  | true =>
      rcases h with rfl | rfl <;> simp [keyLine, Presence.label, opening, keyOpenings, hen, htag]
  | false =>
      rcases h with rfl | rfl <;>
        simp [keyLine, Presence.label, opening, keyOpenings, hen, absentMark, missingMark]

theorem opening_onlyHeading (a : Analysis) (l : Locale) :
    opening (onlyHeading a l) = ['K', 'e'] := by
  rw [opening, toList_onlyHeading]
  rfl

theorem openAs_summary (a : Analysis) :
    OpenAs [['T', 'o'], ['T', 'r'], ['U', 'n'], ['U', 's']] (summary a) := by
  simp [OpenAs, summary, opening]

theorem openAs_onlySection (a : Analysis) (l : Locale) :
    OpenAs [['K', 'e'], [' ', ' '], []] (onlySection a l) := by
  intro s hs
  rcases mem_onlySection hs with rfl | ⟨key, -, rfl⟩ | rfl
  · simp [opening_onlyHeading]
  · simp [opening]
  · simp [opening]

/-- The lines before the keys that are not used. -/
def preamble (a : Analysis) (generatedAt : String) : List String :=
  ["TRANSLATION USAGE ANALYSIS REPORT", rule 50, "Generated on: " ++ generatedAt, ""] ++
    (summary a ++ "" :: (onlySection a .english ++ onlySection a .turkish))

theorem lines_eq (a : Analysis) (generatedAt : String) :
    lines a generatedAt = preamble a generatedAt ++ (unusedSection a ++ usedSection a) := by
  simp [lines, preamble]

theorem openAs_preamble (a : Analysis) (generatedAt : String) :
    OpenAs ([['T', 'R'], ['=', '='], ['G', 'e'], []] ++
      ([['T', 'o'], ['T', 'r'], ['U', 'n'], ['U', 's']] ++
        ([[]] ++ ([['K', 'e'], [' ', ' '], []] ++ [['K', 'e'], [' ', ' '], []]))))
      (preamble a generatedAt) := by
  have hheader : OpenAs [['T', 'R'], ['=', '='], ['G', 'e'], []]
      ["TRANSLATION USAGE ANALYSIS REPORT", rule 50, "Generated on: " ++ generatedAt, ""] := by
    simp [OpenAs, opening, rule]
  have hblank : OpenAs [[]] [""] := by simp [OpenAs, opening]
  exact hheader.append ((openAs_summary a).append (hblank.append
    ((openAs_onlySection a .english).append (openAs_onlySection a .turkish))))

theorem not_mem_preamble (a : Analysis) (generatedAt : String) :
    "UNUSED TRANSLATION KEYS" ∉ preamble a generatedAt :=
  (openAs_preamble a generatedAt).not_mem (by decide)

theorem not_mem_usedSection (a : Analysis) : "UNUSED TRANSLATION KEYS" ∉ usedSection a := by
  have hkeys := openAs_keyLines a a.used.toList (.inr rfl)
  simp only [usedSection, List.mem_cons, not_or]
  exact ⟨by decide, by decide, hkeys.not_mem (by decide)⟩

/-- The section of the keys that are not used stands in a report if there are any. -/
theorem mem_lines_iff {a : Analysis} {generatedAt : String} :
    "UNUSED TRANSLATION KEYS" ∈ lines a generatedAt ↔ a.unused.isEmpty = false := by
  rw [lines_eq, List.mem_append, List.mem_append]
  simp only [not_mem_preamble, not_mem_usedSection, or_false, false_or]
  cases hempty : a.unused.isEmpty <;> simp [unusedSection, hempty]

/-- **The section of the keys that are not used has a line for each.** -/
theorem linesBelow_unused (a : Analysis) (generatedAt : String) :
    linesBelow "UNUSED TRANSLATION KEYS" (lines a generatedAt) =
      a.unused.toList.map (keyLine a absentMark) := by
  have hkeys := openAs_keyLines a a.unused.toList (.inl rfl)
  cases hempty : a.unused.isEmpty with
  | true =>
      have hnone : "UNUSED TRANSLATION KEYS" ∉ lines a generatedAt := by
        simp [mem_lines_iff, hempty]
      rw [linesBelow, dropWhile_no_heading hnone, toList_eq_nil_of_isEmpty hempty]
      rfl
  | false =>
      have hlines : lines a generatedAt = preamble a generatedAt ++ "UNUSED TRANSLATION KEYS" ::
          rule 30 :: (a.unused.toList.map (keyLine a absentMark) ++ "" :: usedSection a) := by
        simp [lines_eq, unusedSection, hempty]
      rw [linesBelow, hlines, dropWhile_heading (not_mem_preamble a generatedAt)]
      exact paragraph_append (hkeys.not_mem (by decide)) _

/-- **The section of the keys that are used has a line for each.** -/
theorem linesBelow_used (a : Analysis) (generatedAt : String) :
    linesBelow "USED KEYS (for verification)" (lines a generatedAt) =
      a.used.toList.map (keyLine a missingMark) := by
  have hkeys := openAs_keyLines a a.used.toList (.inr rfl)
  have hpreamble : "USED KEYS (for verification)" ∉ preamble a generatedAt :=
    (openAs_preamble a generatedAt).not_mem (by decide)
  have hunused : "USED KEYS (for verification)" ∉ unusedSection a := by
    intro hmem
    exact ne_usedHeading_of_mem_unusedSection hmem rfl
  have hbefore : "USED KEYS (for verification)" ∉ preamble a generatedAt ++ unusedSection a := by
    simp [hpreamble, hunused]
  rw [linesBelow, lines_eq, ← List.append_assoc, usedSection, dropWhile_heading hbefore]
  exact paragraph_eq_self (hkeys.not_mem (by decide))

theorem not_mem_summary (a : Analysis) : "" ∉ summary a := (openAs_summary a).not_mem (by decide)

theorem summaryOf_lines (a : Analysis) (generatedAt : String) :
    summaryOf (lines a generatedAt) = summary a := by
  have hlines : lines a generatedAt =
      ["TRANSLATION USAGE ANALYSIS REPORT", rule 50, "Generated on: " ++ generatedAt] ++
        "" :: (summary a ++ "" :: (onlySection a .english ++ onlySection a .turkish ++
          (unusedSection a ++ usedSection a))) := by
    simp [lines]
  have hheader : "" ∉ ["TRANSLATION USAGE ANALYSIS REPORT", rule 50,
      "Generated on: " ++ generatedAt] := by
    simp [rule]
  rw [summaryOf, hlines, dropWhile_heading hheader]
  exact paragraph_append (not_mem_summary a) _

end Report

/-! ### The listings of the console -/

namespace Console

/-- The text of a line, whatever its styles. -/
def lineText (l : Line) : String := String.join (l.map Span.text)

/-- The lines that the console shows of an audit. -/
def shown (a : Audit) (limits : Limits) : List String := (analysis a limits).map lineText

/-- Does a line stand behind an indent? -/
def isIndented (s : String) : Bool := opening s == [' ', ' ']

/-- A line without its indent. -/
def unindented (s : String) : String := String.ofList (s.toList.drop 2)

/-- The indented lines that come first below a heading, without their indent. -/
def linesBelow (heading : String) (ls : List String) : List String :=
  (((ls.dropWhile fun s => s != heading).dropWhile fun s => !isIndented s).takeWhile
    isIndented).map unindented

/-- The lines below the heading of the results, up to the next blank line. -/
def summaryOf (ls : List String) : List String :=
  paragraph ((ls.dropWhile fun s => s != "ANALYSIS RESULTS").drop 2)

theorem lineText_line (s : String) : lineText (line s) = s := by
  simp [lineText, line, plain]

/-- Without colours the console writes the texts of its lines. -/
theorem render_eq (ls : List Line) : render false ls = Report.joinLines (ls.map lineText) := by
  have hspan : Span.render false = Span.text := rfl
  rw [render, hspan]
  rfl

/-! ### Cutting out a listing -/

theorem isIndented_indented (s : String) : isIndented ("  " ++ s) = true := by
  simp [isIndented, opening]

theorem unindented_indented (s : String) : unindented ("  " ++ s) = s := by
  simp [unindented]

/-- A listing below a heading is found, whatever stands around it. -/
theorem linesBelow_append {heading : String} {before top listing after : List String}
    (hbefore : heading ∉ before) (htop : ∀ s ∈ heading :: top, isIndented s = false)
    (hlisting : listing = [] → after = []) (hafter : ∀ s ∈ after.head?, isIndented s = false) :
    linesBelow heading (before ++ heading :: (top ++ (listing.map ("  " ++ ·) ++ after))) =
      listing := by
  have hindented : ∀ s ∈ listing.map ("  " ++ ·), isIndented s = true := by
    intro s hs
    obtain ⟨l, -, rfl⟩ := List.mem_map.mp hs
    exact isIndented_indented l
  have hskip : ((heading :: top) ++ (listing.map ("  " ++ ·) ++ after)).dropWhile
      (fun s => !isIndented s) = listing.map ("  " ++ ·) ++ after := by
    rw [List.dropWhile_append_of_pos (by simpa using htop)]
    cases listing with
    | nil => rw [hlisting rfl]; rfl
    | cons l listing => exact List.dropWhile_cons_of_neg (by simp [isIndented_indented])
  have htake : (listing.map ("  " ++ ·) ++ after).takeWhile isIndented =
      listing.map ("  " ++ ·) := by
    rw [List.takeWhile_append_of_pos hindented]
    cases after with
    | nil => simp
    | cons s after =>
        have hs : ¬ isIndented s = true := by simp [hafter s rfl]
        rw [List.takeWhile_cons_of_neg hs, List.append_nil]
  rw [linesBelow, dropWhile_heading hbefore, ← List.cons_append, hskip, htake, List.map_map]
  simp [Function.comp_def, unindented_indented]

/-! ### What stands before a heading -/

theorem openAs_header (a : Audit) :
    OpenAs [['A', 'n'], [' ', ' '], []] ((header a).map lineText) := by
  simp [OpenAs, header, lineText, plain, styled, line, blankLine, opening]

theorem openAs_onlyCount (a : Analysis) (l : Locale) :
    OpenAs [['K', 'e']] ((onlyCount a l).map lineText) := by
  unfold onlyCount
  split
  · simp [OpenAs]
  · simp [OpenAs, lineText, styled, Report.opening_onlyHeading]

theorem openAs_keyCounts (a : Analysis) :
    OpenAs ([['E', 'n'], ['T', 'u']] ++ [['K', 'e']] ++ [['K', 'e']] ++
      [['T', 'o'], ['F', 'o'], []]) ((keyCounts a).map lineText) := by
  have hlocales : OpenAs [['E', 'n'], ['T', 'u']]
      ([line ("English keys: " ++ toString a.en.size),
        line ("Turkish keys: " ++ toString a.tr.size)].map lineText) := by
    simp [OpenAs, lineText, plain, line, opening]
  have htotals : OpenAs [['T', 'o'], ['F', 'o'], []]
      ([line ("Total unique keys: " ++ toString a.all.size),
        line ("Found " ++ toString a.used.size ++ " used translation " ++
          (if a.used.size = 1 then "key" else "keys")),
        blankLine].map lineText) := by
    simp [OpenAs, lineText, plain, line, blankLine, opening]
  have hall := ((hlocales.append (openAs_onlyCount a .english)).append
    (openAs_onlyCount a .turkish)).append htotals
  rwa [← List.map_append, ← List.map_append, ← List.map_append] at hall

/-- The lines before the results. -/
def counts (a : Audit) : List String :=
  (header a).map lineText ++ (keyCounts a.analysis).map lineText

/-- The results. -/
def resultLines (a : Analysis) : List String :=
  "ANALYSIS RESULTS" :: Report.rule 50 :: (Report.summary a ++ [""])

theorem map_lineText_results (a : Analysis) : (results a).map lineText = resultLines a := by
  simp [results, resultLines, heading, lineText, styled, line, plain, blankLine,
    Function.comp_def]

theorem shown_eq (a : Audit) (limits : Limits) :
    shown a limits = counts a ++ (resultLines a.analysis ++
      ((unusedKeys a limits.unused).map lineText ++ (usedKeys a limits.used).map lineText)) := by
  simp only [shown, analysis, counts, List.map_append, map_lineText_results, List.append_assoc]

theorem openAs_counts (a : Audit) :
    OpenAs ([['A', 'n'], [' ', ' '], []] ++ ([['E', 'n'], ['T', 'u']] ++ [['K', 'e']] ++
      [['K', 'e']] ++ [['T', 'o'], ['F', 'o'], []])) (counts a) :=
  (openAs_header a).append (openAs_keyCounts a.analysis)

theorem openAs_resultLines (a : Analysis) :
    OpenAs ([['A', 'N'], ['=', '=']] ++ ([['T', 'o'], ['T', 'r'], ['U', 'n'], ['U', 's']] ++ [[]]))
      (resultLines a) := by
  have hheading : OpenAs [['A', 'N'], ['=', '=']] ["ANALYSIS RESULTS", Report.rule 50] := by
    simp [OpenAs, opening, Report.rule]
  have hblank : OpenAs [[]] [""] := by simp [OpenAs, opening]
  exact hheading.append ((Report.openAs_summary a).append hblank)

/-! ### Previews -/

/-- The lines of a preview and what it leaves out. -/
def previewed (a : Analysis) (keys : KeySet) (limit : Nat) (mark what : String) : List String :=
  preview a keys limit mark ++ remainder keys limit what

theorem map_lineText_listing (a : Analysis) (keys : KeySet) (limit : Nat) (mark what : String) :
    (listing a keys limit mark what).map lineText =
      (previewed a keys limit mark what).map ("  " ++ ·) := by
  simp only [listing, previewed, List.map_map, Function.comp_def, lineText_line]

theorem openAs_indented (ls : List String) : OpenAs [[' ', ' ']] (ls.map ("  " ++ ·)) := by
  simp [OpenAs, opening]

/-- A preview of some keys shows a key, or at least how many there are. -/
theorem previewed_ne_nil {a : Analysis} {keys : KeySet} {limit : Nat} {mark what : String}
    (h : keys.isEmpty = false) : previewed a keys limit mark what ≠ [] := by
  have hkeys : keys.keys ≠ [] := by
    intro hnil
    simp [KeySet.isEmpty, hnil] at h
  have hsize : 0 < keys.size := List.length_pos_iff.mpr hkeys
  have hpreview : (preview a keys limit mark).length = min limit keys.size := by
    simp [preview, KeySet.toList, KeySet.size]
  intro hnil
  rw [previewed, List.append_eq_nil_iff] at hnil
  obtain ⟨hshown, hleft⟩ := hnil
  rw [hshown, List.length_nil] at hpreview
  by_cases hlimit : limit < keys.size
  · simp [remainder, hlimit] at hleft
  · omega

theorem previewed_eq_nil {a : Analysis} {keys : KeySet} {limit : Nat} {mark what : String}
    (h : keys.isEmpty = true) : previewed a keys limit mark what = [] := by
  have hkeys := Report.toList_eq_nil_of_isEmpty h
  have hsize : keys.size = 0 := congrArg List.length hkeys
  simp [previewed, preview, remainder, hkeys, hsize]

/-- A preview shows the first of all lines, as many as the limit allows, and says how many
more there are, if there are any. -/
def Truncates (all previewed : List String) (limit : Nat) (what : String) : Prop :=
  ∃ left, left + min limit all.length = all.length ∧
    previewed = all.take (min limit all.length) ++
      if left = 0 then [] else ["... and " ++ toString left ++ " more" ++ what]

/-- **A preview shows the beginning and counts the rest.** -/
theorem truncates_previewed (a : Analysis) (keys : KeySet) (limit : Nat) (mark what : String) :
    Truncates (keys.toList.map (Report.keyLine a mark)) (previewed a keys limit mark what) limit
      what := by
  have hlength : (keys.toList.map (Report.keyLine a mark)).length = keys.size := List.length_map _
  have hpreview : preview a keys limit mark =
      (keys.toList.map (Report.keyLine a mark)).take (min limit keys.size) := by
    rw [preview, List.map_take, ← hlength, ← List.take_eq_take_min]
  refine ⟨keys.size - limit, ?_, ?_⟩
  · rw [hlength]
    omega
  · rw [hlength, previewed, hpreview, remainder]
    by_cases hlimit : limit < keys.size
    · have hleft : keys.size - limit ≠ 0 := by omega
      rw [if_pos hlimit, if_neg hleft]
    · have hleft : keys.size - limit = 0 := by omega
      rw [if_neg hlimit, if_pos hleft]

/-! ### The listings -/

/-- What stands behind the keys that are not used. -/
def closing (a : Audit) : List String :=
  ["", hintMark.text ++ (" You can safely remove these " ++ toString a.analysis.unused.size ++
      " unused keys from your translation files."),
    "Full report saved to: " ++ a.paths.report.text, ""]

/-- The lines between the heading of the unused keys and the keys. -/
def opener : List String :=
  [Report.rule 50, "These keys are defined in locale files but never used in the codebase:", ""]

theorem map_lineText_unusedKeys {a : Audit} (limit : Nat)
    (h : a.analysis.unused.isEmpty = false) :
    (unusedKeys a limit).map lineText = "UNUSED TRANSLATION KEYS" :: (opener ++
      ((previewed a.analysis a.analysis.unused limit Report.absentMark " unused keys").map
        ("  " ++ ·) ++ closing a)) := by
  simp only [unusedKeys, h, Bool.false_eq_true, if_false, List.map_append, map_lineText_listing]
  simp [heading, opener, closing, lineText, line, plain, styled, blankLine, hintMark,
    String.append_assoc]

theorem map_lineText_unusedKeys_of_isEmpty {a : Audit} (limit : Nat)
    (h : a.analysis.unused.isEmpty = true) :
    (unusedKeys a limit).map lineText =
      ["✓ All translation keys are being used! No cleanup needed.", ""] := by
  simp [unusedKeys, h, lineText, styled, plain, blankLine, successMark]

theorem map_lineText_usedKeys (a : Audit) (limit : Nat) :
    (usedKeys a limit).map lineText = "SAMPLE USED KEYS (for verification)" ::
      ([Report.rule 50] ++ ((previewed a.analysis a.analysis.used limit Report.missingMark "").map
        ("  " ++ ·) ++ [])) := by
  simp only [usedKeys, List.map_append, map_lineText_listing]
  simp [heading, lineText, line, plain, styled]

theorem openAs_unusedKeys (a : Audit) (limit : Nat) :
    OpenAs ([['U', 'N']] ++ ([['=', '='], ['T', 'h'], []] ++ ([[' ', ' ']] ++
      [[], ['h', 'i'], ['F', 'u']])) ++ [['✓', ' ']]) ((unusedKeys a limit).map lineText) := by
  have hclosing : OpenAs [[], ['h', 'i'], ['F', 'u']] (closing a) := by
    simp [OpenAs, closing, opening, hintMark, styled]
  have hopener : OpenAs [['=', '='], ['T', 'h'], []] opener := by
    simp [OpenAs, opener, opening, Report.rule]
  have hheading : OpenAs [['U', 'N']] ["UNUSED TRANSLATION KEYS"] := by
    simp [OpenAs, opening]
  intro s hs
  rw [List.mem_append]
  cases hempty : a.analysis.unused.isEmpty with
  | true =>
      rw [map_lineText_unusedKeys_of_isEmpty limit hempty] at hs
      revert s
      simp [opening]
  | false =>
      rw [map_lineText_unusedKeys limit hempty] at hs
      exact .inl (hheading.append (hopener.append ((openAs_indented _).append hclosing)) s hs)

theorem openAs_usedKeys (a : Audit) (limit : Nat) :
    OpenAs ([['S', 'A'], ['=', '=']] ++ [[' ', ' ']]) ((usedKeys a limit).map lineText) := by
  have hheading : OpenAs [['S', 'A'], ['=', '=']]
      ["SAMPLE USED KEYS (for verification)", Report.rule 50] := by
    simp [OpenAs, opening, Report.rule]
  rw [map_lineText_usedKeys, List.append_nil]
  exact hheading.append (openAs_indented _)

theorem not_mem_results (a : Audit) :
    "UNUSED TRANSLATION KEYS" ∉ counts a ++ resultLines a.analysis :=
  ((openAs_counts a).append (openAs_resultLines a.analysis)).not_mem (by decide)

/-- The listing of the keys that are not used stands on the console if there are any. -/
theorem mem_shown_iff {a : Audit} {limits : Limits} :
    "UNUSED TRANSLATION KEYS" ∈ shown a limits ↔ a.analysis.unused.isEmpty = false := by
  have hbefore := not_mem_results a
  have hused : "UNUSED TRANSLATION KEYS" ∉ (usedKeys a limits.used).map lineText :=
    (openAs_usedKeys a limits.used).not_mem (by decide)
  rw [List.mem_append, not_or] at hbefore
  rw [shown_eq, List.mem_append, List.mem_append, List.mem_append]
  simp only [hbefore, hused, false_or, or_false]
  cases hempty : a.analysis.unused.isEmpty with
  | true => simp [map_lineText_unusedKeys_of_isEmpty _ hempty]
  | false => simp [map_lineText_unusedKeys _ hempty]

/-- **The console previews the keys that are not used.** -/
theorem linesBelow_unused (a : Audit) (limits : Limits) :
    linesBelow "UNUSED TRANSLATION KEYS" (shown a limits) =
      previewed a.analysis a.analysis.unused limits.unused Report.absentMark " unused keys" := by
  cases hempty : a.analysis.unused.isEmpty with
  | true =>
      have hnone : "UNUSED TRANSLATION KEYS" ∉ shown a limits := by simp [mem_shown_iff, hempty]
      rw [linesBelow, dropWhile_no_heading hnone, previewed_eq_nil hempty]
      rfl
  | false =>
      have hshown : shown a limits = (counts a ++ resultLines a.analysis) ++
          "UNUSED TRANSLATION KEYS" :: (opener ++
            ((previewed a.analysis a.analysis.unused limits.unused Report.absentMark
              " unused keys").map ("  " ++ ·) ++
                (closing a ++ (usedKeys a limits.used).map lineText))) := by
        simp only [shown_eq, map_lineText_unusedKeys _ hempty, List.append_assoc,
          List.cons_append]
      have htop : ∀ s ∈ "UNUSED TRANSLATION KEYS" :: opener, isIndented s = false := by
        simp [opener, isIndented, opening, Report.rule]
      have hafter : ∀ s ∈ (closing a ++ (usedKeys a limits.used).map lineText).head?,
          isIndented s = false := by
        simp [closing, isIndented, opening]
      rw [hshown]
      exact linesBelow_append (not_mem_results a) htop
        (fun hnil => absurd hnil (previewed_ne_nil hempty)) hafter

/-- **The console previews the keys that are used.** -/
theorem linesBelow_used (a : Audit) (limits : Limits) :
    linesBelow "SAMPLE USED KEYS (for verification)" (shown a limits) =
      previewed a.analysis a.analysis.used limits.used Report.missingMark "" := by
  have hbefore : "SAMPLE USED KEYS (for verification)" ∉ counts a ++ (resultLines a.analysis ++
      (unusedKeys a limits.unused).map lineText) :=
    ((openAs_counts a).append ((openAs_resultLines a.analysis).append
      (openAs_unusedKeys a limits.unused))).not_mem (by decide)
  have htop : ∀ s ∈ ["SAMPLE USED KEYS (for verification)", Report.rule 50],
      isIndented s = false := by
    simp [isIndented, opening, Report.rule]
  have hshown : shown a limits = (counts a ++ (resultLines a.analysis ++
      (unusedKeys a limits.unused).map lineText)) ++ "SAMPLE USED KEYS (for verification)" ::
        ([Report.rule 50] ++ ((previewed a.analysis a.analysis.used limits.used
          Report.missingMark "").map ("  " ++ ·) ++ [])) := by
    simp only [shown_eq, map_lineText_usedKeys, List.append_assoc]
  rw [hshown]
  exact linesBelow_append hbefore htop (fun _ => rfl) (by simp)

theorem summaryOf_shown (a : Audit) (limits : Limits) :
    summaryOf (shown a limits) = Report.summary a.analysis := by
  have hcounts : "ANALYSIS RESULTS" ∉ counts a := (openAs_counts a).not_mem (by decide)
  rw [summaryOf, shown_eq, resultLines, List.cons_append, dropWhile_heading hcounts,
    List.cons_append, List.append_assoc]
  exact paragraph_append (Report.not_mem_summary a.analysis) _

/-- **The console shows the beginning of what the report lists.** Both outputs are lines of
text. The listing of the keys that are not used is on the console exactly if that section
is in the report; the section has a line for each such key, and the listing, without its
indent, is the first of these lines, as many as the limit allows, and then, if keys were
left out, how many. So it is with the keys that are used. The four lines of the summary are
the same. -/
theorem console_truncates_report (a : Audit) (limits : Limits) (generatedAt : String) :
    (render false (analysis a limits) = Report.joinLines (shown a limits) ∧
      Report.render a.analysis generatedAt =
        Report.joinLines (Report.lines a.analysis generatedAt)) ∧
    ("UNUSED TRANSLATION KEYS" ∈ shown a limits ↔
      "UNUSED TRANSLATION KEYS" ∈ Report.lines a.analysis generatedAt) ∧
    ((Report.linesBelow "UNUSED TRANSLATION KEYS"
        (Report.lines a.analysis generatedAt)).length = a.analysis.unused.size ∧
      Truncates
        (Report.linesBelow "UNUSED TRANSLATION KEYS" (Report.lines a.analysis generatedAt))
        (linesBelow "UNUSED TRANSLATION KEYS" (shown a limits)) limits.unused " unused keys") ∧
    ((Report.linesBelow "USED KEYS (for verification)"
        (Report.lines a.analysis generatedAt)).length = a.analysis.used.size ∧
      Truncates
        (Report.linesBelow "USED KEYS (for verification)" (Report.lines a.analysis generatedAt))
        (linesBelow "SAMPLE USED KEYS (for verification)" (shown a limits)) limits.used "") ∧
    (summaryOf (shown a limits)).length = 4 ∧
      summaryOf (shown a limits) = Report.summaryOf (Report.lines a.analysis generatedAt) := by
  refine ⟨⟨render_eq _, rfl⟩, ?_, ⟨?_, ?_⟩, ⟨?_, ?_⟩, ?_, ?_⟩
  · rw [mem_shown_iff, Report.mem_lines_iff]
  · rw [Report.linesBelow_unused, List.length_map]
    rfl
  · rw [Report.linesBelow_unused, linesBelow_unused]
    exact truncates_previewed _ _ _ _ _
  · rw [Report.linesBelow_used, List.length_map]
    rfl
  · rw [Report.linesBelow_used, linesBelow_used]
    exact truncates_previewed _ _ _ _ _
  · rw [summaryOf_shown]
    rfl
  · rw [summaryOf_shown, Report.summaryOf_lines]

end Console

end KeyAudit
