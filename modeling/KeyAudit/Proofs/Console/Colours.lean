/-
Colours add escape sequences to the output and change nothing else.

`withoutSequences` leaves out every sequence that switches styles. A styled span is its text
between two of them, so that behind a text without escape characters the rest of an output
can be read by itself (`withoutSequences_span`), and what is left of all lines is what is
written without colours (`withoutSequences_render`). The console's own words hold no escape
character; what an audit brings along has to be asked (`Unescaped`).

* `colours_add_sequences` — **the three outputs, with colours and without.**
-/

import KeyAudit.Console
import KeyAudit.Proofs.Report.Characters

namespace KeyAudit.Console

/-! ### Escape sequences -/

/-- The character with which a sequence begins. -/
def escape : Char := '\x1b'

/-- Is it a digit or a semicolon, of which the codes of a sequence are made? -/
def isCodeChar (c : Char) : Bool := c.isDigit || c == ';'

/-- A sequence that switches styles on or off. -/
def IsSequence (s : List Char) : Prop :=
  ∃ codes, (∀ c ∈ codes, isCodeChar c = true) ∧ s = escape :: '[' :: (codes ++ ['m'])

/-- The text behind the sequence that it begins with, if it begins with one. -/
def behindSequence? : List Char → Option (List Char)
  | c :: '[' :: s =>
    if c = escape then
      match s.dropWhile isCodeChar with
      | 'm' :: rest => some rest
      | _ => none
    else none
  | _ => none

theorem behindSequence?_append {q : List Char} (hq : IsSequence q) (t : List Char) :
    behindSequence? (q ++ t) = some t := by
  obtain ⟨codes, hcodes, rfl⟩ := hq
  have hdrop : (codes ++ 'm' :: t).dropWhile isCodeChar = 'm' :: t := by
    rw [List.dropWhile_append_of_pos hcodes]
    exact List.dropWhile_cons_of_neg (by decide)
  simp only [List.cons_append, List.append_assoc, List.nil_append, behindSequence?, if_true, hdrop]

theorem behindSequence?_eq_some_iff {s rest : List Char} :
    behindSequence? s = some rest ↔ ∃ q, IsSequence q ∧ s = q ++ rest := by
  constructor
  · intro h
    unfold behindSequence? at h
    split at h
    · rename_i c s
      split at h
      · rename_i hc
        split at h
        · rename_i rest' hdrop
          cases h
          have hcut := List.takeWhile_append_dropWhile (p := isCodeChar) (l := s)
          rw [hdrop] at hcut
          refine ⟨_, ⟨s.takeWhile isCodeChar, ?_, rfl⟩, ?_⟩
          · intro d hd
            exact List.all_eq_true.mp List.all_takeWhile d hd
          · rw [hc, List.cons_append, List.cons_append, List.append_assoc, List.singleton_append,
              hcut]
        · cases h
      · cases h
    · cases h
  · rintro ⟨q, hq, rfl⟩
    exact behindSequence?_append hq rest

theorem length_behindSequence? {s rest : List Char} (h : behindSequence? s = some rest) :
    rest.length < s.length := by
  obtain ⟨q, ⟨codes, -, rfl⟩, rfl⟩ := behindSequence?_eq_some_iff.mp h
  simp only [List.cons_append, List.length_cons, List.length_append]
  omega

/-- A text without its sequences. -/
def withoutSequences (s : List Char) : List Char :=
  match s with
  | [] => []
  | c :: s =>
    match _ : behindSequence? (c :: s) with
    | some rest => withoutSequences rest
    | none => c :: withoutSequences s
termination_by s.length
decreasing_by
  · exact length_behindSequence? (by assumption)
  · exact Nat.lt_succ_self _

theorem behindSequence?_of_ne {c : Char} (hc : c ≠ escape) (s : List Char) :
    behindSequence? (c :: s) = none := by
  unfold behindSequence?
  split
  · rename_i h
    cases h
    rw [if_neg hc]
  · rfl

/-- A sequence is left out. -/
theorem withoutSequences_sequence {q : List Char} (hq : IsSequence q) (t : List Char) :
    withoutSequences (q ++ t) = withoutSequences t := by
  have hbehind := behindSequence?_append hq t
  obtain ⟨codes, hcodes, rfl⟩ := hq
  rw [List.cons_append] at hbehind ⊢
  rw [withoutSequences]
  split
  · rename_i rest hrest
    rw [hbehind] at hrest
    cases hrest
    rfl
  · rename_i hnone
    rw [hbehind] at hnone
    cases hnone

/-- Text without escape characters is kept. -/
theorem withoutSequences_append {s : List Char} (hs : escape ∉ s) (t : List Char) :
    withoutSequences (s ++ t) = s ++ withoutSequences t := by
  induction s with
  | nil => rfl
  | cons c s ih =>
      have hc : c ≠ escape := fun h => hs (h ▸ List.mem_cons_self)
      have hbehind := behindSequence?_of_ne hc (s ++ t)
      rw [List.cons_append, withoutSequences]
      split
      · rename_i rest hrest
        rw [hbehind] at hrest
        cases hrest
      · rw [ih fun h => hs (List.mem_cons_of_mem c h)]
        rfl

/-! ### Spans and lines -/

/-- A text without escape characters. -/
def Clean (s : String) : Prop := escape ∉ s.toList

instance (s : String) : Decidable (Clean s) := inferInstanceAs (Decidable (escape ∉ s.toList))

/-- No text in these lines holds an escape character. -/
def CleanLines (ls : List Line) : Prop := ∀ l ∈ ls, ∀ s ∈ l, Clean s.text

theorem isSequence_codes (style : Style) :
    IsSequence (("\x1b[" ++ style.codes ++ "m").toList) := by
  refine ⟨style.codes.toList, ?_, ?_⟩
  · cases style <;> exact List.all_eq_true.mp (by decide)
  · simp only [String.toList_append, List.append_assoc]
    rfl

theorem isSequence_reset : IsSequence "\x1b[0m".toList :=
  ⟨['0'], List.all_eq_true.mp (by decide), rfl⟩

/-- **A span is its text**, once its sequences are left out. -/
theorem withoutSequences_span {s : Span} (hs : Clean s.text) (t : List Char) :
    withoutSequences ((s.render true).toList ++ t) = s.text.toList ++ withoutSequences t := by
  rcases s with ⟨style, text⟩
  cases style with
  | none => exact withoutSequences_append hs t
  | some style =>
      have hrender : ((Span.mk (some style) text).render true).toList =
          ("\x1b[" ++ style.codes ++ "m").toList ++ (text.toList ++ "\x1b[0m".toList) := by
        simp only [Span.render, String.toList_append, List.append_assoc]
      rw [hrender, List.append_assoc, withoutSequences_sequence (isSequence_codes style),
        List.append_assoc, withoutSequences_append hs, withoutSequences_sequence isSequence_reset]

/-- The text of a line. -/
def lineChars (color : Bool) (l : Line) : List Char := l.flatMap fun s => (s.render color).toList

theorem withoutSequences_lineChars {l : Line} (hl : ∀ s ∈ l, Clean s.text) (t : List Char) :
    withoutSequences (lineChars true l ++ t) = lineChars false l ++ withoutSequences t := by
  induction l with
  | nil => rfl
  | cons s l ih =>
      have hrest := ih fun s' hs' => hl s' (List.mem_cons_of_mem s hs')
      have hplain : s.render false = s.text := rfl
      rw [lineChars, List.flatMap_cons, ← lineChars, List.append_assoc,
        withoutSequences_span (hl s List.mem_cons_self), hrest, lineChars, lineChars,
        List.flatMap_cons, hplain, List.append_assoc]

theorem toList_render (color : Bool) (ls : List Line) :
    (render color ls).toList = ls.flatMap fun l => lineChars color l ++ ['\n'] := by
  rw [render, Report.joinLines, String.toList_join, List.flatMap_map, List.flatMap_map]
  simp only [String.toList_append, String.toList_join, List.flatMap_map]
  rfl

/-- **Without its sequences an output is the one without colours.** -/
theorem withoutSequences_render {ls : List Line} (h : CleanLines ls) :
    withoutSequences (render true ls).toList = (render false ls).toList := by
  rw [toList_render, toList_render]
  induction ls with
  | nil => rw [List.flatMap_nil, withoutSequences, List.flatMap_nil]
  | cons l ls ih =>
      have hfeed : escape ∉ ['\n'] := by decide
      have hrest := ih fun l' hl' => h l' (List.mem_cons_of_mem l hl')
      rw [List.flatMap_cons, List.append_assoc, withoutSequences_lineChars (h l List.mem_cons_self),
        withoutSequences_append hfeed, hrest, List.flatMap_cons, List.append_assoc]

/-! ### Texts of the console -/

section Texts

variable {s t : String} {l : Line} {ls ls' : List Line}

theorem clean_append : Clean (s ++ t) ↔ Clean s ∧ Clean t := by
  simp only [Clean, String.toList_append, List.mem_append, not_or]

theorem clean_toString (n : Nat) : Clean (toString n) :=
  Report.control_not_mem_toString (by decide) n

theorem cleanLines_nil : CleanLines [] := fun _ hl => absurd hl List.not_mem_nil

theorem cleanLines_cons : CleanLines (l :: ls) ↔ (∀ s ∈ l, Clean s.text) ∧ CleanLines ls :=
  List.forall_mem_cons

theorem cleanLines_append : CleanLines (ls ++ ls') ↔ CleanLines ls ∧ CleanLines ls' :=
  List.forall_mem_append

theorem clean_line (h : Clean t) : ∀ s ∈ line t, Clean s.text := by
  intro s hs
  obtain rfl := List.mem_singleton.mp hs
  exact h

theorem clean_blankLine : ∀ s ∈ blankLine, Clean s.text := fun _ hs => absurd hs List.not_mem_nil

theorem clean_marked {mark : Span} (hmark : Clean mark.text) (h : Clean t) :
    ∀ s ∈ [mark, plain t], Clean s.text := by
  intro s hs
  simp only [List.mem_cons, List.not_mem_nil, or_false] at hs
  rcases hs with rfl | rfl
  · exact hmark
  · exact h

theorem cleanLines_map_line {texts : List String} (h : ∀ t ∈ texts, Clean t) :
    CleanLines (texts.map line) := by
  intro l hl
  obtain ⟨t, ht, rfl⟩ := List.mem_map.mp hl
  exact clean_line (h t ht)

end Texts

/-! ### What an audit brings along -/

/-- No key, path, warning or reason to fall back holds an escape character. -/
structure Unescaped (a : Audit) : Prop where
  keys : ∀ key, key ∈ a.analysis.en ∨ key ∈ a.analysis.tr ∨ key ∈ a.analysis.used → Clean key
  sourceRoot : Clean a.paths.sourceRoot.text
  enMessages : Clean a.paths.enMessages.text
  trMessages : Clean a.paths.trMessages.text
  report : Clean a.paths.report.text
  localeWarnings : ∀ w ∈ a.localeWarnings, Clean w.reason
  sourceWarnings : ∀ w ∈ a.sourceWarnings, Clean w.file ∧ Clean w.reason
  fallback : ∀ reason, a.fallback = some reason → Clean reason

section Outputs

variable {a : Audit}

theorem cleanLines_heading {title : String} (h : Clean title) : CleanLines (heading title) := by
  refine cleanLines_cons.mpr ⟨?_, cleanLines_cons.mpr ⟨clean_line (by decide), cleanLines_nil⟩⟩
  intro s hs
  obtain rfl := List.mem_singleton.mp hs
  exact h

theorem clean_scannerText (a : Audit) : Clean (scannerText a) := by
  have hname : Clean a.scanner.name := by
    cases a.scanner <;> decide
  have hcounted (n : Nat) : Clean (counted n "file" "files") := by
    have hnoun : Clean (if n = 1 then "file" else "files") := by
      split <;> decide
    exact clean_append.mpr ⟨clean_append.mpr ⟨clean_toString n, by decide⟩, hnoun⟩
  unfold scannerText
  split
  · simp only [clean_append]
    exact ⟨⟨⟨hname, by decide⟩, hcounted _⟩, by decide⟩
  · exact hname

theorem cleanLines_header (h : Unescaped a) : CleanLines (header a) := by
  have hpath {title : String} {p : Path} (ht : Clean title) (hp : Clean p.text) :
      Clean (title ++ p.text) := clean_append.mpr ⟨ht, hp⟩
  simp only [header, cleanLines_cons]
  refine ⟨?_, clean_line (hpath (by decide) h.sourceRoot),
    clean_line (hpath (by decide) h.enMessages), clean_line (hpath (by decide) h.trMessages),
    clean_line (clean_append.mpr ⟨by decide, clean_scannerText a⟩), clean_blankLine,
    cleanLines_nil⟩
  decide

theorem cleanLines_onlyCount (a : Analysis) (l : Locale) : CleanLines (onlyCount a l) := by
  unfold onlyCount
  split
  · exact cleanLines_nil
  · refine cleanLines_cons.mpr ⟨?_, cleanLines_nil⟩
    intro s hs
    obtain rfl := List.mem_singleton.mp hs
    exact Report.control_not_mem_onlyHeading (by decide) a l

theorem cleanLines_keyCounts (a : Analysis) : CleanLines (keyCounts a) := by
  have hcount {title : String} (ht : Clean title) (n : Nat) : Clean (title ++ toString n) :=
    clean_append.mpr ⟨ht, clean_toString n⟩
  have hnoun : Clean (if a.used.size = 1 then "key" else "keys") := by
    split <;> decide
  have hused : Clean ("Found " ++ toString a.used.size ++ " used translation " ++
      (if a.used.size = 1 then "key" else "keys")) :=
    clean_append.mpr ⟨clean_append.mpr ⟨hcount (by decide) _, by decide⟩, hnoun⟩
  simp only [keyCounts, cleanLines_append, cleanLines_cons]
  refine ⟨⟨⟨⟨?_, ?_, cleanLines_nil⟩, cleanLines_onlyCount a .english⟩,
    cleanLines_onlyCount a .turkish⟩, ?_, ?_, clean_blankLine, cleanLines_nil⟩
  · exact clean_line (hcount (by decide) _)
  · exact clean_line (hcount (by decide) _)
  · exact clean_line (hcount (by decide) _)
  · exact clean_line hused

theorem cleanLines_results (a : Analysis) : CleanLines (results a) := by
  simp only [results, cleanLines_append, cleanLines_cons]
  refine ⟨⟨cleanLines_heading (by decide), ?_⟩, clean_blankLine, cleanLines_nil⟩
  exact cleanLines_map_line (Report.control_not_mem_summary (by decide) a)

/-- A listing shows keys, marks and a number. -/
theorem cleanLines_listing {a : Analysis} {keys : KeySet} {mark what : String} (limit : Nat)
    (hmark : mark = Report.absentMark ∨ mark = Report.missingMark) (hwhat : Clean what)
    (hkeys : ∀ key ∈ keys, Clean key) : CleanLines (listing a keys limit mark what) := by
  have hpreview : ∀ t ∈ preview a keys limit mark, Clean t := by
    intro t ht
    obtain ⟨key, hkey, rfl⟩ := List.mem_map.mp ht
    exact Report.control_not_mem_keyLine (by decide) hmark (hkeys key (List.mem_of_mem_take hkey))
  have hremainder : ∀ t ∈ remainder keys limit what, Clean t := by
    intro t ht
    unfold remainder at ht
    split at ht
    · obtain rfl := List.mem_singleton.mp ht
      simp only [clean_append]
      exact ⟨⟨⟨by decide, clean_toString _⟩, by decide⟩, hwhat⟩
    · cases ht
  intro l hl
  obtain ⟨t, ht, rfl⟩ := List.mem_map.mp hl
  refine clean_line (clean_append.mpr ⟨by decide, ?_⟩)
  rcases List.mem_append.mp ht with ht | ht
  · exact hpreview t ht
  · exact hremainder t ht

theorem cleanLines_unusedKeys (h : Unescaped a) (limit : Nat) :
    CleanLines (unusedKeys a limit) := by
  have hkeys : ∀ key ∈ a.analysis.unused, Clean key := by
    intro key hkey
    rcases (Analysis.mem_unused.mp hkey).1 with hen | htr
    · exact h.keys key (.inl hen)
    · exact h.keys key (.inr (.inl htr))
  have hhint : Clean (" You can safely remove these " ++ toString a.analysis.unused.size ++
      " unused keys from your translation files.") :=
    clean_append.mpr ⟨clean_append.mpr ⟨by decide, clean_toString _⟩, by decide⟩
  dsimp only [unusedKeys]
  split
  · simp only [cleanLines_cons]
    exact ⟨by decide, clean_blankLine, cleanLines_nil⟩
  · simp only [cleanLines_append, cleanLines_cons]
    refine ⟨⟨⟨cleanLines_heading (by decide), clean_line (by decide), clean_blankLine,
      cleanLines_nil⟩, cleanLines_listing limit (.inl rfl) (by decide) hkeys⟩, clean_blankLine,
      ?_, ?_, clean_blankLine, cleanLines_nil⟩
    · exact clean_marked (by decide) hhint
    · exact clean_line (clean_append.mpr ⟨by decide, h.report⟩)

theorem cleanLines_usedKeys (h : Unescaped a) (limit : Nat) : CleanLines (usedKeys a limit) := by
  refine cleanLines_append.mpr ⟨cleanLines_heading (by decide), ?_⟩
  exact cleanLines_listing limit (.inr rfl) (by decide) fun key hkey =>
    h.keys key (.inr (.inr hkey))

theorem cleanLines_analysis (h : Unescaped a) (limits : Limits) :
    CleanLines (analysis a limits) := by
  simp only [analysis, cleanLines_append]
  exact ⟨⟨⟨⟨cleanLines_header h, cleanLines_keyCounts a.analysis⟩, cleanLines_results a.analysis⟩,
    cleanLines_unusedKeys h limits.unused⟩, cleanLines_usedKeys h limits.used⟩

theorem cleanLines_fallbackNote (h : Unescaped a) : CleanLines (fallbackNote a) := by
  unfold fallbackNote
  split
  · rename_i reason hreason
    refine cleanLines_cons.mpr ⟨clean_marked (by decide) ?_, cleanLines_nil⟩
    exact clean_append.mpr ⟨by decide, h.fallback reason hreason⟩
  · exact cleanLines_nil

theorem cleanLines_sourceWarnings (h : Unescaped a) (verbose : Bool) :
    CleanLines (sourceWarnings a.sourceWarnings verbose) := by
  unfold sourceWarnings
  split
  · intro l hl
    obtain ⟨w, hw, rfl⟩ := List.mem_map.mp hl
    obtain ⟨hfile, hreason⟩ := h.sourceWarnings w hw
    refine clean_marked (by decide) ?_
    simp only [clean_append]
    exact ⟨⟨⟨by decide, hfile⟩, by decide⟩, hreason⟩
  · split
    · exact cleanLines_nil
    · have hcount : Clean (" " ++ toString a.sourceWarnings.length ++
          " source path(s) could not be scanned (use ") :=
        clean_append.mpr ⟨clean_append.mpr ⟨by decide, clean_toString _⟩, by decide⟩
      refine cleanLines_cons.mpr ⟨?_, cleanLines_nil⟩
      intro s hs
      simp only [List.mem_cons, List.not_mem_nil, or_false] at hs
      rcases hs with rfl | rfl | rfl | rfl
      · decide
      · exact hcount
      · decide
      · decide

theorem cleanLines_warnings (h : Unescaped a) (verbose : Bool) :
    CleanLines (warnings a verbose) := by
  have hlocales : CleanLines (a.localeWarnings.map localeWarning) := by
    intro l hl
    obtain ⟨w, hw, rfl⟩ := List.mem_map.mp hl
    have hlabel : Clean w.locale.label := by
      cases w.locale <;> decide
    refine clean_marked (by decide) ?_
    simp only [clean_append]
    exact ⟨⟨⟨by decide, hlabel⟩, by decide⟩, h.localeWarnings w hw⟩
  exact cleanLines_append.mpr ⟨cleanLines_append.mpr ⟨cleanLines_fallbackNote h, hlocales⟩,
    cleanLines_sourceWarnings h verbose⟩

theorem cleanLines_noLocaleData : CleanLines noLocaleData :=
  cleanLines_cons.mpr ⟨by decide, cleanLines_nil⟩

end Outputs

/-! ### The three outputs -/

/-- **Colours add sequences and nothing else.** If nothing that an audit brings along holds an
escape character, then what is left of the analysis, of the warnings and of the complaint
that there is nothing to compare, when the sequences are left out, is what is written
without colours, character by character. -/
theorem colours_add_sequences {a : Audit} (unescaped : Unescaped a) (limits : Limits)
    (verbose : Bool) :
    withoutSequences (render true (analysis a limits)).toList =
      (render false (analysis a limits)).toList ∧
    withoutSequences (render true (warnings a verbose)).toList =
      (render false (warnings a verbose)).toList ∧
    withoutSequences (render true noLocaleData).toList = (render false noLocaleData).toList := by
  refine ⟨?_, ?_, ?_⟩
  · exact withoutSequences_render (cleanLines_analysis unescaped limits)
  · exact withoutSequences_render (cleanLines_warnings unescaped verbose)
  · exact withoutSequences_render cleanLines_noLocaleData

/-- Keys, a path and a reason that look like parts of sequences. -/
def sampleColoured : Audit where
  paths := ⟨⟨"en.json"⟩, ⟨"tr.json"⟩, ⟨"src"⟩, ⟨"[0m"⟩⟩
  analysis := ⟨.ofList ["[1;32m"], .empty, .ofList ["m"]⟩
  localesLoaded := 1
  localeWarnings := [⟨.turkish, "tr.json", "0;1m"⟩]
  sourceWarnings := [⟨"src/[1m.ts", "[33m"⟩]
  scanner := .walk
  filesScanned := some 1
  fallback := none

theorem unescaped_sampleColoured : Unescaped sampleColoured where
  keys := by
    intro key hkey
    have hen : key ∈ KeySet.ofList ["[1;32m"] → Clean key := by
      rw [KeySet.mem_ofList, List.mem_singleton]
      rintro rfl
      decide
    have hused : key ∈ KeySet.ofList ["m"] → Clean key := by
      rw [KeySet.mem_ofList, List.mem_singleton]
      rintro rfl
      decide
    rcases hkey with hkey | hkey | hkey
    · exact hen hkey
    · exact absurd hkey KeySet.not_mem_empty
    · exact hused hkey
  sourceRoot := by decide
  enMessages := by decide
  trMessages := by decide
  report := by decide
  localeWarnings := by decide
  sourceWarnings := by decide
  fallback := by simp [sampleColoured]

/-- Only what stands behind an escape character is left out. -/
theorem colours_add_sequences_to_sampleColoured :
    Unescaped sampleColoured ∧
    (render true (warnings sampleColoured true) =
        "\x1b[1;33mwarning:\x1b[0m Failed to load Turkish translations: 0;1m\n" ++
          "\x1b[1;33mwarning:\x1b[0m src/[1m.ts: [33m\n" ∧
      withoutSequences (render true (warnings sampleColoured true)).toList =
        ("warning: Failed to load Turkish translations: 0;1m\n" ++
          "warning: src/[1m.ts: [33m\n").toList) := by
  obtain ⟨-, hwarnings, -⟩ := colours_add_sequences unescaped_sampleColoured ⟨20, 10⟩ true
  refine ⟨unescaped_sampleColoured, by decide, ?_⟩
  rw [hwarnings]
  decide

end KeyAudit.Console
