/-
Console output: lines of spans, some of them styled. With colours a styled span
stands between its escape sequences, without them it stands as it is.

The listings of keys show as many keys as a limit allows and then say how many
more there are.
-/

import KeyAudit.Audit.Basic
import KeyAudit.Report

namespace KeyAudit.Console

/-! ### Styled text -/

/-- How a span stands out. -/
inductive Style where
  | bold
  | green
  | yellow
  | cyan
  | boldRed
  | boldYellow
  | boldCyan
  deriving DecidableEq, Repr

/-- The codes that switch a style on. -/
def Style.codes : Style → String
  | .bold => "1"
  | .green => "32"
  | .yellow => "33"
  | .cyan => "36"
  | .boldRed => "1;31"
  | .boldYellow => "1;33"
  | .boldCyan => "1;36"

/-- A text with or without a style. -/
structure Span where
  style : Option Style
  text : String
  deriving DecidableEq, Repr

/-- A text without a style. -/
def plain (text : String) : Span := ⟨none, text⟩

def styled (style : Style) (text : String) : Span := ⟨some style, text⟩

/-- Spans side by side. -/
abbrev Line := List Span

/-- A line without styles. -/
def line (text : String) : Line := [plain text]

def blankLine : Line := []

/-- The text of a span, in its escape sequences where colours are wanted. -/
def Span.render (color : Bool) (s : Span) : String :=
  match color, s.style with
  | true, some style => "\x1b[" ++ style.codes ++ "m" ++ s.text ++ "\x1b[0m"
  | _, _ => s.text

/-- Lines of spans as text, each line ended by a line feed. -/
def render (color : Bool) (ls : List Line) : String :=
  Report.joinLines (ls.map fun l => String.join (l.map (Span.render color)))

/-! ### Marks -/

/-- Stands before news of success. -/
def successMark : Span := styled .green "✓"

def noteMark : Span := styled .boldCyan "note:"

def hintMark : Span := styled .boldCyan "hint:"

def warningMark : Span := styled .boldYellow "warning:"

def errorMark : Span := styled .boldRed "error:"

/-! ### The analysis -/

/-- How many keys of either kind are shown. -/
structure Limits where
  unused : Nat
  used : Nat
  deriving DecidableEq, Repr

/-- A bold heading over a rule. -/
def heading (title : String) : List Line := [[styled .bold title], line (Report.rule 50)]

/-- A count and a noun in the right number. -/
def counted (n : Nat) (one many : String) : String :=
  toString n ++ " " ++ (if n = 1 then one else many)

/-- The scanner, with the number of files if it is known. -/
def scannerText (a : Audit) : String :=
  match a.filesScanned with
  | some n => a.scanner.name ++ " (" ++ counted n "file" "files" ++ ")"
  | none => a.scanner.name

/-- Where the audit looked. -/
def header (a : Audit) : List Line :=
  [[styled .bold "Analyzing translation usage..."],
    line ("  Source directory:     " ++ a.paths.sourceRoot.text),
    line ("  English translations: " ++ a.paths.enMessages.text),
    line ("  Turkish translations: " ++ a.paths.trMessages.text),
    line ("  Scanner:              " ++ scannerText a),
    blankLine]

/-- How many keys only one locale defines, if there are any. -/
def onlyCount (a : Analysis) (l : Locale) : List Line :=
  if (a.only l).isEmpty then [] else [[styled .yellow (Report.onlyHeading a l)]]

/-- How many keys there are. -/
def keyCounts (a : Analysis) : List Line :=
  [line ("English keys: " ++ toString a.en.size), line ("Turkish keys: " ++ toString a.tr.size)] ++
    onlyCount a .english ++ onlyCount a .turkish ++
    [line ("Total unique keys: " ++ toString a.all.size),
      line ("Found " ++ toString a.used.size ++ " used translation " ++
        (if a.used.size = 1 then "key" else "keys")),
      blankLine]

/-- The summary, as in the report. -/
def results (a : Analysis) : List Line :=
  heading "ANALYSIS RESULTS" ++ (Report.summary a).map line ++ [blankLine]

/-- The first keys of a set, as many as `limit`. -/
def preview (a : Analysis) (keys : KeySet) (limit : Nat) (mark : String) : List String :=
  (keys.toList.take limit).map (Report.keyLine a mark)

/-- How many keys a preview leaves out, if any. -/
def remainder (keys : KeySet) (limit : Nat) (what : String) : List String :=
  if limit < keys.size then ["... and " ++ toString (keys.size - limit) ++ " more" ++ what] else []

/-- A preview and what it leaves out, indented. -/
def listing (a : Analysis) (keys : KeySet) (limit : Nat) (mark what : String) : List Line :=
  (preview a keys limit mark ++ remainder keys limit what).map fun l => line ("  " ++ l)

/-- The keys that are defined and not used. -/
def unusedKeys (a : Audit) (limit : Nat) : List Line :=
  let unused := a.analysis.unused
  if unused.isEmpty then
    [[successMark, plain " ",
        styled .green "All translation keys are being used! No cleanup needed."],
      blankLine]
  else
    heading "UNUSED TRANSLATION KEYS" ++
      [line "These keys are defined in locale files but never used in the codebase:", blankLine] ++
      listing a.analysis unused limit Report.absentMark " unused keys" ++
      [blankLine,
        [hintMark, plain (" You can safely remove these " ++ toString unused.size ++
          " unused keys from your translation files.")],
        line ("Full report saved to: " ++ a.paths.report.text),
        blankLine]

/-- Some of the keys that are used. -/
def usedKeys (a : Audit) (limit : Nat) : List Line :=
  heading "SAMPLE USED KEYS (for verification)" ++
    listing a.analysis a.analysis.used limit Report.missingMark ""

/-- What the console shows of an audit. -/
def analysis (a : Audit) (limits : Limits) : List Line :=
  header a ++ keyCounts a.analysis ++ results a.analysis ++ unusedKeys a limits.unused ++
    usedKeys a limits.used

/-! ### Warnings -/

/-- Why the walk stepped in, if it did. -/
def fallbackNote (a : Audit) : List Line :=
  match a.fallback with
  | some reason =>
    [[noteMark, plain (" ripgrep search failed, falling back to in-process scan: " ++ reason)]]
  | none => []

/-- A locale that could not be loaded. -/
def localeWarning (w : LocaleWarning) : Line :=
  [warningMark, plain (" Failed to load " ++ w.locale.label ++ " translations: " ++ w.reason)]

/-- A source that could not be scanned. -/
def sourceWarning (w : SourceWarning) : Line :=
  [warningMark, plain (" " ++ w.file ++ ": " ++ w.reason)]

/-- The sources that could not be scanned: each of them if details are wanted, and
otherwise their number. -/
def sourceWarnings (ws : List SourceWarning) (verbose : Bool) : List Line :=
  if verbose then ws.map sourceWarning
  else if ws.isEmpty then []
  else
    [[warningMark, plain (" " ++ toString ws.length ++
        " source path(s) could not be scanned (use "), styled .cyan "-v", plain " for details)"]]

/-- Everything that went wrong in an audit that was still carried out. -/
def warnings (a : Audit) (verbose : Bool) : List Line :=
  fallbackNote a ++ a.localeWarnings.map localeWarning ++ sourceWarnings a.sourceWarnings verbose

/-- Shown when neither locale was loaded. -/
def noLocaleData : List Line :=
  [[errorMark, plain " no locale data could be loaded; check the messages paths"]]

end KeyAudit.Console
