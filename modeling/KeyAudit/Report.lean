/-
The report file: every key that is defined or used, with the locales that define
it, in sections that are left out where they would be empty.

The report is a list of lines (`Report.lines`); `Report.render` ends each with a
line feed. The four lines of `Report.summary` also stand in the console output.
-/

import KeyAudit.Analysis

namespace KeyAudit.Report

/-- Stands in the place of a locale that does not define an unused key. -/
def absentMark : String := "  "

/-- Stands in the place of a locale that does not define a used key. -/
def missingMark : String := "✘ "

/-- A rule under a heading. -/
def rule (width : Nat) : String := String.ofList (List.replicate width '=')

/-- A key behind the locales that define it. -/
def keyLine (a : Analysis) (mark key : String) : String :=
  (a.presence key).label mark ++ " " ++ key

/-- The counts and the usage rate. -/
def summary (a : Analysis) : List String :=
  ["Total translation keys defined: " ++ toString a.all.size,
    "Translation keys used in code:  " ++ toString a.used.size,
    "Unused translation keys:        " ++ toString a.unused.size,
    "Usage rate:                     " ++ usageRateText a.usageRate]

/-- The heading over the keys that only one locale defines. -/
def onlyHeading (a : Analysis) (l : Locale) : String :=
  "Keys only in " ++ l.label ++ ": " ++ toString (a.only l).size

/-- The keys that only one locale defines. -/
def onlySection (a : Analysis) (l : Locale) : List String :=
  if (a.only l).isEmpty then []
  else onlyHeading a l :: (a.only l).toList.map (fun k => "  " ++ keyLine a absentMark k) ++ [""]

/-- The keys that are defined and not used. -/
def unusedSection (a : Analysis) : List String :=
  if a.unused.isEmpty then []
  else "UNUSED TRANSLATION KEYS" :: rule 30 :: a.unused.toList.map (keyLine a absentMark) ++ [""]

/-- The keys that are used, defined or not. -/
def usedSection (a : Analysis) : List String :=
  "USED KEYS (for verification)" :: rule 30 :: a.used.toList.map (keyLine a missingMark)

/-- The lines of the report. -/
def lines (a : Analysis) (generatedAt : String) : List String :=
  ["TRANSLATION USAGE ANALYSIS REPORT", rule 50, "Generated on: " ++ generatedAt, ""] ++
    summary a ++ [""] ++ onlySection a .english ++ onlySection a .turkish ++
    unusedSection a ++ usedSection a

/-- Lines, each ended by a line feed. -/
def joinLines (ls : List String) : String := String.join (ls.map (· ++ "\n"))

/-- The text of the report. -/
def render (a : Analysis) (generatedAt : String) : String := joinLines (lines a generatedAt)

end KeyAudit.Report
