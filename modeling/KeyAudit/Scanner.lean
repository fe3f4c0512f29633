/-
The two ways to scan a source tree, and the wish for one of them: walking the tree
in this process, or handing the search to a `ripgrep` program.
-/

namespace KeyAudit

/-- A way to scan a source tree. -/
inductive Scanner where
  | walk
  | ripgrep
  deriving DecidableEq, Repr

namespace Scanner

/-- How output names the scanner. -/
def name : Scanner → String
  | .walk => "walk"
  | .ripgrep => "ripgrep"

/-- Which scanner is wanted. -/
inductive Preference where
  /-- The program if it can be run, otherwise the walk. -/
  | auto
  | ripgrep
  | walk
  deriving DecidableEq, Repr

namespace Preference

/-- How settings spell a preference. -/
def word : Preference → String
  | .auto => "auto"
  | .ripgrep => "ripgrep"
  | .walk => "walk"

/-- The preferences in the order in which messages list them. -/
def all : List Preference := [.auto, .ripgrep, .walk]

/-- The preference that a word spells. -/
def ofWord? (word : String) : Option Preference := all.find? fun p => p.word == word

theorem ofWord?_word (p : Preference) : ofWord? p.word = some p := by
  cases p <;> decide

end Preference

end Scanner

end KeyAudit
