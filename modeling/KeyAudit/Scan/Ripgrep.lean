/-
Scanning by a `ripgrep` program: one search of the whole tree for each way to close
a reference, of which only the key of each match is read back.

The program ends with 0 if something matched and with 1 if nothing did. It ends with
2 on any error, even if only one file could not be read; then its error lines tell
whether the search as a whole failed (`Ripgrep.classify`).
-/

import KeyAudit.Audit.Basic
import KeyAudit.Problem
import KeyAudit.Reference
import KeyAudit.SourceFile

namespace KeyAudit.Ripgrep

/-! ### What the program is told -/

/-- The reference that the program searches for, with the key as its one group. -/
def pattern : Reference.Closing → String
  | .mark => "\\bt\\(['\"]([a-zA-Z][a-zA-Z0-9._-]*)['\"][),]"
  | .lineEnd => "\\bt\\(['\"]([a-zA-Z][a-zA-Z0-9._-]*)['\"]\\r?$"

/-- The file type of sources. -/
def sourceType : String :=
  "src:*.\x7b" ++ String.intercalate "," sourceExtensions ++ "\x7d"

/-- The file type of declarations. -/
def declarationType : String := "dts:*" ++ declarationSuffix

/-- The arguments of one search: print the key of each match alone, search every
source file below the root, and heed no settings but these. -/
def arguments (closing : Reference.Closing) (root : Path) : List String :=
  ["--only-matching", "--replace", "$1", "--no-filename", "--no-heading", "--no-line-number",
    "--no-config", "--no-ignore", "--hidden", "--text", "--color", "never",
    "--type-add", sourceType, "--type-add", declarationType, "--type", "src",
    "--type-not", "dts", "--regexp", pattern closing, root.text]

/-! ### What the program says -/

/-- What one search gives. -/
structure Search where
  keys : KeySet
  warnings : List SourceWarning
  deriving DecidableEq

/-- The keys printed, one a line. -/
def printedKeys (stdout : List Char) : KeySet :=
  .ofList ((Text.filledLines stdout).map String.ofList)

/-- What stands before the path in an error line. -/
def errorMark : List Char := ['r', 'g', ':', ' ']

/-- An error line without its mark. -/
def withoutMark (line : List Char) : List Char :=
  if errorMark.isPrefixOf line then line.drop errorMark.length else line

/-- Cuts a text at the first colon that a blank follows. -/
def cutAtColon : List Char → Option (List Char × List Char)
  | ':' :: ' ' :: s => some ([], s)
  | c :: s => (cutAtColon s).map fun (before, after) => (c :: before, after)
  | [] => none

/-- A path and an error, as an error line names them. -/
def namedFile? (line : List Char) : Option (Path × String) :=
  (cutAtColon (withoutMark line)).map fun (path, error) => (.ofChars path, String.ofList error)

/-- How a search turned out. `named` are the warnings of the error lines, if each of
them names an existing path. -/
def classify (program root : Path) (status : ProcessStatus) (stdout stderr : List Char)
    (named : Option (List SourceWarning)) : Except Problem Search :=
  let words := String.ofList (Text.trim stderr)
  let failed := Problem.programFailed program status words
  let keys := printedKeys stdout
  match status with
  | .exited 0 => .ok ⟨keys, []⟩
  | .exited 1 => .ok ⟨keys, []⟩
  | .exited 2 =>
    match named with
    | some (w :: ws) => .ok ⟨keys, w :: ws⟩
    | _ => if (Text.trim stdout).isEmpty then .error failed else .ok ⟨keys, [⟨root.text, words⟩]⟩
  | _ => .error failed

/-! ### Both searches together -/

/-- The warnings of a list behind those of another, each warning once. -/
def addWarnings (ws : List SourceWarning) : List SourceWarning → List SourceWarning
  | [] => ws
  | w :: more => addWarnings (if w ∈ ws then ws else ws ++ [w]) more

/-- The searches taken together. -/
def Search.add (s t : Search) : Search := ⟨s.keys.union t.keys, addWarnings s.warnings t.warnings⟩

/-- No search yet. -/
def Search.start : Search := ⟨.empty, []⟩

/-- The scan that the searches give. -/
def Search.scan (s : Search) : SourceScan where
  keys := s.keys
  files := none
  warnings := s.warnings
  scanner := .ripgrep
  fallback := none

end KeyAudit.Ripgrep

namespace KeyAudit.Host

variable {m : Type → Type} [Monad m]

/-- Can the program be run? -/
def isAvailable (host : Host m) (program : Path) : m Bool := do
  match ← host.run program ["--version"] with
  | .ok done => return done.status.isSuccess
  | .error _ => return false

/-- The warnings of error lines, if each of them names an existing path. -/
def namedFiles (host : Host m) : List (List Char) → m (Option (List SourceWarning))
  | [] => return some []
  | line :: lines => do
    match Ripgrep.namedFile? line with
    | none => return none
    | some (path, error) =>
      if ← host.present path then
        return (← host.namedFiles lines).map (⟨path.text, error⟩ :: ·)
      else return none

/-- Searches for the references that are closed in one way. -/
def search (host : Host m) (program root : Path) (closing : Reference.Closing) :
    m (Except Problem Ripgrep.Search) := do
  match ← host.run program (Ripgrep.arguments closing root) with
  | .error reason => return .error (.programNotRun program reason)
  | .ok done =>
    let stdout := Text.Utf8.decodeLossy done.stdout
    let stderr := Text.Utf8.decodeLossy done.stderr
    let named ← host.namedFiles (Text.filledLines stderr)
    return Ripgrep.classify program root done.status stdout stderr named

/-- The searches one after the other, up to the first that fails. -/
def searchAll (host : Host m) (program root : Path) :
    List Reference.Closing → Ripgrep.Search → m (Except Problem Ripgrep.Search)
  | [], found => return .ok found
  | closing :: closings, found => do
    match ← host.search program root closing with
    | .error problem => return .error problem
    | .ok more => host.searchAll program root closings (found.add more)

/-- Scans by the program. -/
def scanByRipgrep (host : Host m) (program root : Path) : m (Except Problem SourceScan) := do
  match ← host.searchAll program root Reference.Closing.all .start with
  | .error problem => return .error problem
  | .ok found => return .ok found.scan

end KeyAudit.Host
