/-
Configurations as JSON text.

`Config.written` writes all settings, one a line. `Config.read` reads an object
with any of the settings, in any order and among members of other names, or a list
of the settings in their order. What the text leaves out keeps its default; a
setting that is given twice is a failure.
-/

import KeyAudit.Config.Basic
import KeyAudit.Json.Skip
import KeyAudit.Json.Writer

namespace KeyAudit.Config

open KeyAudit.Json

/-! ### Writing -/

/-- The value of a setting. -/
def valueOf (c : Config) : Setting → Json
  | .enMessages => .str c.enMessages
  | .trMessages => .str c.trMessages
  | .sourceRoot => .str c.sourceRoot
  | .reportPath => .str c.reportPath
  | .scanner => .str c.scanner.word
  | .maxUnused => .num (.int c.maxUnused.toNat)
  | .maxUsed => .num (.int c.maxUsed.toNat)

/-- The text of a configuration file with all settings. -/
def written (c : Config) : String :=
  String.ofList (writtenRecord (Setting.all.map fun s => (s.name, c.valueOf s)))

/-! ### Values of settings -/

/-- Why a value is not of the type that is wanted. The value is looked at far enough
to name it; a list or an object by its opening mark alone. -/
def mismatch (wanted : String) (s : List Char) : Failure :=
  let found (f : Found) : Except Failure (Unit × List Char) → Failure
    | .ok (_, r) => failAt (.wrongType f wanted) r
    | .error e => e
  let number : Except Failure (Number × List Char) → Failure
    | .ok (.int n, r) => failAt (.wrongType (.int n) wanted) r
    | .ok (.real x, r) => failAt (.wrongType (.real x) wanted) r
    | .error e => e
  match s with
  | 'n' :: r => found .null (readWord ['u', 'l', 'l'] r)
  | 't' :: r => found (.bool true) (readWord ['r', 'u', 'e'] r)
  | 'f' :: r => found (.bool false) (readWord ['a', 'l', 's', 'e'] r)
  | '-' :: r => number (readNumber true r)
  | '"' :: r =>
    match readText r with
    | .ok (t, r') => failAt (.wrongType (.str t) wanted) r'
    | .error e => e
  | '[' :: _ => failAt (.wrongType .sequence wanted) s
  | '\x7b' :: _ => failAt (.wrongType .map wanted) s
  | c :: _ => if c.isDigit then number (readNumber false s) else failBehind .valueMissing s
  | [] => failAt .valueMissing []

/-- A text, called `wanted` in a failure. -/
def readString (wanted : String) : Reader String := fun s =>
  match skipSpace s with
  | [] => .error (failAt .valueUnfinished [])
  | '"' :: r => readText r
  | r => .error (mismatch wanted r)

/-- The limit that a number gives. -/
def limitOf : Except Failure (Number × List Char) → Except Failure (UInt64 × List Char)
  | .error e => .error e
  | .ok (.int n, r) =>
    if 0 ≤ n then .ok (n.toNat.toUInt64, r)
    else .error (failAt (.wrongValue (.int n) "usize") r)
  | .ok (.real x, r) => .error (failAt (.wrongType (.real x) "usize") r)

/-- A natural number of 64 bits. -/
def readLimit : Reader UInt64 := fun s =>
  match skipSpace s with
  | [] => .error (failAt .valueUnfinished [])
  | '-' :: r => limitOf (readNumber true r)
  | c :: r =>
    if c.isDigit then limitOf (readNumber false (c :: r)) else .error (mismatch "usize" (c :: r))

/-- The preference that was just read as a word. -/
def preferenceOf : Except Failure (String × List Char) →
    Except Failure (Scanner.Preference × List Char)
  | .error e => .error e
  | .ok (word, r) =>
    match Scanner.Preference.ofWord? word with
    | some p => .ok (p, r)
    | none =>
      .error (failAt (.unknownChoice word (Scanner.Preference.all.map Scanner.Preference.word)) r)

/-- The null that may stand beside the word of a preference. -/
def readNull : Reader Unit := fun s =>
  match skipSpace s with
  | [] => .error (failAt .valueUnfinished [])
  | 'n' :: r => readWord ['u', 'l', 'l'] r
  | r => .error (mismatch "unit" r)

/-- The closing brace behind a preference that was given as an object. -/
def closePreference (p : Scanner.Preference) : Reader Scanner.Preference := fun s =>
  match skipSpace s with
  | [] => .error (failAt .objectUnfinished [])
  | '\x7d' :: r => .ok (p, r)
  | r => .error (failAt .valueMissing r)

/-- The word of a preference as the first name of an object. -/
def readWordName : Reader String := fun s =>
  match skipSpace s with
  | [] => .error (failAt .objectUnfinished [])
  | '"' :: r => readText r
  | '\x7d' :: r => .error (failBehind .valueMissing ('\x7d' :: r))
  | r => .error (failBehind .nameNotString r)

/-- A preference: its word, or an object with the word as its one name and null as
the value. -/
def readPreference : Reader Scanner.Preference := fun s =>
  match skipSpace s with
  | [] => .error (failAt .valueUnfinished [])
  | '"' :: r => preferenceOf (readText r)
  | '\x7b' :: r =>
    match preferenceOf (readWordName r) with
    | .error e => .error e
    | .ok (p, r₁) =>
      match readColon r₁ with
      | .error e => .error e
      | .ok (_, r₂) =>
        match readNull r₂ with
        | .error e => .error e
        | .ok (_, r₃) => closePreference p r₃
  | r => .error (failBehind .valueMissing r)

/-- Reads the value of a setting into a patch. -/
def readSetting (p : Patch) : Setting → Reader Patch
  | .enMessages => fun s => mapRead (fun v => { p with enMessages := some v }) (readString "a string" s)
  | .trMessages => fun s => mapRead (fun v => { p with trMessages := some v }) (readString "a string" s)
  | .sourceRoot => fun s => mapRead (fun v => { p with sourceRoot := some v }) (readString "a string" s)
  | .reportPath => fun s => mapRead (fun v => { p with reportPath := some v }) (readString "a string" s)
  | .scanner => fun s => mapRead (fun v => { p with scanner := some v }) (readPreference s)
  | .maxUnused => fun s => mapRead (fun v => { p with maxUnused := some v }) (readLimit s)
  | .maxUsed => fun s => mapRead (fun v => { p with maxUsed := some v }) (readLimit s)

/-! ### Objects and lists of settings -/

/-- A setting is given twice. The failure is noticed where the object goes on, or
behind its closing brace if it ends there. -/
def duplicate (setting : Setting) (s : List Char) : Failure :=
  match skipSpace s with
  | '\x7d' :: r => failAt (.duplicateField setting.name) r
  | r => failAt (.duplicateField setting.name) r

/-- Reads one member of a configuration object. -/
def readMember (bound : Nat) (p : Patch) (name : String) : Reader Patch := fun s =>
  match Setting.ofName? name with
  | none =>
    match readColon s with
    | .error e => .error e
    | .ok (_, r) => mapRead (fun _ => p) (skipValue bound r)
  | some setting =>
    if p.has setting then .error (duplicate setting s)
    else
      match readColon s with
      | .error e => .error e
      | .ok (_, r) => readSetting p setting r

/-- The end of a list that has given all settings. -/
def closeList (p : Patch) : Reader Patch := fun s =>
  match skipSpace s with
  | [] => .error (failAt .listUnfinished [])
  | ']' :: r => .ok (p, r)
  | ',' :: r =>
    match skipSpace r with
    | ']' :: r' => .error (failBehind .trailingComma (']' :: r'))
    | r' => .error (failBehind .trailingCharacters r')
  | r => .error (failBehind .trailingCharacters r)

/-- A list of settings, after its opening bracket. -/
def readListed : List Setting → Bool → Patch → Reader Patch
  | [], _, p => closeList p
  | setting :: settings, first, p => fun s =>
    match nextItem first s with
    | .error e => .error e
    | .ok (.done r) => .ok (p, r)
    | .ok (.more r) =>
      match readSetting p setting r with
      | .error e => .error e
      | .ok (p', r') => readListed settings false p' r'

/-- The settings that a text gives. -/
def readPatch (bound : Nat) : Reader Patch := fun s =>
  match skipSpace s with
  | [] => .error (failAt .valueUnfinished [])
  | '[' :: r => readListed Setting.all true {} r
  | '\x7b' :: r => readMembers (readMember bound) {} bound r
  | r => .error (mismatch "struct Config" r)

/-- The configuration that a text spells. -/
def read (text : String) : Except Failure Config :=
  (readWhole readPatch text).map fun p => p.applyTo default

end KeyAudit.Config
