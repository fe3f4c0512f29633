/-
The small parts of a JSON text: blanks, fixed words, the colon, and quoted texts
with their escapes.

A reader takes the text that is left and gives a value and what is left after it,
or a failure.
-/

import KeyAudit.Json.Failure

namespace KeyAudit.Json

/-- Reads a value from the front of a text. -/
abbrev Reader (α : Type) := List Char → Except Failure (α × List Char)

/-! ### Blanks and fixed words -/

/-- The blanks between the parts of a JSON text. -/
def isSpace (c : Char) : Bool := c == ' ' || c == '\n' || c == '\t' || c == '\r'

def skipSpace (s : List Char) : List Char := s.dropWhile isSpace

/-- The rest of a fixed word. -/
def readWord : List Char → Reader Unit
  | [], s => .ok ((), s)
  | _ :: _, [] => .error (failAt .valueUnfinished [])
  | e :: es, c :: s => if c = e then readWord es s else .error (failAfter .wordUnknown 1 (c :: s))

/-- The colon between a name and its value. -/
def readColon : Reader Unit := fun s =>
  match skipSpace s with
  | [] => .error (failAt .objectUnfinished [])
  | ':' :: r => .ok ((), r)
  | r => .error (failBehind .colonMissing r)

/-! ### Escapes -/

/-- The value of a hexadecimal digit. -/
def hexValue? (c : Char) : Option Nat :=
  if '0' ≤ c ∧ c ≤ '9' then some (c.toNat - 48)
  else if 'a' ≤ c ∧ c ≤ 'f' then some (c.toNat - 87)
  else if 'A' ≤ c ∧ c ≤ 'F' then some (c.toNat - 55)
  else none

/-- Why the text does not begin with four hexadecimal digits. -/
def hexFailure (s : List Char) : Failure :=
  if byteCount s < 4 then failAt .stringUnfinished [] else failAfter .escapeInvalid 4 s

/-- Four hexadecimal digits. -/
def readHex : Reader Nat := fun s =>
  match s with
  | a :: b :: c :: d :: r =>
    match hexValue? a, hexValue? b, hexValue? c, hexValue? d with
    | some a, some b, some c, some d => .ok (((a * 16 + b) * 16 + c) * 16 + d, r)
    | _, _, _, _ => .error (hexFailure s)
  | _ => .error (hexFailure s)

def isHighSurrogate (n : Nat) : Bool := 0xD800 ≤ n && n ≤ 0xDBFF

def isLowSurrogate (n : Nat) : Bool := 0xDC00 ≤ n && n ≤ 0xDFFF

/-- The `\u` that must follow a high surrogate. -/
def readSecondMark : Reader Unit := fun s =>
  match s with
  | [] => .error (failAt .stringUnfinished [])
  | '\\' :: r =>
    match r with
    | [] => .error (failAt .stringUnfinished [])
    | 'u' :: r' => .ok ((), r')
    | _ => .error (failAfter .surrogateUnfinished 1 r)
  | _ => .error (failAfter .surrogateUnfinished 1 s)

/-- The character that a `\u` escape stands for, from its digits on, and how many
characters spell it. Characters beyond the first plane take two escapes. -/
def readCodePoint (s : List Char) : Except Failure (Char × Nat) :=
  match readHex s with
  | .error e => .error e
  | .ok (n, r) =>
    if isLowSurrogate n then .error (failAt .surrogateAlone r)
    else if isHighSurrogate n then
      match readSecondMark r with
      | .error e => .error e
      | .ok (_, r) =>
        match readHex r with
        | .error e => .error e
        | .ok (m, r) =>
          if isLowSurrogate m then
            .ok (Char.ofNat ((n - 0xD800) * 0x400 + (m - 0xDC00) + 0x10000), 10)
          else .error (failAt .surrogateAlone r)
    else .ok (Char.ofNat n, 4)

/-- The character that an escape stands for by its letter. -/
def letterEscape? : Char → Option Char
  | '"' => some '"'
  | '\\' => some '\\'
  | '/' => some '/'
  | 'b' => some '\x08'
  | 'f' => some '\x0c'
  | 'n' => some '\n'
  | 'r' => some '\r'
  | 't' => some '\t'
  | _ => none

/-- The character that an escape stands for, from the backslash on without it, and
how many characters spell it. -/
def readEscape : List Char → Except Failure (Char × Nat)
  | [] => .error (failAt .stringUnfinished [])
  | c :: s =>
    if c = 'u' then
      match readCodePoint s with
      | .ok (x, n) => .ok (x, n + 1)
      | .error e => .error e
    else match letterEscape? c with
      | some x => .ok (x, 1)
      | none => .error (failAfter .escapeInvalid 1 (c :: s))

/-! ### Quoted texts -/

/-- May not stand in a quoted text. -/
def isControl (c : Char) : Bool := c.val < 0x20

/-- The characters up to the closing quote. The first `skip` characters belong to
an escape already read. -/
def readTextFrom : Nat → Reader (List Char)
  | _, [] => .error (failAt .stringUnfinished [])
  | skip + 1, _ :: s => readTextFrom skip s
  | 0, c :: s =>
    if c = '"' then .ok ([], s)
    else if c = '\\' then
      match readEscape s with
      | .error e => .error e
      | .ok (x, n) =>
        match readTextFrom n s with
        | .error e => .error e
        | .ok (xs, r) => .ok (x :: xs, r)
    else if isControl c then .error (failAfter .controlCharacter 1 (c :: s))
    else
      match readTextFrom 0 s with
      | .error e => .error e
      | .ok (xs, r) => .ok (c :: xs, r)

/-- The characters of an escape that was read are passed over. -/
theorem readTextFrom_covered (l t : List Char) :
    readTextFrom l.length (l ++ t) = readTextFrom 0 t := by
  induction l with
  | nil => rfl
  | cons c l ih => exact ih

/-- A quoted text, after its opening quote. -/
def readText : Reader String := fun s =>
  match readTextFrom 0 s with
  | .ok (xs, r) => .ok (String.ofList xs, r)
  | .error e => .error e

end KeyAudit.Json
