/-
Reading JSON values.

`readList` and `readMembers` read the inside of brackets and braces around any
reader of what stands in them. `readValue` nests them up to a depth, and `read`
reads a whole text as one value. A bound that exceeds the characters of the text
exceeds the items of every list in it.
-/

import KeyAudit.Json.Numeral

namespace KeyAudit.Json

/-! ### Lists -/

/-- What stands before the next item of a list: the closing bracket, or the text of
the item. The first item has no comma before it. -/
inductive Next where
  | done (rest : List Char)
  | more (rest : List Char)

/-- Is there another item in a list? -/
def nextItem (first : Bool) (s : List Char) : Except Failure Next :=
  match skipSpace s with
  | [] => .error (failAt .listUnfinished [])
  | ']' :: r => .ok (.done r)
  | ',' :: r =>
    if first then .ok (.more (',' :: r))
    else match skipSpace r with
      | [] => .error (failAt .valueUnfinished [])
      | ']' :: r' => .error (failBehind .trailingComma (']' :: r'))
      | r' => .ok (.more r')
  | r => if first then .ok (.more r) else .error (failBehind .listSeparatorMissing r)

/-- The items up to the closing mark, where `next` tells whether there is another.
The bound exceeds the number of items: each takes a character. -/
def readItems {α : Type} (next : Bool → List Char → Except Failure Next) (item : Reader α) :
    Nat → Bool → Reader (List α)
  | 0, _ => fun s => .error (failAt .valueUnfinished s)
  | bound + 1, first => fun s =>
    match next first s with
    | .error e => .error e
    | .ok (.done r) => .ok ([], r)
    | .ok (.more r) =>
      match item r with
      | .error e => .error e
      | .ok (x, r') =>
        match readItems next item bound false r' with
        | .error e => .error e
        | .ok (xs, r'') => .ok (x :: xs, r'')

/-- A list, after its opening bracket. -/
def readList {α : Type} (item : Reader α) (bound : Nat) : Reader (List α) :=
  readItems nextItem item bound true

/-! ### Objects -/

/-- Is there another member in an object? What is left then begins behind the
opening quote of its name. -/
def nextMember (first : Bool) (s : List Char) : Except Failure Next :=
  match skipSpace s with
  | [] => .error (failAt .objectUnfinished [])
  | '\x7d' :: r => .ok (.done r)
  | '"' :: r =>
    if first then .ok (.more r)
    else .error (failBehind .objectSeparatorMissing ('"' :: r))
  | ',' :: r =>
    if first then .error (failBehind .nameNotString (',' :: r))
    else match skipSpace r with
      | [] => .error (failAt .valueUnfinished [])
      | '"' :: r' => .ok (.more r')
      | '\x7d' :: r' => .error (failBehind .trailingComma ('\x7d' :: r'))
      | r' => .error (failBehind .nameNotString r')
  | r =>
    if first then .error (failBehind .nameNotString r)
    else .error (failBehind .objectSeparatorMissing r)

/-- The members of an object to its closing brace. `member` takes what was read so
far and a name, and reads the colon and the value. -/
def readMembersFrom {σ : Type} (member : σ → String → Reader σ) :
    Nat → Bool → σ → Reader σ
  | 0, _, _ => fun s => .error (failAt .objectUnfinished s)
  | bound + 1, first, acc => fun s =>
    match nextMember first s with
    | .error e => .error e
    | .ok (.done r) => .ok (acc, r)
    | .ok (.more r) =>
      match readText r with
      | .error e => .error e
      | .ok (name, r') =>
        match member acc name r' with
        | .error e => .error e
        | .ok (acc', r'') => readMembersFrom member bound false acc' r''

/-- An object, after its opening brace. -/
def readMembers {σ : Type} (member : σ → String → Reader σ) (start : σ) (bound : Nat) :
    Reader σ :=
  readMembersFrom member bound true start

/-! ### Values -/

/-- Reads one member of an object value, with those before it, the last one first. -/
def readMember (value : Reader Json) (before : List (String × Json)) (name : String) :
    Reader (List (String × Json)) := fun s =>
  match readColon s with
  | .error e => .error e
  | .ok (_, r) =>
    match value r with
    | .error e => .error e
    | .ok (v, r') => .ok ((name, v) :: before, r')

/-- Gives a value for what was read. -/
def mapRead {α β : Type} (f : α → β) : Except Failure (α × List Char) →
    Except Failure (β × List Char)
  | .ok (x, r) => .ok (f x, r)
  | .error e => .error e

/-- A value whose lists and objects hold what `inner` reads; without it no list or
object may begin. -/
def readOuter (bound : Nat) (inner : Option (Reader Json)) : Reader Json := fun s =>
  match skipSpace s with
  | [] => .error (failAt .valueUnfinished [])
  | 'n' :: r => mapRead (fun _ => .null) (readWord ['u', 'l', 'l'] r)
  | 't' :: r => mapRead (fun _ => .bool true) (readWord ['r', 'u', 'e'] r)
  | 'f' :: r => mapRead (fun _ => .bool false) (readWord ['a', 'l', 's', 'e'] r)
  | '-' :: r => mapRead .num (readNumber true r)
  | '"' :: r => mapRead .str (readText r)
  | '[' :: r =>
    match inner with
    | none => .error (failBehind .nestedTooDeep ('[' :: r))
    | some value => mapRead .arr (readList value bound r)
  | '\x7b' :: r =>
    match inner with
    | none => .error (failBehind .nestedTooDeep ('\x7b' :: r))
    | some value =>
      mapRead (fun written => .obj (collected written.reverse))
        (readMembers (readMember value) [] bound r)
  | c :: r =>
    if c.isDigit then mapRead .num (readNumber false (c :: r))
    else .error (failBehind .valueMissing (c :: r))

/-- A value in which lists and objects nest no deeper than this. -/
def readValue (bound : Nat) : Nat → Reader Json
  | 0 => readOuter bound none
  | depth + 1 => readOuter bound (some (readValue bound depth))

/-- How deep lists and objects may nest. -/
def maxDepth : Nat := 127

/-! ### Whole texts -/

/-- Reads a whole text with a reader that takes a bound: nothing but blanks may
follow. -/
def readWhole {α : Type} (reader : Nat → Reader α) (text : String) : Except Failure α :=
  match reader (text.length + 1) text.toList with
  | .error e => .error e
  | .ok (x, r) =>
    match skipSpace r with
    | [] => .ok x
    | r' => .error (failBehind .trailingCharacters r')

/-- The value that a text spells. -/
def read (text : String) : Except Failure Json := readWhole (fun bound => readValue bound maxDepth) text

end KeyAudit.Json
