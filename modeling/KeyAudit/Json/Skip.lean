/-
Passing over a JSON value whose content does not matter.

A value that is passed over may nest to any depth, its numbers may have any size,
and its escapes need not pair.
-/

import KeyAudit.Json.Reader

namespace KeyAudit.Json

/-! ### Quoted texts and numbers -/

/-- Passes over an escape, from the backslash on without it; gives how many
characters spell it. -/
def skipEscape : List Char → Except Failure Nat
  | [] => .error (failAt .stringUnfinished [])
  | c :: s =>
    if c = 'u' then
      match readHex s with
      | .ok _ => .ok 5
      | .error e => .error e
    else match letterEscape? c with
      | some _ => .ok 1
      | none => .error (failAfter .escapeInvalid 1 (c :: s))

/-- Passes over the characters up to the closing quote. The first `covered`
characters belong to an escape already passed over. -/
def skipTextFrom : Nat → Reader Unit
  | _, [] => .error (failAt .stringUnfinished [])
  | covered + 1, _ :: s => skipTextFrom covered s
  | 0, c :: s =>
    if c = '"' then .ok ((), s)
    else if c = '\\' then
      match skipEscape s with
      | .error e => .error e
      | .ok n => skipTextFrom n s
    else if isControl c then .error (failAt .controlCharacter (c :: s))
    else skipTextFrom 0 s

/-- A quoted text, after its opening quote. -/
def skipText : Reader Unit := skipTextFrom 0

/-- One digit or more. -/
def skipDigits (miss : List Char → Failure) : Reader Unit := fun s =>
  match s.takeWhile Char.isDigit with
  | [] => .error (miss s)
  | _ => .ok ((), s.dropWhile Char.isDigit)

/-- The exponent of a number, if there is one. -/
def skipExponent : Reader Unit := fun s =>
  match s with
  | c :: r =>
    if c = 'e' ∨ c = 'E' then
      skipDigits (failAfter .numberInvalid 1) (match r with
        | d :: r' => if d = '+' ∨ d = '-' then r' else r
        | [] => r)
    else .ok ((), s)
  | [] => .ok ((), s)

/-- What follows the digits before the point. -/
def skipTail : Reader Unit := fun s =>
  match s with
  | '.' :: r =>
    match skipDigits (failBehind .numberInvalid) r with
    | .error e => .error e
    | .ok (_, r') => skipExponent r'
  | _ => skipExponent s

/-- A number, after its sign. -/
def skipNumber : Reader Unit := fun s =>
  match s with
  | '0' :: r =>
    match r with
    | d :: _ => if d.isDigit then .error (failBehind .numberInvalid r) else skipTail r
    | [] => skipTail r
  | _ =>
    match skipDigits (failAfter .numberInvalid 1) s with
    | .error e => .error e
    | .ok (_, r) => skipTail r

/-! ### Lists and objects -/

/-- Is there another item in a list that is passed over? -/
def nextSkippedItem (first : Bool) (s : List Char) : Except Failure Next :=
  match skipSpace s with
  | [] => .error (failAt .listUnfinished [])
  | ']' :: r => .ok (.done r)
  | c :: r =>
    if first then .ok (.more (c :: r))
    else if c = ',' then .ok (.more r)
    else .error (failBehind .listSeparatorMissing (c :: r))

/-- The opening quote of a name that is passed over. -/
def openName (s : List Char) : Except Failure Next :=
  match skipSpace s with
  | [] => .error (failAt .objectUnfinished [])
  | '"' :: r => .ok (.more r)
  | r => .error (failBehind .nameNotString r)

/-- Is there another member in an object that is passed over? What is left then
begins behind the opening quote of its name. -/
def nextSkippedMember (first : Bool) (s : List Char) : Except Failure Next :=
  match skipSpace s with
  | [] => .error (failAt .objectUnfinished [])
  | '\x7d' :: r => .ok (.done r)
  | c :: r =>
    if first then openName (c :: r)
    else if c = ',' then openName r
    else .error (failBehind .objectSeparatorMissing (c :: r))

/-- A member, from behind the opening quote of its name. -/
def skipMember (value : Reader Unit) : Reader Unit := fun s =>
  match skipText s with
  | .error e => .error e
  | .ok (_, r) =>
    match readColon r with
    | .error e => .error e
    | .ok (_, r') => value r'

/-! ### Values -/

/-- A value whose lists and objects hold what `inner` passes over. -/
def skipOuter (bound : Nat) (inner : Reader Unit) : Reader Unit := fun s =>
  match skipSpace s with
  | [] => .error (failAt .valueUnfinished [])
  | 'n' :: r => readWord ['u', 'l', 'l'] r
  | 't' :: r => readWord ['r', 'u', 'e'] r
  | 'f' :: r => readWord ['a', 'l', 's', 'e'] r
  | '-' :: r => skipNumber r
  | '"' :: r => skipText r
  | '[' :: r =>
    mapRead (fun _ => ()) (readItems nextSkippedItem inner bound true r)
  | '\x7b' :: r =>
    mapRead (fun _ => ()) (readItems nextSkippedMember (skipMember inner) bound true r)
  | c :: r =>
    if c.isDigit then skipNumber (c :: r)
    else .error (failBehind .valueMissing (c :: r))

/-- A value in which lists and objects nest less deep than this. -/
def skipNested (bound : Nat) : Nat → Reader Unit
  | 0 => fun s => .error (failAt .valueUnfinished s)
  | depth + 1 => skipOuter bound (skipNested bound depth)

/-- Passes over a value of a text with fewer characters than the bound. Each level
of nesting takes a character, so the bound is one of the levels too. -/
def skipValue (bound : Nat) : Reader Unit := skipNested bound bound

end KeyAudit.Json
