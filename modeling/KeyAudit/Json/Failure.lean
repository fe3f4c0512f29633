/-
Why and where the reading of a JSON text fails.

A reader holds the text that is left, so a failure keeps how many bytes were
unread when it was noticed; `Failure.position` turns that into a line and a
column of the whole text. Lines end with a line feed, columns count bytes.
-/

import KeyAudit.Decimal.Shortest
import KeyAudit.Text.Quoted

namespace KeyAudit.Json

/-- What stands where something else is wanted. -/
inductive Found where
  | null
  | bool (b : Bool)
  | int (n : Int)
  | real (x : Float)
  | str (s : String)
  | sequence
  | map
  deriving Inhabited

/-- Why a text is not read. -/
inductive Cause where
  | listUnfinished
  | objectUnfinished
  | stringUnfinished
  | valueUnfinished
  | colonMissing
  | listSeparatorMissing
  | objectSeparatorMissing
  | wordUnknown
  | valueMissing
  | escapeInvalid
  | numberInvalid
  | numberOutOfRange
  | controlCharacter
  | nameNotString
  | surrogateAlone
  | trailingComma
  | trailingCharacters
  | surrogateUnfinished
  | nestedTooDeep
  /-- A value of another type. -/
  | wrongType (found : Found) (wanted : String)
  /-- A value of the right type that does not fit. -/
  | wrongValue (found : Found) (wanted : String)
  /-- A word that is none of the choices. -/
  | unknownChoice (word : String) (choices : List String)
  /-- A field that is given twice. -/
  | duplicateField (name : String)
  deriving Inhabited

/-- Names the thing found. -/
def Found.text : Found → String
  | .null => "null"
  | .bool b => "boolean `" ++ (if b then "true" else "false") ++ "`"
  | .int n => "integer `" ++ toString n ++ "`"
  | .real x => "floating point `" ++ String.ofList (Decimal.shortestText (Decimal.read x.toBits)) ++ "`"
  | .str s => "string " ++ Text.quoted s
  | .sequence => "sequence"
  | .map => "map"

/-- The choices, each in backquotes. -/
def choicesText : List String → String
  | [] => "there are no choices"
  | [a] => "expected `" ++ a ++ "`"
  | [a, b] => "expected `" ++ a ++ "` or `" ++ b ++ "`"
  | cs => "expected one of " ++ String.intercalate ", " (cs.map fun c => "`" ++ c ++ "`")

/-- Says why. -/
def Cause.text : Cause → String
  | .listUnfinished => "EOF while parsing a list"
  | .objectUnfinished => "EOF while parsing an object"
  | .stringUnfinished => "EOF while parsing a string"
  | .valueUnfinished => "EOF while parsing a value"
  | .colonMissing => "expected `:`"
  | .listSeparatorMissing => "expected `,` or `]`"
  | .objectSeparatorMissing => "expected `,` or `\x7d`"
  | .wordUnknown => "expected ident"
  | .valueMissing => "expected value"
  | .escapeInvalid => "invalid escape"
  | .numberInvalid => "invalid number"
  | .numberOutOfRange => "number out of range"
  | .controlCharacter => "control character (\\u0000-\\u001F) found while parsing a string"
  | .nameNotString => "key must be a string"
  | .surrogateAlone => "lone leading surrogate in hex escape"
  | .trailingComma => "trailing comma"
  | .trailingCharacters => "trailing characters"
  | .surrogateUnfinished => "unexpected end of hex escape"
  | .nestedTooDeep => "recursion limit exceeded"
  | .wrongType found wanted => "invalid type: " ++ found.text ++ ", expected " ++ wanted
  | .wrongValue found wanted => "invalid value: " ++ found.text ++ ", expected " ++ wanted
  | .unknownChoice word choices => "unknown variant `" ++ word ++ "`, " ++ choicesText choices
  | .duplicateField name => "duplicate field `" ++ name ++ "`"

/-- A failure: why, and how many bytes of the text were unread. -/
structure Failure where
  cause : Cause
  unread : Nat
  deriving Inhabited

/-- The bytes of a text. -/
def byteCount (s : List Char) : Nat := s.foldl (fun n c => n + c.utf8Size) 0

/-- A failure at the next character of what is left. -/
def failAt (cause : Cause) (rest : List Char) : Failure := ⟨cause, byteCount rest⟩

/-- A failure noticed by looking at the next byte of what is left, which counts as
passed. -/
def failBehind (cause : Cause) (rest : List Char) : Failure := ⟨cause, byteCount rest - 1⟩

/-- A failure noticed after `n` more bytes of what is left. -/
def failAfter (cause : Cause) (n : Nat) (rest : List Char) : Failure :=
  ⟨cause, byteCount rest - n⟩

/-- A place in a text. -/
structure Position where
  line : Nat
  column : Nat
  deriving DecidableEq, Repr

/-- The place after these bytes. -/
def Position.after (bytes : List UInt8) : Position where
  line := 1 + bytes.count 10
  column := (bytes.reverse.takeWhile (· != 10)).length

/-- The place in the whole text at which the failure was noticed. -/
def Failure.position (text : String) (f : Failure) : Position :=
  let bytes := text.toUTF8.data.toList
  .after (bytes.take (bytes.length - f.unread))

/-- The failure in words, with its place in the text. -/
def Failure.message (text : String) (f : Failure) : String :=
  let p := f.position text
  f.cause.text ++ " at line " ++ toString p.line ++ " column " ++ toString p.column

end KeyAudit.Json
