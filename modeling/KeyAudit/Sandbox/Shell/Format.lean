/-
The two ways in which a script prints: words with escapes (`echoed`) and a format
that is used again as long as there are words for it (`printed`).

A directive of a format is a `Directive`; what it does with its word is
`Directive.apply`. Words that are no numbers are complained about, and count as what
could be read of them.
-/

import KeyAudit.Decimal.Fixed
import KeyAudit.Sandbox.Shell.Number

namespace KeyAudit.Sandbox.Shell

/-! ### Escapes -/

def isOctal (c : Char) : Bool := '0' ≤ c && c ≤ '7'

/-- The byte of a number. -/
def byte (n : Nat) : Char := Char.ofNat (n % 256)

/-- The character that a text behind a backslash stands for, and how much of the text
it takes. Where the text stands for none, the backslash stands for itself. -/
def escaped (text : Bytes) : Char × Nat :=
  match text with
  | [] => ('\\', 0)
  | c :: _ =>
    if isOctal c then
      let own := (text.take 3).takeWhile isOctal
      (byte (ofDigits 8 own), own.length)
    else
      match [('\\', '\\'), ('a', byte 7), ('b', byte 8), ('e', byte 27), ('f', byte 12), ('n', '\n'),
        ('r', '\r'), ('t', '\t'), ('v', byte 11)].lookup c with
      | some d => (d, 1)
      | none => ('\\', 0)

/-- A word with its escapes, and whether it says that the output ends. Octal digits
can have one more zero in front. The first `skip` characters have been read. -/
def unescape : Nat → Bytes → Bytes × Bool
  | _, [] => ([], false)
  | skip + 1, _ :: cs => unescape skip cs
  | 0, c :: cs =>
    if c != '\\' then
      match unescape 0 cs with
      | (t, stop) => (c :: t, stop)
    else
      match cs with
      | 'c' :: _ => ([], true)
      | _ =>
        let zero := match cs with
          | '0' :: d :: _ => isOctal d
          | _ => false
        match escaped (if zero then cs.drop 1 else cs) with
        | (d, n) =>
          match unescape (if zero then n + 1 else n) cs with
          | (t, stop) => (d :: t, stop)

/-- Words with blanks between them and a newline at the end, unless a word says that
the output ends or the first word asks for none. -/
def echoed (words : List Bytes) : Bytes :=
  let rec go (last : Bytes) : List Bytes → Bytes
    | [] => last
    | w :: ws =>
      match unescape 0 w with
      | (t, true) => t
      | (t, false) => t ++ if ws.isEmpty then last else ' ' :: go last ws
  match words with
  | ['-', 'n'] :: ws => go [] ws
  | ws => go ['\n'] ws

/-! ### Directives -/

structure Flags where
  left : Bool
  sign : Bool
  blank : Bool
  zero : Bool
  alternate : Bool

/-- A directive, with its width and precision filled in. -/
structure Directive where
  flags : Flags
  width : Nat
  precision : Option Nat
  kind : Char

namespace Directive

/-- A text in a field of its width. -/
def pad (d : Directive) (text : Bytes) : Bytes :=
  let fill := List.replicate (d.width - text.length) ' '
  if d.flags.left then text ++ fill else fill ++ text

/-- A number, with its sign or mark in front, in a field of its width. -/
def padNumber (d : Directive) (zero : Bool) (front digits : Bytes) : Bytes :=
  if d.flags.zero && !d.flags.left && zero then
    front ++ List.replicate (d.width - front.length - digits.length) '0' ++ digits
  else d.pad (front ++ digits)

def signOf (d : Directive) (negative : Bool) : Bytes :=
  if negative then ['-'] else if d.flags.sign then ['+'] else if d.flags.blank then [' '] else []

/-- The digits of a number, at least as many as the precision says. -/
def digitsOf (d : Directive) (base n : Nat) : Bytes :=
  let digits := if n = 0 && d.precision == some 0 then [] else Nat.toDigits base n
  List.replicate (d.precision.getD 1 - digits.length) '0' ++ digits

/-- A number with a sign. -/
def signed (d : Directive) (n : Int) : Bytes :=
  d.padNumber d.precision.isNone (d.signOf (n < 0)) (d.digitsOf 10 n.natAbs)

/-- A number without a sign. -/
def unsigned (d : Directive) (n : Nat) : Bytes :=
  let digits := match d.kind with
    | 'o' =>
      let own := d.digitsOf 8 n
      if d.flags.alternate && own.head? != some '0' then '0' :: own else own
    | 'x' => d.digitsOf 16 n
    | 'X' => (d.digitsOf 16 n).map Char.toUpper
    | _ => d.digitsOf 10 n
  let front := if d.flags.alternate && n != 0 && (d.kind == 'x' || d.kind == 'X') then ['0', d.kind]
    else []
  d.padNumber d.precision.isNone front digits

/-! ### Fractions -/

/-- The digits of a number with so many places. -/
def positional (alternate : Bool) (places n : Nat) : Bytes :=
  Decimal.digits (n / Nat.pow 10 places) ++
    (if places = 0 then (if alternate then ['.'] else [])
      else '.' :: Decimal.padded places (n % Nat.pow 10 places))

/-- The number of digits before the point, or of zeros behind it, less one: the
exponent of the first digit. -/
def exponentOf (x : Decimal.Binary) : Int :=
  if x.numerator = 0 then 0
  else if x.denominator ≤ x.numerator then
    ((Decimal.digits (x.numerator / x.denominator)).length : Int) - 1
  else
    let guess := (Decimal.digits (x.denominator / x.numerator)).length
    if x.denominator ≤ x.numerator * Nat.pow 10 (guess - 1) then -((guess : Int) - 1) else -guess

/-- The value times a power of ten, rounded. -/
def scaled (x : Decimal.Binary) (power : Int) : Nat :=
  Decimal.roundDiv (x.numerator * Nat.pow 10 power.toNat) (x.denominator * Nat.pow 10 (-power).toNat)

/-- One digit, a point and so many places, with the exponent that the rounding
gives. -/
def significant (x : Decimal.Binary) (places : Nat) : Nat × Int :=
  let e := exponentOf x
  let n := scaled x ((places : Int) - e)
  if n < Nat.pow 10 (places + 1) then (n, e) else (scaled x ((places : Int) - e - 1), e + 1)

/-- The text of an exponent: at least two digits. -/
def exponentText (mark : Char) (e : Int) : Bytes :=
  [mark, if e < 0 then '-' else '+'] ++ Decimal.padded 2 e.natAbs

/-- A text without the zeros at its end behind a point. -/
def withoutZeros (text : Bytes) : Bytes :=
  if text.contains '.' then
    match text.reverse.dropWhile (· == '0') with
    | '.' :: cs => cs.reverse
    | cs => cs.reverse
  else text

/-- The digits of a fraction. -/
def fraction (d : Directive) (x : Decimal.Binary) : Bytes :=
  let places := d.precision.getD 6
  let mark := if d.kind.isUpper then 'E' else 'e'
  match d.kind.toLower with
  | 'f' => positional d.flags.alternate places (scaled x places)
  | 'e' =>
    match significant x places with
    | (n, e) => positional d.flags.alternate places n ++ exponentText mark e
  | _ =>
    let digits := if places = 0 then 1 else places
    match significant x (digits - 1) with
    | (n, e) =>
      let trim (text : Bytes) : Bytes := if d.flags.alternate then text else withoutZeros text
      if -4 ≤ e && e < digits then
        let behind := ((digits : Int) - 1 - e).toNat
        trim (positional d.flags.alternate behind (scaled x behind))
      else trim (positional d.flags.alternate (digits - 1) n) ++ exponentText mark e

/-- The hexadecimal digits of a fraction: one, a point and so many places, or as many as
there are, and the power of two. -/
def hexadecimal (d : Directive) (x : Decimal.Binary) : Bytes :=
  let all := 13
  let places := d.precision.getD all
  let n := if places < all then Decimal.roundDiv x.mantissa (Nat.pow 16 (all - places))
    else x.mantissa * Nat.pow 16 (places - all)
  let own := Nat.toDigits 16 (n % Nat.pow 16 places)
  let behind := List.replicate (places - own.length) '0' ++ if places = 0 then [] else own
  let behind := if d.precision.isNone then (behind.reverse.dropWhile (· == '0')).reverse else behind
  let point := if behind.isEmpty && !d.flags.alternate then [] else ['.']
  let power : Int := if x.mantissa = 0 then 0 else x.exponent + 52
  ofInt (n / Nat.pow 16 places) ++ point ++ behind ++ ['p', if power < 0 then '-' else '+'] ++
    Decimal.digits power.natAbs

/-- A floating-point number. -/
def floating (d : Directive) (x : Float) : Bytes :=
  let named (negative : Bool) (text : String) : Bytes :=
    let text := if d.kind.isUpper then text.toUpper else text
    d.padNumber false (d.signOf negative) text.toList
  match Decimal.read x.toBits with
  | .notANumber => named false "nan"
  | .infinite negative => named negative "inf"
  | .finite b =>
    let sign := d.signOf b.negative
    match d.kind with
    | 'a' => d.padNumber true (sign ++ ['0', 'x']) (d.hexadecimal b)
    | 'A' => d.padNumber true (sign ++ ['0', 'X']) ((d.hexadecimal b).map Char.toUpper)
    | _ => d.padNumber true sign (d.fraction b)

end Directive

/-! ### Words as numbers -/

/-- What printing gives: the output, the complaints on the way, and the one that ended
it. -/
structure Printed where
  output : Bytes
  complaints : List Bytes
  failure : Option Bytes

/-- The complaint about a word that is no number to its end. -/
def conversionComplaint (word rest : Bytes) (overflow : Bool) : List Bytes :=
  if !rest.isEmpty then
    [word ++ (if rest.length = word.length then ": expected numeric value"
      else ": not completely converted").toList]
  else if overflow then [word ++ ": Numerical result out of range".toList]
  else []

/-- A word that begins with a quote stands for the character behind it. -/
def quotedValue? : Bytes → Option Nat
  | '"' :: cs | '\'' :: cs => some (cs.head?.elim 0 Char.toNat)
  | _ => none

/-- A word as a number with a sign, and the complaints about it. -/
def signedValue (word : Bytes) : Int × List Bytes :=
  match quotedValue? word with
  | some n => (n, [])
  | none =>
    match Numeral.read? 0 word with
    | some n => (n.signed, conversionComplaint word n.rest n.overflows)
    | none => (0, conversionComplaint word word false)

/-- A word as a number without a sign, and the complaints about it. -/
def unsignedValue (word : Bytes) : Nat × List Bytes :=
  match quotedValue? word with
  | some n => (n, [])
  | none =>
    match Numeral.read? 0 word with
    | some n => (n.unsigned, conversionComplaint word n.rest (Numeral.maxUnsigned < n.magnitude))
    | none => (0, conversionComplaint word word false)

/-- The power behind its mark at the front of a text, and the text behind it. -/
def readPower (mark : Char) (text : Bytes) : Int × Bytes :=
  match text with
  | e :: cs =>
    let (negative, digits) := match cs with
      | '-' :: ds => (true, ds)
      | '+' :: ds => (false, ds)
      | ds => (false, ds)
    let own := digits.takeWhile Char.isDigit
    if e.toLower == mark && !own.isEmpty then
      let n : Int := (ofDigits 10 own : Nat)
      (if negative then -n else n, digits.drop own.length)
    else (0, text)
  | [] => (0, [])

/-- A decimal fraction at the front of a text, and the text behind it. -/
def readFraction (text : Bytes) : Option (Float × Bytes) :=
  let whole := text.takeWhile Char.isDigit
  let afterWhole := text.drop whole.length
  let (places, afterPlaces) := match afterWhole with
    | '.' :: cs => (cs.takeWhile Char.isDigit, cs.dropWhile Char.isDigit)
    | _ => ([], afterWhole)
  if whole.isEmpty && places.isEmpty then none
  else
    let (power, rest) := readPower 'e' afterPlaces
    let power := power - places.length
    let mantissa := ofDigits 10 (whole ++ places)
    some (Float.ofScientific mantissa (power < 0) power.natAbs, rest)

/-- A hexadecimal fraction at the front of a text, behind its mark, and the text behind
it. -/
def readHexadecimal (text : Bytes) : Option (Float × Bytes) :=
  let isDigit (c : Char) : Bool := digitValue c < 16
  let whole := text.takeWhile isDigit
  let afterWhole := text.drop whole.length
  let (places, afterPlaces) := match afterWhole with
    | '.' :: cs => (cs.takeWhile isDigit, cs.dropWhile isDigit)
    | _ => ([], afterWhole)
  if whole.isEmpty && places.isEmpty then none
  else
    let (power, rest) := readPower 'p' afterPlaces
    let mantissa := Float.ofNat (ofDigits 16 (whole ++ places))
    some (mantissa.scaleB (power - 4 * places.length), rest)

/-- Is a number that a text writes too large for a double, or too close to zero? -/
def isOutOfRange (text : Bytes) (x : Float) : Bool :=
  match Decimal.read x.toBits with
  | .infinite _ => text.head?.any fun c => c.isDigit || c == '.'
  | .finite b =>
    let digits := text.takeWhile fun c => c.isDigit || c == '.'
    b.mantissa < Nat.pow 2 52 && digits.any fun c => c.isDigit && c != '0'
  | .notANumber => false

/-- A word as a fraction, and the complaints about it. -/
def floatValue (word : Bytes) : Float × List Bytes :=
  match quotedValue? word with
  | some n => (Float.ofNat n, [])
  | none =>
    let (negative, text) := match word.dropWhile isSpace with
      | '-' :: cs => (true, cs)
      | '+' :: cs => (false, cs)
      | cs => (false, cs)
    let own : Option (Float × Bytes) :=
      let lower := text.map Char.toLower
      if "infinity".toList.isPrefixOf lower then some (1 / 0, text.drop 8)
      else if "inf".toList.isPrefixOf lower then some (1 / 0, text.drop 3)
      else if "nan".toList.isPrefixOf lower then some (0 / 0, text.drop 3)
      else
        match text with
        | '0' :: x :: cs =>
          let hexadecimal := if x == 'x' || x == 'X' then readHexadecimal cs else none
          hexadecimal.orElse fun _ => readFraction text
        | _ => readFraction text
    match own with
    | some (x, rest) => (if negative then -x else x, conversionComplaint word rest (isOutOfRange text x))
    | none => (0, conversionComplaint word word false)

/-! ### Formats -/

/-- The output of a directive for its word, the complaints about the word, and whether
the output ends. -/
def Directive.apply (d : Directive) (word : Bytes) : Bytes × List Bytes × Bool :=
  let cut (text : Bytes) : Bytes := d.precision.elim text text.take
  match d.kind with
  | 's' => (d.pad (cut word), [], false)
  | 'b' =>
    match unescape 0 word with
    | (text, stop) => (d.pad (cut text), [], stop)
  | 'c' => (d.pad [word.head?.getD '\x00'], [], false)
  | 'd' | 'i' =>
    match signedValue word with
    | (n, complaints) => (d.signed n, complaints, false)
  | 'o' | 'u' | 'x' | 'X' =>
    match unsignedValue word with
    | (n, complaints) => (d.unsigned n, complaints, false)
  | _ =>
    match floatValue word with
    | (x, complaints) => (d.floating x, complaints, false)

def kinds : List Char := "sbcdiouxXaAeEfFgG".toList

/-- Where a pass over a format is. -/
structure Pass where
  words : List Bytes
  output : Bytes
  complaints : List Bytes
  stopped : Bool
  failure : Option Bytes

namespace Pass

/-- The largest width or precision for which there is room. -/
def maxMeasure : Nat := Nat.pow 2 24

/-- The lowest 32 bits of a number, with a sign. -/
def measureOf (n : Int) : Int := n.bmod (Nat.pow 2 32)

def isTooLarge (n : Int) : Bool := maxMeasure < n.natAbs

/-- A width or precision that is written, or taken from the next word where a star
stands. -/
def measure (p : Pass) (text : Bytes) : Pass × Option Int × Bytes :=
  match text with
  | '*' :: cs =>
    match p.words with
    | [] => (p, some 0, cs)
    | w :: ws =>
      match signedValue w with
      | (n, complaints) => ({ p with words := ws, complaints := p.complaints ++ complaints }, some (measureOf n), cs)
  | _ =>
    let own := text.takeWhile fun c => c.isDigit || c == '*'
    (p, if own.isEmpty then none else some (measureOf (ofDigits 10 own : Nat)), text.drop own.length)

/-- Takes a directive, of which `text` is what stands behind its mark, and gives the
format behind it. -/
def directive (p : Pass) (text : Bytes) : Pass × Bytes :=
  let flags := text.takeWhile ("#-+ 0".toList.contains ·)
  match p.measure (text.drop flags.length) with
  | (p, width, behind) =>
    let (p, precision, rest) := match behind with
      | '.' :: cs =>
        match p.measure cs with
        | (p, n, cs) => (p, some (n.getD 0), cs)
      | cs => (p, none, cs)
    match rest with
    | [] => ({ p with failure := some "missing format character".toList }, [])
    | kind :: rest =>
      if !kinds.contains kind then
        let shown := '%' :: text.take (text.length - rest.length)
        ({ p with failure := some (shown ++ ": invalid directive".toList) }, [])
      else
        let numeric := !("sbc".toList.contains kind)
        let tooLarge := isTooLarge (width.getD 0) ||
          (numeric && precision.any fun n => 0 ≤ n && isTooLarge n)
        let width := if tooLarge then 0 else width.getD 0
        let precision := if tooLarge then none else precision
        let d : Directive := {
          flags := ⟨flags.contains '-' || width < 0, flags.contains '+', flags.contains ' ',
            flags.contains '0', flags.contains '#'⟩
          width := width.natAbs
          precision := precision.bind fun n => if n < 0 then none else some n.toNat
          kind := kind }
        let (word, words) := match p.words with
          | [] => (if numeric then ['0'] else [], [])
          | w :: ws => (if numeric && w.isEmpty then ['0'] else w, ws)
        match d.apply word with
        | (text, complaints, stopped) =>
          let p := { p with words := words, complaints := p.complaints ++ complaints }
          if tooLarge then ({ p with failure := some "xvsnprintf failed".toList }, [])
          else ({ p with output := p.output ++ text, stopped := stopped }, rest)

/-- Goes over a format once. -/
def run : Nat → Pass → Bytes → Pass
  | 0, p, _ => p
  | _ + 1, p, [] => p
  | n + 1, p, '\\' :: cs =>
    match escaped cs with
    | (c, k) => run n { p with output := p.output ++ [c] } (cs.drop k)
  | n + 1, p, '%' :: '%' :: cs => run n { p with output := p.output ++ ['%'] } cs
  | n + 1, p, '%' :: cs =>
    match p.directive cs with
    | (p, rest) => if p.stopped || p.failure.isSome then p else run n p rest
  | n + 1, p, c :: cs =>
    let plain := c :: cs.takeWhile fun c => c != '%' && c != '\\'
    run n { p with output := p.output ++ plain } ((c :: cs).drop plain.length)

end Pass

/-- Goes over a format as long as there are words that it takes. The outputs are in
reverse. -/
def printPasses (format : Bytes) : Nat → List Bytes → List Bytes → List Bytes → Printed
  | 0, _, outputs, complaints => ⟨outputs.reverse.flatten, complaints, none⟩
  | n + 1, words, outputs, complaints =>
    let p := Pass.run (format.length + 1) ⟨words, [], [], false, none⟩ format
    let outputs := p.output :: outputs
    let complaints := complaints ++ p.complaints
    if p.stopped || p.failure.isSome || p.words.isEmpty || p.words.length = words.length then
      ⟨outputs.reverse.flatten, complaints, p.failure⟩
    else printPasses format n p.words outputs complaints

/-- What a format gives for words. -/
def printed (format : Bytes) (words : List Bytes) : Printed :=
  printPasses format (words.length + 1) words [] []

end KeyAudit.Sandbox.Shell
