/-
Reading a command line.

Options may stand in any order, each at most once, as `--name value` or
`--name=value`. The value in the next argument waits until the option is settled
(`Progress.settle`), at the next option or at the end; so an argument that fits
nowhere is noticed before a bad value that stands in front of it.

Arguments are texts. One whose bytes are not UTF-8 can only be the value of a path
option, where it is taken as it is; such command lines are left out.
-/

import KeyAudit.Cli.Arguments

namespace KeyAudit.Cli

/-! ### Values -/

/-- A natural number of 64 bits, perhaps after a plus sign. -/
def limit? (s : String) : Option UInt64 :=
  let digits := match s.toList with
    | '+' :: ds => ds
    | ds => ds
  if digits.isEmpty || !digits.all Char.isDigit then none
  else
    let n : Nat := digits.foldl (fun n c => n * 10 + (c.toNat - 48)) 0
    if n < Nat.pow 2 64 then some n.toUInt64 else none

/-- A path that is not empty. -/
def pathValue (s : String) : Except Refusal Path :=
  if s.isEmpty then .error .invalidValue else .ok ⟨s⟩

def scannerValue (s : String) : Except Refusal Scanner.Preference :=
  match Scanner.Preference.ofWord? s with
  | some p => .ok p
  | none => .error .invalidValue

def limitValue (s : String) : Except Refusal UInt64 :=
  match limit? s with
  | some n => .ok n
  | none => .error .malformedNumber

/-! ### Options given so far -/

/-- What has been given. -/
structure Given where
  overrides : Overrides := {}
  rgPath : Option Path := none
  verbose : Bool := false
  deriving DecidableEq, Repr

namespace Given

/-- Has the option been given? -/
def has (g : Given) : ValueOption → Bool
  | .enMessages => g.overrides.enMessages.isSome
  | .trMessages => g.overrides.trMessages.isSome
  | .sourceRoot => g.overrides.sourceRoot.isSome
  | .report => g.overrides.report.isSome
  | .scanner => g.overrides.scanner.isSome
  | .maxUnused => g.overrides.maxUnused.isSome
  | .maxUsed => g.overrides.maxUsed.isSome
  | .rgPath => g.rgPath.isSome

/-- Gives the option this value, if it is a value of its kind. -/
def put (g : Given) (value : String) : ValueOption → Except Refusal Given
  | .enMessages => (pathValue value).map fun v =>
      { g with overrides := { g.overrides with enMessages := some v } }
  | .trMessages => (pathValue value).map fun v =>
      { g with overrides := { g.overrides with trMessages := some v } }
  | .sourceRoot => (pathValue value).map fun v =>
      { g with overrides := { g.overrides with sourceRoot := some v } }
  | .report => (pathValue value).map fun v =>
      { g with overrides := { g.overrides with report := some v } }
  | .scanner => (scannerValue value).map fun v =>
      { g with overrides := { g.overrides with scanner := some v } }
  | .maxUnused => (limitValue value).map fun v =>
      { g with overrides := { g.overrides with maxUnused := some v } }
  | .maxUsed => (limitValue value).map fun v =>
      { g with overrides := { g.overrides with maxUsed := some v } }
  | .rgPath => (pathValue value).map fun v => { g with rgPath := some v }

/-- Gives an option a value for the first time. -/
def set (g : Given) (o : ValueOption) (value : String) : Except Refusal Given :=
  if g.has o then .error .conflict else g.put value o

/-- Asks for more output, for the first time. -/
def setVerbose (g : Given) : Except Refusal Given :=
  if g.verbose then .error .conflict else .ok { g with verbose := true }

end Given

/-! ### Arguments -/

/-- What one argument is, by its dashes. -/
inductive Token where
  /-- Two dashes alone: no options follow. -/
  | endOfOptions
  /-- A name behind two dashes, perhaps with a value. -/
  | long (name : String) (value : Option String)
  /-- Letters behind one dash. -/
  | short (letters : List Char)
  | plain (text : String)
  deriving DecidableEq, Repr

/-- Cuts a text at its first equals sign. -/
def cutAtEquals : List Char → List Char × Option (List Char)
  | [] => ([], none)
  | c :: s => if c = '=' then ([], some s) else
    match cutAtEquals s with
    | (name, value) => (c :: name, value)

/-- The kind of an argument. -/
def Token.ofArgument (arg : String) : Token :=
  match arg.toList with
  | ['-', '-'] => .endOfOptions
  | '-' :: '-' :: s =>
    match cutAtEquals s with
    | (name, value) => .long (String.ofList name) (value.map String.ofList)
  | '-' :: c :: s => .short (c :: s)
  | _ => .plain arg

/-- An option that is being read: it and its value, once that has come. -/
structure Pending where
  option : ValueOption
  value : Option String
  deriving DecidableEq, Repr

/-- How far the options of `analyze` have been read. -/
structure Progress where
  given : Given := {}
  pending : Option Pending := none
  deriving DecidableEq, Repr

/-- Takes in the option that is being read. -/
def Progress.settle (p : Progress) : Except Refusal Given :=
  match p.pending with
  | none => .ok p.given
  | some ⟨_, none⟩ => .error .invalidValue
  | some ⟨o, some v⟩ => p.given.set o v

/-- Takes in an option that has no value. -/
def readFlag (p : Progress) (act : Given → Except Refusal Given) : Except Refusal Progress :=
  match p.settle with
  | .error e => .error e
  | .ok g =>
    match act g with
    | .error e => .error e
    | .ok g' => .ok ⟨g', none⟩

/-- What a letter behind one dash does. -/
def letterAct? : Char → Option (Given → Except Refusal Given)
  | 'v' => some Given.setVerbose
  | 'h' => some fun _ => .error .help
  | _ => none

/-- Takes in letters behind one dash. -/
def readLetters : List Char → Progress → Except Refusal Progress
  | [], p => .ok p
  | c :: cs, p =>
    match letterAct? c with
    | none => .error .unknownArgument
    | some act =>
      match readFlag p act with
      | .error e => .error e
      | .ok p' => readLetters cs p'

/-- What a name that takes no value does. -/
def flagAct? : String → Option (Given → Except Refusal Given)
  | "verbose" => some Given.setVerbose
  | "help" => some fun _ => .error .help
  | _ => none

/-- Takes in a name behind two dashes. -/
def readLong (name : String) (value : Option String) (p : Progress) : Except Refusal Progress :=
  match ValueOption.ofName? name with
  | some o =>
    match p.settle with
    | .error e => .error e
    | .ok g =>
      match value with
      | none => .ok ⟨g, some ⟨o, none⟩⟩
      | some v =>
        match g.set o v with
        | .error e => .error e
        | .ok g' => .ok ⟨g', none⟩
  | none =>
    match flagAct? name with
    | none => .error .unknownArgument
    | some act => if value.isSome then .error .unwantedValue else readFlag p act

/-- Takes in an argument without dashes: the value of the option that waits for
one. -/
def readPlain (text : String) (p : Progress) : Except Refusal Progress :=
  match p.pending with
  | some ⟨o, none⟩ => .ok { p with pending := some ⟨o, some text⟩ }
  | _ => .error .unknownArgument

/-- Takes in the arguments of `analyze`. -/
def readOptions : List String → Progress → Except Refusal Given
  | [], p => p.settle
  | arg :: args, p =>
    match Token.ofArgument arg with
    | .endOfOptions => if args.isEmpty then p.settle else .error .unknownArgument
    | .long name value =>
      match readLong name value p with
      | .error e => .error e
      | .ok p' => readOptions args p'
    | .short letters =>
      match readLetters letters p with
      | .error e => .error e
      | .ok p' => readOptions args p'
    | .plain text =>
      match readPlain text p with
      | .error e => .error e
      | .ok p' => readOptions args p'

/-! ### Commands -/

/-- The variable that names the program if no option does. -/
def rgVariable : String := "UNUSED_I18N_RG"

/-- The program that runs if neither an option nor the environment names one. -/
def defaultRg : Path := ⟨"rg"⟩

/-- The program that runs. -/
def rgPathFrom (g : Given) (env : String → Option String) : Except Refusal Path :=
  match g.rgPath with
  | some p => .ok p
  | none =>
    match env rgVariable with
    | some v => pathValue v
    | none => .ok defaultRg

/-- Reads the arguments of `analyze`. -/
def readAnalyze (env : String → Option String) (args : List String) :
    Except Refusal AnalyzeRequest :=
  match readOptions args {} with
  | .error e => .error e
  | .ok g =>
    match rgPathFrom g env with
    | .error e => .error e
    | .ok rg => .ok ⟨g.overrides, rg, g.verbose⟩

/-- Does the argument ask for help? Gives the refusal it leads to, if it is an
option at all. -/
def refusalOf (arg : String) (flags : List (Char × String × Refusal)) : Refusal :=
  match Token.ofArgument arg with
  | .short (c :: _) =>
    match flags.find? fun f => f.1 == c with
    | some f => f.2.2
    | none => .unknownArgument
  | .long name value =>
    match flags.find? fun f => f.2.1 == name with
    | some f => if value.isSome then .unwantedValue else f.2.2
    | none => .unknownArgument
  | _ => .unknownArgument

/-- Asks for help. -/
def helpFlag : Char × String × Refusal := ('h', "help", .help)

/-- Asks for the version. -/
def versionFlag : Char × String × Refusal := ('V', "version", .version)

/-- Reads the arguments of `init`, which takes none. -/
def readInit : List String → Except Refusal Unit
  | [] => .ok ()
  | ["--"] => .ok ()
  | arg :: _ => .error (refusalOf arg [helpFlag])

/-- The names of the commands. -/
def commandNames : List String := ["analyze", "init", "help"]

/-- Asking for help about one command, or about all. -/
def readHelp : List String → Refusal
  | [] => .help
  | [name] => if name ∈ commandNames then .help else .unknownCommand
  | _ => .unknownCommand

/-- Reads a command line, without the name of the program. No argument is no
command. -/
def parse (env : String → Option String) : List String → Except Refusal (Option Command)
  | [] => .ok none
  | "analyze" :: args =>
    match readAnalyze env args with
    | .error e => .error e
    | .ok r => .ok (some (.analyze r))
  | "init" :: args =>
    match readInit args with
    | .error e => .error e
    | .ok _ => .ok (some .init)
  | "help" :: args => .error (readHelp args)
  | arg :: args =>
    match Token.ofArgument arg with
    | .plain _ => .error .unknownCommand
    | .endOfOptions =>
      match args with
      | [] => .ok none
      | name :: _ => .error (if name ∈ commandNames then .unknownArgument else .unknownCommand)
    | _ => .error (refusalOf arg [helpFlag, versionFlag])

end KeyAudit.Cli
