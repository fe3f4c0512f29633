/-
The options of `analyze` may stand in any order.

An option is written in one argument or in two (`Choice`), with any text that spells a value
of its kind (`Spells`): a value may hold an equals sign or look like an option. Reading the
options one by one is a fold over the choices (`readOptions_arguments`), since the value that
waits for its option to be settled is settled by whatever follows.

The fold keeps the account of what has been given (`Given.Holds`): a choice whose option is
new is taken in, and any other is a conflict (`Given.Holds.take`, and `Given.Holds.foldlM_take`
for all of them). The account does not mention the order, and determines what has been given
(`Given.Holds.unique`).

* `options_in_any_order` — options that are given once are read with exactly their values, in
  every order alike, and an option that is given twice is a conflict.
-/

import KeyAudit.Cli.Parse
import Mathlib.Data.List.Perm.Basic

namespace KeyAudit.Cli

/-! ### Values and their texts -/

/-- What an option can be given. -/
inductive Value where
  | path (path : Path)
  | preference (preference : Scanner.Preference)
  | limit (limit : UInt64)
  deriving DecidableEq, Repr

/-- The kinds of values. -/
inductive Kind where
  | path
  | preference
  | limit
  deriving DecidableEq, Repr

/-- The kind of value that an option takes. -/
def ValueOption.kind : ValueOption → Kind
  | .enMessages | .trMessages | .sourceRoot | .report | .rgPath => .path
  | .scanner => .preference
  | .maxUnused | .maxUsed => .limit

/-- The text spells a value of the kind: a path any text but the empty one, a preference its
word, and a limit its decimal digits, with any zeros in front and perhaps a plus sign. -/
inductive Spells (text : String) : Kind → Value → Prop
  | path (nonempty : text ≠ "") : Spells text .path (.path ⟨text⟩)
  | preference {p : Scanner.Preference} (word : text = p.word) :
      Spells text .preference (.preference p)
  | limit {n : UInt64} {sign digits : List Char} (plus : sign = [] ∨ sign = ['+'])
      (nonempty : digits ≠ []) (isDigit : digits.all Char.isDigit = true)
      (number : Nat.ofDigitChars 10 digits 0 = n.toNat) (spelled : text.toList = sign ++ digits) :
      Spells text .limit (.limit n)

/-- The usual way to write a limit. -/
theorem spells_repr (n : UInt64) : Spells (Nat.repr n.toNat) .limit (.limit n) := by
  refine @Spells.limit _ n [] (Nat.toDigits 10 n.toNat) (.inl rfl) Nat.toDigits_ne_nil ?_ ?_ ?_
  · exact List.all_eq_true.mpr fun c hc => Nat.isDigit_of_mem_toDigits (by decide) (by decide) hc
  · exact Nat.ofDigitChars_toDigits (by decide) (by decide)
  · simp

section Reading

variable {text : String}

theorem pathValue_of_ne (h : text ≠ "") : pathValue text = .ok ⟨text⟩ := by
  have hempty : text.isEmpty = false := by simpa using h
  rw [pathValue, hempty, if_neg Bool.false_ne_true]

theorem scannerValue_word (p : Scanner.Preference) : scannerValue p.word = .ok p := by
  rw [scannerValue, Scanner.Preference.ofWord?_word]

theorem foldl_digits (digits : List Char) (n : Nat) :
    digits.foldl (fun n (c : Char) => n * 10 + (c.toNat - 48)) n =
      Nat.ofDigitChars 10 digits n := by
  induction digits generalizing n with
  | nil => rfl
  | cons c cs ih =>
      rw [List.foldl_cons, ih, Nat.ofDigitChars_cons, Nat.mul_comm]
      rfl

/-- A plus sign in front of digits makes no difference. -/
theorem limit?_of_digits {sign digits : List Char} (plus : sign = [] ∨ sign = ['+'])
    (nonempty : digits ≠ []) (isDigit : digits.all Char.isDigit = true)
    (spelled : text.toList = sign ++ digits) :
    limit? text = if Nat.ofDigitChars 10 digits 0 < Nat.pow 2 64 then
      some (Nat.ofDigitChars 10 digits 0).toUInt64 else none := by
  have hempty : digits.isEmpty = false := List.isEmpty_eq_false_iff.mpr nonempty
  have hread : limit? text = if digits.isEmpty || !digits.all Char.isDigit then none
      else if digits.foldl (fun n (c : Char) => n * 10 + (c.toNat - 48)) 0 < Nat.pow 2 64 then
        some (digits.foldl (fun n (c : Char) => n * 10 + (c.toNat - 48)) 0).toUInt64
      else none := by
    rw [limit?, spelled]
    rcases plus with rfl | rfl
    · rw [List.nil_append]
      split
      · have hplus := List.all_eq_true.mp isDigit '+' List.mem_cons_self
        exact absurd hplus (by decide)
      · rfl
    · rfl
  rw [hread, isDigit, hempty, foldl_digits]
  rfl

theorem limitValue_of_spells {n : UInt64} (h : Spells text .limit (.limit n)) :
    limitValue text = .ok n := by
  cases h with
  | limit plus nonempty isDigit number spelled =>
      have hfits : n.toNat < Nat.pow 2 64 := n.toNat_lt
      rw [limitValue, limit?_of_digits plus nonempty isDigit spelled, number, if_pos hfits]
      exact congrArg Except.ok UInt64.ofNat_toNat

end Reading

/-! ### What has been given -/

/-- The value of an option on the command line. -/
def Overrides.value? (o : Overrides) : ValueOption → Option Value
  | .enMessages => o.enMessages.map .path
  | .trMessages => o.trMessages.map .path
  | .sourceRoot => o.sourceRoot.map .path
  | .report => o.report.map .path
  | .scanner => o.scanner.map .preference
  | .maxUnused => o.maxUnused.map .limit
  | .maxUsed => o.maxUsed.map .limit
  | .rgPath => none

namespace Given

/-- The value that an option has been given. -/
def value? (g : Given) : ValueOption → Option Value
  | .rgPath => g.rgPath.map .path
  | o => g.overrides.value? o

theorem has_eq (g : Given) (o : ValueOption) : g.has o = (g.value? o).isSome := by
  cases o <;> exact Option.isSome_map.symm

/-- The values and the wish for more output are all that has been given. -/
theorem ext_value? {g g' : Given} (value : ∀ o, g.value? o = g'.value? o)
    (verbose : g.verbose = g'.verbose) : g = g' := by
  have hpath {p p' : Option Path} (h : p.map Value.path = p'.map Value.path) : p = p' :=
    Option.map_injective (fun _ _ heq => Value.path.inj heq) h
  have hpreference {p p' : Option Scanner.Preference}
      (h : p.map Value.preference = p'.map Value.preference) : p = p' :=
    Option.map_injective (fun _ _ heq => Value.preference.inj heq) h
  have hlimit {n n' : Option UInt64} (h : n.map Value.limit = n'.map Value.limit) : n = n' :=
    Option.map_injective (fun _ _ heq => Value.limit.inj heq) h
  rcases g with ⟨⟨en, tr, root, report, scanner, unused, used⟩, rg, v⟩
  rcases g' with ⟨⟨en', tr', root', report', scanner', unused', used'⟩, rg', v'⟩
  obtain rfl : en = en' := hpath (value .enMessages)
  obtain rfl : tr = tr' := hpath (value .trMessages)
  obtain rfl : root = root' := hpath (value .sourceRoot)
  obtain rfl : report = report' := hpath (value .report)
  obtain rfl : scanner = scanner' := hpreference (value .scanner)
  obtain rfl : unused = unused' := hlimit (value .maxUnused)
  obtain rfl : used = used' := hlimit (value .maxUsed)
  obtain rfl : rg = rg' := hpath (value .rgPath)
  cases verbose
  rfl

/-- **A text that spells a value is read as this value**, and no other option is touched. -/
theorem put_of_spells {text : String} {o : ValueOption} {v : Value} (h : Spells text o.kind v)
    (g : Given) : ∃ g', g.put text o = .ok g' ∧ g'.verbose = g.verbose ∧
      ∀ other, g'.value? other = if other = o then some v else g.value? other := by
  have hvalue : (∃ p, o.kind = .path ∧ pathValue text = .ok p ∧ v = .path p) ∨
      (∃ p, o.kind = .preference ∧ scannerValue text = .ok p ∧ v = .preference p) ∨
      ∃ n, o.kind = .limit ∧ limitValue text = .ok n ∧ v = .limit n := by
    generalize o.kind = k at h
    cases k with
    | path =>
        cases h with
        | path nonempty => exact .inl ⟨_, rfl, pathValue_of_ne nonempty, rfl⟩
    | preference =>
        cases h with
        | preference word => exact .inr (.inl ⟨_, rfl, word ▸ scannerValue_word _, rfl⟩)
    | limit =>
        obtain ⟨n, rfl⟩ : ∃ n, v = .limit n := by
          cases h
          exact ⟨_, rfl⟩
        exact .inr (.inr ⟨n, rfl, limitValue_of_spells h, rfl⟩)
  rcases hvalue with ⟨p, hkind, hread, rfl⟩ | ⟨p, hkind, hread, rfl⟩ | ⟨n, hkind, hread, rfl⟩
  all_goals cases o <;> cases hkind
  all_goals
    rw [put, hread]
    refine ⟨_, rfl, rfl, ?_⟩
    intro other
    cases other <;> rfl

end Given

/-! ### Options as they are written -/

/-- An option with a value of its kind, and the text that spells it. -/
structure Assignment where
  option : ValueOption
  value : Value
  text : String
  spells : Spells text option.kind value

/-- An option as it is written on the command line. -/
inductive Choice where
  /-- The name and the value are one argument. -/
  | joined (a : Assignment)
  /-- The value is an argument of its own, so it does not begin with a dash. -/
  | apart (a : Assignment) (plain : a.text.toList.head? ≠ some '-')
  /-- More output, by its letter. -/
  | letter
  /-- More output, by its name. -/
  | flag

namespace Choice

/-- The arguments that make up the option. -/
def arguments : Choice → List String
  | joined a => ["--" ++ a.option.name ++ "=" ++ a.text]
  | apart a _ => ["--" ++ a.option.name, a.text]
  | letter => ["-v"]
  | flag => ["--verbose"]

/-- The value that is given, unless more output is asked for. -/
def assignment? : Choice → Option Assignment
  | joined a => some a
  | apart a _ => some a
  | letter => none
  | flag => none

/-- Which option it is, or none for more output. -/
def slot (c : Choice) : Option ValueOption := c.assignment?.map Assignment.option

theorem slot_eq_some {c : Choice} {a : Assignment} (h : c.assignment? = some a) :
    c.slot = some a.option := by
  rw [slot, h, Option.map_some]

theorem slot_eq_none {c : Choice} (h : c.assignment? = none) : c.slot = none := by
  rw [slot, h, Option.map_none]

theorem exists_assignment {choices : List Choice} {o : ValueOption}
    (h : some o ∈ choices.map slot) :
    ∃ c ∈ choices, ∃ a, c.assignment? = some a ∧ a.option = o := by
  obtain ⟨c, hc, hslot⟩ := List.mem_map.mp h
  exact ⟨c, hc, Option.map_eq_some_iff.mp hslot⟩

end Choice

/-- Takes in one option. -/
def Given.take (g : Given) (c : Choice) : Except Refusal Given :=
  match c.assignment? with
  | some a => g.set a.option a.text
  | none => g.setVerbose

/-! ### Arguments -/

theorem cutAtEquals_of_not_mem {name : List Char} (h : '=' ∉ name) :
    cutAtEquals name = (name, none) := by
  induction name with
  | nil => rfl
  | cons c name ih =>
      rw [List.mem_cons, not_or] at h
      rw [cutAtEquals, if_neg (Ne.symm h.1), ih h.2]

/-- A text is cut at the first equals sign, whatever follows. -/
theorem cutAtEquals_append {name : List Char} (h : '=' ∉ name) (value : List Char) :
    cutAtEquals (name ++ '=' :: value) = (name, some value) := by
  induction name with
  | nil => rfl
  | cons c name ih =>
      rw [List.mem_cons, not_or] at h
      rw [List.cons_append, cutAtEquals, if_neg (Ne.symm h.1), ih h.2]

theorem ofArgument_dashes {arg : String} {s : List Char} (hs : s ≠ [])
    (h : arg.toList = '-' :: '-' :: s) :
    Token.ofArgument arg = .long (String.ofList (cutAtEquals s).1)
      ((cutAtEquals s).2.map String.ofList) := by
  cases s with
  | nil => exact absurd rfl hs
  | cons c s =>
      rw [Token.ofArgument, h]
      rfl

theorem ofArgument_plain {arg : String} (h : arg.toList.head? ≠ some '-') :
    Token.ofArgument arg = .plain arg := by
  unfold Token.ofArgument
  split
  · rename_i heq
    exact absurd (congrArg List.head? heq) h
  · rename_i heq
    exact absurd (congrArg List.head? heq) h
  · rename_i heq
    exact absurd (congrArg List.head? heq) h
  · rfl

theorem equals_not_mem_name (o : ValueOption) : '=' ∉ o.name.toList := by
  cases o <;> decide

theorem name_ne_nil (o : ValueOption) : o.name.toList ≠ [] := by
  cases o <;> decide

theorem ofArgument_name (o : ValueOption) :
    Token.ofArgument ("--" ++ o.name) = .long o.name none := by
  have hchars : ("--" ++ o.name).toList = '-' :: '-' :: o.name.toList := String.toList_append
  rw [ofArgument_dashes (name_ne_nil o) hchars, cutAtEquals_of_not_mem (equals_not_mem_name o),
    String.ofList_toList]
  rfl

theorem ofArgument_joined (o : ValueOption) (text : String) :
    Token.ofArgument ("--" ++ o.name ++ "=" ++ text) = .long o.name (some text) := by
  have hchars : ("--" ++ o.name ++ "=" ++ text).toList =
      '-' :: '-' :: (o.name.toList ++ '=' :: text.toList) := by
    simp [String.toList_append]
  rw [ofArgument_dashes (by simp) hchars, cutAtEquals_append (equals_not_mem_name o),
    String.ofList_toList, Option.map_some, String.ofList_toList]

/-! ### Reading the choices -/

section Reading

variable {arg : String} {p : Progress}

theorem readOptions_long {name : String} {value : Option String}
    (h : Token.ofArgument arg = .long name value) (args : List String) :
    readOptions (arg :: args) p = readLong name value p >>= readOptions args := by
  rw [readOptions, h]
  dsimp only
  cases readLong name value p <;> rfl

theorem readOptions_short {letters : List Char} (h : Token.ofArgument arg = .short letters)
    (args : List String) :
    readOptions (arg :: args) p = readLetters letters p >>= readOptions args := by
  rw [readOptions, h]
  dsimp only
  cases readLetters letters p <;> rfl

theorem readOptions_plain {text : String} (h : Token.ofArgument arg = .plain text)
    (args : List String) :
    readOptions (arg :: args) p = readPlain text p >>= readOptions args := by
  rw [readOptions, h]
  dsimp only
  cases readPlain text p <;> rfl

/-- What takes effect at once does so after what is being read, and nothing is being read
afterwards. -/
theorem readFlag_bind {α : Type} (act : Given → Except Refusal Given)
    (f : Progress → Except Refusal α) :
    readFlag p act >>= f = p.settle >>= fun g => act g >>= fun g' => f ⟨g', none⟩ := by
  rw [readFlag]
  cases p.settle with
  | error e => rfl
  | ok g =>
      change _ = act g >>= fun g' => f ⟨g', none⟩
      dsimp only
      cases act g <;> rfl

theorem readLong_joined (o : ValueOption) (text : String) :
    readLong o.name (some text) p = readFlag p fun g => g.set o text := by
  rw [readLong, ValueOption.ofName?_name]
  rfl

theorem readLong_apart (o : ValueOption) :
    readLong o.name none p = p.settle >>= fun g => .ok ⟨g, some ⟨o, none⟩⟩ := by
  rw [readLong, ValueOption.ofName?_name]
  cases p.settle <;> rfl

theorem readLetters_v : readLetters ['v'] p = readFlag p Given.setVerbose := by
  have hact : letterAct? 'v' = some Given.setVerbose := rfl
  simp only [readLetters, hact]
  cases readFlag p Given.setVerbose <;> rfl

/-- **Options are read one by one.** Whatever is being read when they begin is settled first. -/
theorem readOptions_arguments (choices : List Choice) (p : Progress) :
    readOptions (choices.flatMap Choice.arguments) p =
      p.settle >>= choices.foldlM Given.take := by
  induction choices generalizing p with
  | nil =>
      change p.settle = _
      cases p.settle <;> rfl
  | cons c choices ih =>
      have honce (act : Given → Except Refusal Given) :
          readFlag p act >>= readOptions (choices.flatMap Choice.arguments) =
            p.settle >>= fun g => act g >>= choices.foldlM Given.take := by
        have hnone (g : Given) : readOptions (choices.flatMap Choice.arguments) ⟨g, none⟩ =
            choices.foldlM Given.take g := ih ⟨g, none⟩
        rw [readFlag_bind]
        simp only [hnone]
      simp only [List.flatMap_cons, List.foldlM_cons]
      cases c with
      | joined a =>
          change readOptions (_ :: choices.flatMap Choice.arguments) p = _
          rw [readOptions_long (ofArgument_joined a.option a.text), readLong_joined, honce]
          rfl
      | apart a plain =>
          change readOptions (_ :: _ :: choices.flatMap Choice.arguments) p = _
          rw [readOptions_long (ofArgument_name a.option), readLong_apart]
          cases p.settle with
          | error e => rfl
          | ok g =>
              -- The value waits; what follows settles it.
              change readOptions (_ :: _) ⟨g, some ⟨a.option, none⟩⟩ = _
              rw [readOptions_plain (ofArgument_plain plain)]
              exact ih ⟨g, some ⟨a.option, some a.text⟩⟩
      | letter =>
          have htoken : Token.ofArgument "-v" = .short ['v'] := by decide
          change readOptions (_ :: choices.flatMap Choice.arguments) p = _
          rw [readOptions_short htoken, readLetters_v, honce]
          rfl
      | flag =>
          have htoken : Token.ofArgument "--verbose" = .long "verbose" none := by decide
          have hlong : readLong "verbose" none p = readFlag p Given.setVerbose := rfl
          change readOptions (_ :: choices.flatMap Choice.arguments) p = _
          rw [readOptions_long htoken, hlong, honce]
          rfl

end Reading

/-! ### The account of what has been given -/

/-- What has been given is what the choices give, in whatever order they stand. -/
structure Given.Holds (g : Given) (choices : List Choice) : Prop where
  given : ∀ c ∈ choices, ∀ a, c.assignment? = some a → g.value? a.option = some a.value
  free : ∀ o, some o ∉ choices.map Choice.slot → g.value? o = none
  verbose : g.verbose = true ↔ none ∈ choices.map Choice.slot

namespace Given.Holds

variable {g g' : Given} {choices other : List Choice}

theorem start : Given.Holds {} [] where
  given := fun _ hc => absurd hc List.not_mem_nil
  free := fun o _ => by cases o <;> rfl
  verbose := by simp

theorem perm (h : g.Holds choices) (order : choices.Perm other) : g.Holds other where
  given := fun c hc => h.given c (order.mem_iff.mpr hc)
  free := fun o ho => h.free o fun hmem => ho ((order.map _).mem_iff.mp hmem)
  verbose := h.verbose.trans (order.map _).mem_iff

theorem value?_isSome_iff (h : g.Holds choices) (o : ValueOption) :
    (g.value? o).isSome = true ↔ some o ∈ choices.map Choice.slot := by
  constructor
  · intro hsome
    by_contra hfree
    rw [h.free o hfree] at hsome
    cases hsome
  · intro hmem
    obtain ⟨c, hc, a, ha, rfl⟩ := Choice.exists_assignment hmem
    rw [h.given c hc a ha]
    rfl

/-- **The choices determine what has been given.** -/
theorem unique (h : g.Holds choices) (h' : g'.Holds choices) : g = g' := by
  apply Given.ext_value?
  · intro o
    by_cases hmem : some o ∈ choices.map Choice.slot
    · obtain ⟨c, hc, a, ha, rfl⟩ := Choice.exists_assignment hmem
      rw [h.given c hc a ha, h'.given c hc a ha]
    · rw [h.free o hmem, h'.free o hmem]
  · exact Bool.eq_iff_iff.mpr (h.verbose.trans h'.verbose.symm)

/-- Asking for more output leaves the values as they are. -/
theorem ask {c : Choice} (h : g.Holds choices) (hc : c.assignment? = none) :
    Given.Holds { g with verbose := true } (choices ++ [c]) where
  given := by
    intro d hd a ha
    rcases List.mem_append.mp hd with hd | hd
    · exact h.given d hd a ha
    · rw [List.mem_singleton.mp hd, hc] at ha
      cases ha
  free := by
    intro o ho
    rw [List.map_append, List.mem_append, not_or] at ho
    exact h.free o ho.1
  verbose := by simp [Choice.slot_eq_none hc]

/-- One value more leaves the others as they are. -/
theorem assign {c : Choice} {a : Assignment} (h : g.Holds choices) (hc : c.assignment? = some a)
    (hnew : some a.option ∉ choices.map Choice.slot) (verbose : g'.verbose = g.verbose)
    (value : ∀ other, g'.value? other = if other = a.option then some a.value else g.value? other) :
    g'.Holds (choices ++ [c]) where
  given := by
    intro d hd b hb
    rcases List.mem_append.mp hd with hd | hd
    · have hother : b.option ≠ a.option := by
        intro heq
        apply hnew
        rw [← heq]
        exact List.mem_map.mpr ⟨d, hd, Choice.slot_eq_some hb⟩
      rw [value, if_neg hother]
      exact h.given d hd b hb
    · rw [List.mem_singleton.mp hd, hc] at hb
      cases hb
      rw [value, if_pos rfl]
  free := by
    intro o ho
    rw [List.map_append, List.mem_append, not_or, List.map_singleton, List.mem_singleton,
      Choice.slot_eq_some hc, Option.some.injEq] at ho
    rw [value, if_neg ho.2]
    exact h.free o ho.1
  verbose := by
    rw [verbose, h.verbose, List.map_append, List.mem_append, List.map_singleton,
      Choice.slot_eq_some hc]
    simp

/-- **One choice**: a conflict if its option has been given, and otherwise one more that has
been given. -/
theorem take (h : g.Holds choices) (c : Choice) :
    (c.slot ∈ choices.map Choice.slot → g.take c = .error .conflict) ∧
    (c.slot ∉ choices.map Choice.slot →
      ∃ g', g.take c = .ok g' ∧ g'.Holds (choices ++ [c])) := by
  cases hc : c.assignment? with
  | none =>
      simp only [Given.take, hc, Choice.slot_eq_none hc, Given.setVerbose]
      constructor
      · intro hmem
        rw [if_pos (h.verbose.mpr hmem)]
      · intro hnew
        rw [if_neg (mt h.verbose.mp hnew)]
        exact ⟨_, rfl, h.ask hc⟩
  | some a =>
      simp only [Given.take, hc, Choice.slot_eq_some hc, Given.set, Given.has_eq]
      constructor
      · intro hmem
        rw [if_pos ((h.value?_isSome_iff a.option).mpr hmem)]
      · intro hnew
        obtain ⟨g', hput, hverbose, hvalue⟩ := Given.put_of_spells a.spells g
        rw [if_neg (mt (h.value?_isSome_iff a.option).mp hnew)]
        exact ⟨g', hput, h.assign hc hnew hverbose hvalue⟩

/-- **All choices**: what is given once is taken in, and what is given twice is a conflict. -/
theorem foldlM_take (h : g.Holds choices) (distinct : (choices.map Choice.slot).Nodup)
    (rest : List Choice) :
    (((choices ++ rest).map Choice.slot).Nodup →
      ∃ g', rest.foldlM Given.take g = .ok g' ∧ g'.Holds (choices ++ rest)) ∧
    (¬ ((choices ++ rest).map Choice.slot).Nodup →
      rest.foldlM Given.take g = .error .conflict) := by
  induction rest generalizing g choices with
  | nil =>
      rw [List.append_nil]
      exact ⟨fun _ => ⟨g, rfl, h⟩, fun hdouble => absurd distinct hdouble⟩
  | cons c rest ih =>
      rw [List.foldlM_cons]
      by_cases hmem : c.slot ∈ choices.map Choice.slot
      · rw [(h.take c).1 hmem]
        refine ⟨fun hdistinct => ?_, fun _ => rfl⟩
        rw [List.map_append, List.nodup_append] at hdistinct
        exact absurd rfl (hdistinct.2.2 c.slot hmem c.slot List.mem_cons_self)
      · obtain ⟨g', htake, h'⟩ := (h.take c).2 hmem
        have hdistinct : ((choices ++ [c]).map Choice.slot).Nodup := by
          rw [List.map_append]
          refine List.nodup_append.mpr ⟨distinct, List.pairwise_singleton _ _, ?_⟩
          rintro s hs t ht rfl
          rw [List.map_singleton, List.mem_singleton] at ht
          exact hmem (ht ▸ hs)
        have hrest := ih h' hdistinct
        rw [List.append_cons, htake]
        exact hrest

end Given.Holds

/-- The options of a command line, as they are read. -/
theorem readOptions_choices (choices : List Choice) :
    ((choices.map Choice.slot).Nodup →
      ∃ g, readOptions (choices.flatMap Choice.arguments) {} = .ok g ∧ g.Holds choices) ∧
    (¬ (choices.map Choice.slot).Nodup →
      readOptions (choices.flatMap Choice.arguments) {} = .error .conflict) := by
  rw [readOptions_arguments]
  exact Given.Holds.start.foldlM_take List.nodup_nil choices

theorem readOptions_perm {choices other : List Choice} (order : choices.Perm other) :
    readOptions (other.flatMap Choice.arguments) {} =
      readOptions (choices.flatMap Choice.arguments) {} := by
  have hslots := order.map Choice.slot
  by_cases hdistinct : (choices.map Choice.slot).Nodup
  · obtain ⟨g, hread, h⟩ := (readOptions_choices choices).1 hdistinct
    obtain ⟨g', hread', h'⟩ := (readOptions_choices other).1 (hslots.nodup_iff.mp hdistinct)
    rw [hread, hread', (h.perm order).unique h']
  · rw [(readOptions_choices choices).2 hdistinct,
      (readOptions_choices other).2 (mt hslots.nodup_iff.mpr hdistinct)]

/-! ### The whole command line -/

/-- The value with which an option is in force. -/
def AnalyzeRequest.value? (r : AnalyzeRequest) : ValueOption → Option Value
  | .rgPath => some (.path r.rgPath)
  | o => r.overrides.value? o

/-- The program that the environment names, or else `rg`. -/
def programFrom (env : String → Option String) : Path :=
  ((env rgVariable).map Path.mk).getD ⟨"rg"⟩

/-- The value of an option that is not given: only the program to run has one. -/
def unset (env : String → Option String) : ValueOption → Option Value
  | .rgPath => some (.path (programFrom env))
  | _ => none

section Command

variable {env : String → Option String} {g : Given}

theorem rgPathFrom_eq (h : env rgVariable ≠ some "" ∨ (g.value? .rgPath).isSome = true) :
    rgPathFrom g env = .ok (g.rgPath.getD (programFrom env)) := by
  rw [rgPathFrom, programFrom]
  cases hgiven : g.rgPath with
  | some p => rfl
  | none =>
      cases henv : env rgVariable with
      | none => rfl
      | some text =>
          have hne : text ≠ "" := by
            rintro rfl
            rcases h with h | h
            · exact h henv
            · rw [Given.value?, hgiven] at h
              cases h
          exact pathValue_of_ne hne

theorem rgPathFrom_empty (henv : env rgVariable = some "") (h : g.value? .rgPath = none) :
    rgPathFrom g env = .error .invalidValue := by
  have hgiven : g.rgPath = none := Option.map_eq_none_iff.mp h
  rw [rgPathFrom, hgiven, henv]
  rfl

theorem value?_request (env : String → Option String) (g : Given) (o : ValueOption) :
    AnalyzeRequest.value? ⟨g.overrides, g.rgPath.getD (programFrom env), g.verbose⟩ o =
      (g.value? o).or (unset env o) := by
  cases o with
  | rgPath =>
      change some _ = (g.rgPath.map Value.path).or _
      cases g.rgPath <;> rfl
  | _ => exact (Option.or_none).symm

/-- **The options of `analyze` in any order.** Take any options, each written in one argument
or in two with any text for a value of its kind, and more output asked for by letter or by
name.

If none is given twice, each is in force with exactly its value, those that are not given have
none, and the program to run is then the one that the environment names, or `rg`. Only an empty
name there is refused, if no option replaces it. If one is given twice, with the same or another
value, this is a conflict. The order makes no difference. -/
theorem options_in_any_order (env : String → Option String) (choices : List Choice) :
    ((choices.map Choice.slot).Nodup →
      env rgVariable ≠ some "" ∨ some .rgPath ∈ choices.map Choice.slot →
      ∃ r, parse env ("analyze" :: choices.flatMap Choice.arguments) = .ok (some (.analyze r)) ∧
        (∀ c ∈ choices, ∀ a, c.assignment? = some a → r.value? a.option = some a.value) ∧
        (∀ o, some o ∉ choices.map Choice.slot → r.value? o = unset env o) ∧
        (r.verbose = true ↔ none ∈ choices.map Choice.slot)) ∧
    ((choices.map Choice.slot).Nodup → env rgVariable = some "" →
      some .rgPath ∉ choices.map Choice.slot →
      parse env ("analyze" :: choices.flatMap Choice.arguments) = .error .invalidValue) ∧
    (¬ (choices.map Choice.slot).Nodup →
      parse env ("analyze" :: choices.flatMap Choice.arguments) = .error .conflict) ∧
    ∀ other, choices.Perm other →
      parse env ("analyze" :: other.flatMap Choice.arguments) =
        parse env ("analyze" :: choices.flatMap Choice.arguments) := by
  obtain ⟨hdistinct, hdouble⟩ := readOptions_choices choices
  refine ⟨?_, ?_, ?_, ?_⟩
  · intro distinct program
    obtain ⟨g, hread, h⟩ := hdistinct distinct
    have hrg := rgPathFrom_eq (program.imp_right (h.value?_isSome_iff .rgPath).mpr)
    refine ⟨⟨g.overrides, g.rgPath.getD (programFrom env), g.verbose⟩, ?_, ?_, ?_, h.verbose⟩
    · simp only [parse, readAnalyze, hread, hrg]
    · intro c hc a ha
      rw [value?_request, h.given c hc a ha, Option.some_or]
    · intro o ho
      rw [value?_request, h.free o ho, Option.none_or]
  · intro distinct henv hfree
    obtain ⟨g, hread, h⟩ := hdistinct distinct
    simp only [parse, readAnalyze, hread, rgPathFrom_empty henv (h.free .rgPath hfree)]
  · intro double
    simp only [parse, readAnalyze, hdouble double]
  · intro other order
    simp only [parse, readAnalyze, readOptions_perm order]

end Command

/-! ### A command line with values that look like options -/

/-- A report whose path holds another option, and as many keys as fit. -/
def sampleChoices : List Choice :=
  [.joined ⟨.report, .path ⟨"--max-used=3 a=b"⟩, "--max-used=3 a=b", .path (by decide)⟩,
    .letter,
    .apart ⟨.scanner, .preference .walk, "walk", .preference rfl⟩ (by decide),
    .joined ⟨.maxUnused, .limit 18446744073709551615, "018446744073709551615",
      .limit (.inl rfl) (by decide) (by decide) (by decide) rfl⟩]

/-- The same, and the keys once more. -/
def doubleChoices : List Choice :=
  sampleChoices ++ [.joined ⟨.maxUnused, .limit 7, "7", spells_repr 7⟩]

theorem options_in_sampleChoices :
    (∃ r, parse (fun _ => some "/opt/rg")
        ["analyze", "--report=--max-used=3 a=b", "-v", "--scanner", "walk",
          "--max-unused=018446744073709551615"] = .ok (some (.analyze r)) ∧
      r.value? .report = some (.path ⟨"--max-used=3 a=b"⟩) ∧
      r.value? .maxUnused = some (.limit 18446744073709551615) ∧
      r.value? .maxUsed = none ∧ r.rgPath = ⟨"/opt/rg"⟩ ∧ r.verbose = true) ∧
    parse (fun _ => some "") ("analyze" :: sampleChoices.flatMap Choice.arguments) =
      .error .invalidValue ∧
    parse (fun _ => none) ("analyze" :: doubleChoices.flatMap Choice.arguments) =
      .error .conflict := by
  have hdistinct : (sampleChoices.map Choice.slot).Nodup := by decide
  have hdouble : ¬ (doubleChoices.map Choice.slot).Nodup := by decide
  have hprogram : some .rgPath ∉ sampleChoices.map Choice.slot := by decide
  refine ⟨?_, ?_, ?_⟩
  · obtain ⟨r, hparse, hvalue, hunset, hverbose⟩ :=
      (options_in_any_order (fun _ => some "/opt/rg") sampleChoices).1 hdistinct (by decide)
    refine ⟨r, hparse, ?_, ?_, ?_, ?_, ?_⟩
    · exact hvalue sampleChoices[0] (List.getElem_mem _) _ rfl
    · exact hvalue sampleChoices[3] (List.getElem_mem _) _ rfl
    · exact hunset .maxUsed (by decide)
    · have hrg := hunset .rgPath hprogram
      exact Value.path.inj (Option.some.inj hrg)
    · exact hverbose.mpr (by decide)
  · exact (options_in_any_order _ sampleChoices).2.1 hdistinct rfl hprogram
  · exact (options_in_any_order _ doubleChoices).2.2.1 hdouble

end KeyAudit.Cli
