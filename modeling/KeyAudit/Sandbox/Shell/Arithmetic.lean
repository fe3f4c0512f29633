/-
Arithmetic in scripts: 64-bit integers, variables, and operators with the ranks of C.

An expression is evaluated as it is read. The part of it that a condition skips is read
without effect (`live` is false). Variables that the expression assigns are kept in
order, for the script to set.
-/

import KeyAudit.Sandbox.Shell.Number

namespace KeyAudit.Sandbox.Shell.Arithmetic

/-! ### Tokens -/

inductive Token where
  | number (n : Int)
  | variable (name : Bytes)
  | operator (text : String)
  /-- No token of the language. -/
  | unknown
  deriving DecidableEq, Repr

/-- The operators, longer ones first. -/
def operators : List String :=
  ["<<=", ">>=", "==", "!=", "<=", ">=", "&&", "||", "<<", ">>", "+=", "-=", "*=", "/=", "%=",
    "&=", "|=", "^=", "=", "<", ">", "+", "-", "*", "/", "%", "&", "|", "^", "!", "~", "?", ":",
    "(", ")"]

/-- The tokens of an expression. -/
def tokens : Nat → Bytes → List Token
  | 0, _ => []
  | _ + 1, [] => []
  | n + 1, c :: cs =>
    if isBlank c then tokens n cs
    else if c.isDigit then
      match Numeral.read? 0 (c :: cs) with
      | some m => .number m.signed :: tokens n m.rest
      | none => [.unknown]
    else if isNameStart c then
      .variable (c :: cs.takeWhile isNameChar) :: tokens n (cs.dropWhile isNameChar)
    else
      match operators.find? fun o => o.toList.isPrefixOf (c :: cs) with
      | some o => .operator o :: tokens n ((c :: cs).drop o.length)
      | none => [.unknown]

/-! ### Evaluation -/

/-- Why an expression has no value. -/
inductive Failure where
  /-- The expression is not well formed, or divides by zero. -/
  | expression (message : String)
  /-- A variable holds no number. -/
  | value (text : Bytes)
  /-- The least number was divided by -1, which ends the process. -/
  | trap

/-- The signal for a process that a calculation ends. -/
def trapSignal : Nat := 8

structure Calculation where
  tokens : List Token
  /-- The variables that were assigned, the last one first. -/
  assigned : List (Bytes × Int)

abbrev Calculator := ExceptT Failure (StateM Calculation)

def fail {α : Type} (message : String) : Calculator α := throw (.expression message)

def peek : Calculator (Option Token) := return (← get).tokens.head?

def next : Calculator (Option Token) := do
  let t ← peek
  modify fun c => { c with tokens := c.tokens.drop 1 }
  return t

/-- The operator that comes next; it stays. -/
def peekOperator : Calculator String := do
  match ← peek with
  | some (.operator o) => return o
  | _ => return ""

def truth (b : Bool) : Int := if b then 1 else 0

/-- The number of bits that a shift moves. -/
def shiftBits (b : Int) : Nat := (b % 64).toNat

/-- The bits of a number as a natural number. -/
def bits (n : Int) : Nat := (n % Nat.pow 2 64).toNat

/-- The least number of 64 bits with a sign. -/
def least : Int := -Nat.pow 2 63

/-- The quotient or the remainder of a division. -/
def divide (part : Int → Int → Int) (a b : Int) : Calculator Int :=
  if b = 0 then fail "division by zero"
  else if a = least ∧ b = -1 then throw .trap
  else return part a b

/-- The value of an operation. -/
def operate (o : String) (a b : Int) : Calculator Int :=
  match o with
  | "*" => return wrap (a * b)
  | "/" => divide Int.tdiv a b
  | "%" => divide Int.tmod a b
  | "+" => return wrap (a + b)
  | "-" => return wrap (a - b)
  | "<<" => return wrap (a * Nat.pow 2 (shiftBits b))
  | ">>" => return a >>> shiftBits b
  | "<" => return truth (a < b)
  | "<=" => return truth (a ≤ b)
  | ">" => return truth (b < a)
  | ">=" => return truth (b ≤ a)
  | "==" => return truth (a = b)
  | "!=" => return truth (a ≠ b)
  | "&" => return wrap (bits a &&& bits b : Nat)
  | "^" => return wrap (bits a ^^^ bits b : Nat)
  | "|" => return wrap (bits a ||| bits b : Nat)
  | _ => return 0

/-- How tight an operator binds; 0 if it does not stand between two operands. -/
def rank : String → Nat
  | "*" | "/" | "%" => 10
  | "+" | "-" => 9
  | "<<" | ">>" => 8
  | "<" | "<=" | ">" | ">=" => 7
  | "==" | "!=" => 6
  | "&" => 5
  | "^" => 4
  | "|" => 3
  | _ => 0

/-- The value of a variable. -/
def valueOf (look : Bytes → Option Bytes) (name : Bytes) : Calculator Int := do
  match (← get).assigned.lookup name with
  | some n => return n
  | none =>
    let text := (look name).getD []
    match integer? 0 text with
    | some n => return n
    | none => throw (.value text)

/-- What an expression can be inside of another. -/
inductive Rank where
  | assignment
  | condition
  /-- Operands whose operators bind at least this tight. -/
  | operands (least : Nat)
  | primary

/-- Operators of one kind, from the first operand on. -/
def operandsFrom (read : Bool → Rank → Calculator Int) (live : Bool) (least : Nat) :
    Nat → Int → Calculator Int
  | 0, a => return a
  | n + 1, a => do
    let o ← peekOperator
    if rank o < least then return a
    else
      discard next
      let b ← read live (.operands (rank o + 1))
      let c ← if live then operate o a b else pure b
      operandsFrom read live least n c

/-- Conditions joined by `&&`. -/
def conjunction (read : Bool → Rank → Calculator Int) (live : Bool) : Nat → Calculator Int
  | 0 => return 0
  | n + 1 => do
    let a ← read live (.operands 1)
    if (← peekOperator) == "&&" then
      discard next
      let b ← conjunction read (live && a != 0) n
      return truth (a != 0 && b != 0)
    else return a

/-- Conditions joined by `||`. -/
def disjunction (read : Bool → Rank → Calculator Int) (live : Bool) : Nat → Calculator Int
  | 0 => return 0
  | n + 1 => do
    let a ← conjunction read live n
    if (← peekOperator) == "||" then
      discard next
      let b ← disjunction read (live && a == 0) n
      return truth (a != 0 || b != 0)
    else return a

/-- A condition with its two outcomes. -/
def condition (read : Bool → Rank → Calculator Int) (live : Bool) (n : Nat) : Calculator Int := do
  let a ← disjunction read live n
  if (← peekOperator) == "?" then
    discard next
    let b ← read (live && a != 0) .assignment
    if (← peekOperator) != ":" then fail "expecting ':'"
    discard next
    let c ← read (live && a == 0) .condition
    return if a != 0 then b else c
  else return a

/-- The operator that an assignment applies before it assigns. -/
def assigning? (o : String) : Option String :=
  if o == "=" then some ""
  else if ["<<=", ">>=", "+=", "-=", "*=", "/=", "%=", "&=", "|=", "^="].contains o then
    some (String.ofList o.toList.dropLast)
  else none

/-- A number, a variable, or an expression behind a sign or in parentheses. -/
def primary (look : Bytes → Option Bytes) (read : Bool → Rank → Calculator Int) (live : Bool) :
    Calculator Int := do
  match ← next with
  | some (.number n) => return n
  | some (.variable name) => if live then valueOf look name else return 0
  | some (.operator "(") =>
    let a ← read live .assignment
    match ← next with
    | some (.operator ")") => return a
    | _ => fail "expecting ')'"
  | some (.operator "+") => read live .primary
  | some (.operator "-") => return wrap (-(← read live .primary))
  | some (.operator "!") => return truth ((← read live .primary) == 0)
  | some (.operator "~") => return -(← read live .primary) - 1
  | _ => fail "expecting primary"

/-- Assigns a variable if an assignment comes next. -/
def assignment (look : Bytes → Option Bytes) (read : Bool → Rank → Calculator Int) (live : Bool)
    (n : Nat) : Calculator Int := do
  match (← get).tokens with
  | .variable name :: .operator o :: rest =>
    match assigning? o with
    | none => condition read live n
    | some op =>
      modify fun c => { c with tokens := rest }
      let b ← read live .assignment
      if live then
        let value ← if op.isEmpty then pure b else operate op (← valueOf look name) b
        modify fun c => { c with assigned := (name, value) :: c.assigned }
        return value
      else return b
  | _ => condition read live n

/-- Reads an expression. The fuel bounds how deep expressions nest. -/
def expression (look : Bytes → Option Bytes) : Nat → Bool → Rank → Calculator Int
  | 0, _, _ => fail "expecting primary"
  | n + 1, live, rank =>
    match rank with
    | .assignment => assignment look (expression look n) live n
    | .condition => condition (expression look n) live n
    | .operands least => do
      operandsFrom (expression look n) live least n (← expression look n live .primary)
    | .primary => primary look (expression look n) live

/-- The value of an expression, and the variables that it assigns, the first one first.
What was assigned before a failure stays. -/
def evaluate (look : Bytes → Option Bytes) (text : Bytes) :
    Except Failure Int × List (Bytes × Int) :=
  let ts := tokens (text.length + 1) text
  let whole : Calculator Int := do
    let n ← expression look (4 * ts.length + 4) true .assignment
    if !(← get).tokens.isEmpty then fail "expecting EOF"
    return n
  let (value, c) := whole.run.run ⟨ts, []⟩
  (value, c.assigned.reverse)

end KeyAudit.Sandbox.Shell.Arithmetic
