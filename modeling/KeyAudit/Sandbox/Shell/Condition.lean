/-
Conditions: what `test` decides.

The words of a condition are operators only where they stand as such: a word with
nothing to work on, or with an operator of two operands behind it, is an operand
(`Lexeme.ofWords`).
-/

import KeyAudit.Sandbox.Shell.State

namespace KeyAudit.Sandbox.Shell.Condition

/-! ### Words -/

def unaryOperators : List String :=
  ["-r", "-w", "-x", "-e", "-f", "-d", "-c", "-b", "-p", "-u", "-g", "-k", "-s", "-t", "-z", "-n",
    "-h", "-O", "-G", "-L", "-S"]

def binaryOperators : List String :=
  ["=", "!=", "<", ">", "-eq", "-ne", "-ge", "-gt", "-le", "-lt", "-nt", "-ot", "-ef"]

/-- What a word is where it stands. -/
inductive Lexeme where
  | unary (operator : String)
  | binary (operator : String)
  | negation
  | both
  | either
  | opening
  | closing
  | operand
  | ending
  deriving DecidableEq, Repr

/-- Is a word an operator of two operands? -/
def isBinary (word : Bytes) : Bool := binaryOperators.contains (toText word)

/-- What the first of the words is. -/
def Lexeme.ofWords : List Bytes → Lexeme
  | [] => .ending
  | w :: ws =>
    let operand := match ws with
      | [] => true
      | [_] => false
      | v :: _ => isBinary v
    match toText w with
    | "!" => .negation
    | "-a" => .both
    | "-o" => .either
    | "(" => if ws.isEmpty then .operand else .opening
    | ")" => .closing
    | t =>
      if binaryOperators.contains t then .binary t
      else if unaryOperators.contains t && !operand then .unary t
      else .operand

/-! ### Operators -/

/-- The entry at a path. -/
def entryAt (s : State) (aim : FileTree.Aim) (path : Bytes) : Option (FileTree.Place × FileTree) :=
  (s.find aim path).toOption

/-- Can the superuser run it or go into it? -/
def isExecutable : FileTree → Bool
  | .file _ executable => executable
  | .directory _ | .tool _ => true
  | _ => false

/-- A condition on one word. -/
def unaryHolds (s : State) (operator : String) (word : Bytes) : Bool :=
  let entry (test : FileTree → Bool) : Bool := ((entryAt s .content word).map (·.2)).any test
  match operator with
  | "-z" => word.isEmpty
  | "-n" => !word.isEmpty
  | "-e" | "-r" | "-w" | "-O" | "-G" => entry fun _ => true
  | "-x" => entry isExecutable
  | "-f" => entry fun
    | .file _ _ | .tool _ => true
    | _ => false
  | "-d" => entry FileTree.isDirectory
  | "-c" => entry fun
    | .device _ => true
    | _ => false
  | "-p" => entry fun
    | .pipe _ => true
    | _ => false
  | "-s" => entry fun
    | .file content _ => content.length != 0
    | .directory _ | .tool _ => true
    | _ => false
  | "-h" | "-L" => ((entryAt s .entry word).map (·.2)).any fun
    | .link _ | .pipe _ => true
    | _ => false
  | _ => false

/-- The number that a word is, or the complaint about it. -/
def number (word : Bytes) : Except Bytes Int :=
  match integer? 10 word with
  | some n => .ok n
  | none => .error ("Illegal number: ".toList ++ word)

/-- A condition on two words. -/
def binaryHolds (s : State) (operator : String) (a b : Bytes) : Except Bytes Bool := do
  let numbers (test : Int → Int → Bool) : Except Bytes Bool := do
    return test (← number a) (← number b)
  match operator with
  | "=" => return a == b
  | "!=" => return a != b
  | "<" => return decide (a < b)
  | ">" => return decide (b < a)
  | "-eq" => numbers (· == ·)
  | "-ne" => numbers (· != ·)
  | "-ge" => numbers (· ≥ ·)
  | "-gt" => numbers (· > ·)
  | "-le" => numbers (· ≤ ·)
  | "-lt" => numbers (· < ·)
  | "-ef" =>
    match entryAt s .content a, entryAt s .content b with
    | some (p, _), some (q, _) => return p == q
    | _, _ => return false
  | _ => return false

/-! ### Conditions -/

/-- What a part of a condition can be. -/
inductive Rank where
  | disjunction | conjunction | negation | primary

/-- The result so far, and the last word that belongs to it with all behind it. -/
abbrev Outcome := Except Bytes (Bool × List Bytes)

def missing (operator : String) : Bytes := (operator ++ ": argument expected").toList

/-- A condition without negation and without joints. -/
def primary (s : State) (read : Rank → List Bytes → Outcome) (words : List Bytes) : Outcome :=
  match Lexeme.ofWords words, words with
  | .ending, _ => .ok (false, words)
  | .opening, _ :: inside =>
    if Lexeme.ofWords inside = .closing then .ok (false, inside)
    else do
      let (holds, last) ← read .disjunction inside
      if Lexeme.ofWords (last.drop 1) = .closing then return (holds, last.drop 1)
      else throw "closing paren expected".toList
  | .unary o, [_] => .error (missing o)
  | .unary o, _ :: w :: ws =>
    if o == "-t" then do
      discard (number w)
      return (false, w :: ws)
    else .ok (unaryHolds s o w, w :: ws)
  | _, w :: ws =>
    match Lexeme.ofWords ws, ws with
    | .binary o, [_] => .error (missing o)
    | .binary o, _ :: v :: vs => do return (← binaryHolds s o w v, v :: vs)
    | _, _ => .ok (!w.isEmpty, words)
  | _, [] => .ok (false, words)

/-- Reads a condition. The fuel bounds how many parts it has. -/
def read (s : State) : Nat → Rank → List Bytes → Outcome
  | 0, _, words => .ok (false, words)
  | n + 1, rank, words =>
    match rank with
    | .disjunction => do
      let (a, last) ← read s n .conjunction words
      if Lexeme.ofWords (last.drop 1) = .either then
        let (b, last) ← read s n .disjunction (last.drop 2)
        return (a || b, last)
      else return (a, last)
    | .conjunction => do
      let (a, last) ← read s n .negation words
      if Lexeme.ofWords (last.drop 1) = .both then
        let (b, last) ← read s n .conjunction (last.drop 2)
        return (a && b, last)
      else return (a, last)
    | .negation =>
      if Lexeme.ofWords words = .negation then do
        let rest := words.drop 1
        let (a, last) ← if Lexeme.ofWords rest = .ending then .ok (false, words)
          else read s n .negation rest
        return (!a, last)
      else read s n .primary words
    | .primary => primary s (read s n) words

/-- The result of a condition of any number of words. -/
def readAll (s : State) (words : List Bytes) : Except Bytes Bool := do
  let (holds, last) ← read s (5 * words.length + 5) .disjunction words
  match last with
  | w :: _ :: _ => throw (if w.isEmpty then "unexpected operator".toList
      else w ++ ": unexpected operator".toList)
  | _ => return holds

/-- A condition with an operator in its middle. -/
def readMiddle (s : State) (words : List Bytes) : Except Bytes Bool :=
  match words with
  | [a, o, b] => binaryHolds s (toText o) a b
  | _ => readAll s words

/-- Does a condition hold? Conditions of three and four words are read by rules of
their own: an operator in the middle comes first, then parentheses around, then a
negation in front. `negated` says that there was one. -/
def holds (s : State) : Bool → List Bytes → Except Bytes Bool
  | negated, [] => .ok negated
  | negated, words =>
    let result (r : Except Bytes Bool) : Except Bytes Bool := r.map (· != negated)
    let few := words.length == 3 || words.length == 4
    if words.length == 3 && (words[1]?).any isBinary then result (readMiddle s words)
    else if few && words.head? == some ['('] && words.getLast? == some [')'] then
      result (readAll s (words.drop 1).dropLast)
    else
      match few, words with
      | true, ['!'] :: rest => holds s true rest
      | _, _ => result (readAll s words)

end KeyAudit.Sandbox.Shell.Condition
