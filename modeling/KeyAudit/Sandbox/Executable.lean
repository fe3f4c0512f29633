/-
Programs: how a file is run.

A file is a tool, or a script whose first line names its interpreter and one word for
it. An interpreter can be a script too, a few times over (`launch`). Of the first line
only so much is read as a system reads, and a name that could go on behind that is
refused. The words of a program and its environment have to fit into a room of a fixed
size.

This is about the programs of a system held in memory, on which commands are tried out;
an audit itself only asks its host to run one.
-/

import KeyAudit.Sandbox.FileTree
import KeyAudit.Sandbox.Shell.Command

namespace KeyAudit.Sandbox

open Shell (Bytes)

/-- A tool with the words it is told, its own name first. -/
structure Launch where
  tool : Tool
  words : List Bytes

namespace Launch

/-! ### The first line of a script -/

/-- How many bytes of a file tell how it is run. -/
def headLength : Nat := 256

def isGap (c : Char) : Bool := c == ' ' || c == '\t'

/-- Ends the name of an interpreter. -/
def endsName (c : Char) : Bool := isGap c || c == '\x00'

/-- The line behind the mark, without the blanks at its end. If it does not end in the
part of the file that is read, its name has to. -/
def markedLine? (content : List UInt8) : Option Bytes :=
  let head := Shell.ofBytes (content.take headLength)
  match head ++ List.replicate (headLength - head.length) '\x00' with
  | '#' :: '!' :: text =>
    let line := text.takeWhile (· != '\n')
    let whole := line.length < text.length
    if whole || ((text.dropWhile isGap).any endsName) then
      let line := if whole then line else text.dropLast
      some (line.reverse.dropWhile isGap).reverse
    else none
  | _ => none

/-- The interpreter of a script and the word for it. -/
def interpreter? (content : List UInt8) : Option (Bytes × Option Bytes) :=
  match markedLine? content with
  | none => none
  | some line =>
    match line.dropWhile isGap with
    | [] => none
    | line =>
      let name := line.takeWhile fun c => !endsName c
      let word := match line.drop name.length with
        | [] => none
        | c :: rest =>
          if c == '\x00' then none
          else
            match rest.dropWhile isGap with
            | [] => none
            | word => some (word.takeWhile (· != '\x00'))
      some (name, word)

/-! ### Room -/

/-- The longest word or entry of the environment, in bytes, and one more. -/
def maxWord : Nat := 131072

/-- How much room there is for all of them. -/
def room : Nat := 2097152

/-- The room that a word takes with the place that it is found by. -/
def roomOf (word : Bytes) : Nat := word.length + 9

/-- Do the words and the environment of a program have room beside its path? -/
def hasRoom (path : Bytes) (words environment : List Bytes) : Bool :=
  let all := words ++ environment
  all.all (fun w => w.length < maxWord) && path.length + 1 + all.foldl (fun n w => n + roomOf w) 0 ≤ room

/-! ### Running -/

/-- What a file is for a system that runs it. -/
inductive Kind where
  | tool (t : Tool)
  | script (content : List UInt8)

/-- The file at a path, if it can be run. -/
def kindAt (tree : FileTree) (directory : FileTree.Place) (path : Bytes) : Except OsError Kind :=
  match tree.find directory .content ⟨Shell.toText path⟩ with
  | .error e => .error e
  | .ok (_, .tool t) => .ok (.tool t)
  | .ok (_, .file content true) => .ok (.script content.bytes)
  | .ok _ => .error .permissionDenied

/-- How often an interpreter can be a script. -/
def maxInterpreters : Nat := 5

/-- What is run for the file at a path, with words of which the first one is its
name. -/
def ofPath (tree : FileTree) (directory : FileTree.Place) (environment : List Bytes) :
    Nat → Bytes → List Bytes → Except OsError Launch
  | n, path, words =>
    match kindAt tree directory path with
    | .error e => .error e
    | .ok kind =>
      if !hasRoom path words environment then .error .tooManyWords
      else
        match kind with
        | .tool t => .ok ⟨t, words⟩
        | .script content =>
          match interpreter? content with
          | none => .error .badFormat
          | some (name, word) =>
            match n with
            | 0 =>
              match kindAt tree directory name with
              | .error e => .error e
              | .ok _ => .error .tooManyLinks
            | n + 1 => ofPath tree directory environment n name
                (name :: word.toList ++ path :: words.drop 1)

end Launch

/-- An entry of an environment as a program gets it. -/
def environmentEntry (v : Bytes × Bytes) : Bytes := v.1 ++ '=' :: v.2

/-- What is run for the file at a path. -/
def FileTree.launch (tree : FileTree) (directory : FileTree.Place)
    (environment : List (Bytes × Bytes)) (path : Bytes) (words : List Bytes) :
    Except OsError Launch :=
  Launch.ofPath tree directory (environment.map environmentEntry) Launch.maxInterpreters path words

end KeyAudit.Sandbox
