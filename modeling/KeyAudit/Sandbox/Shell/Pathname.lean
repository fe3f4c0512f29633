/-
Pathnames: the paths that a pattern matches.

A pattern is taken apart at its separators. Only the parts that are patterns are
looked up in their directories; a name that begins with a dot is found only by a
pattern that does so too.
-/

import KeyAudit.Sandbox.FileTree
import KeyAudit.Sandbox.Shell.Pattern

namespace KeyAudit.Sandbox.Shell

/-- Can these characters match more than one text? -/
def Marked.hasPattern : Marked → Bool
  | [] => false
  | (false, '\\') :: _ :: cs => Marked.hasPattern cs
  | (false, '*') :: _ | (false, '?') :: _ => true
  | (false, '[') :: cs => cs.any (fun c => c.2 == ']') || Marked.hasPattern cs
  | _ :: cs => Marked.hasPattern cs

/-- The part before the first separator and the part behind it, if there is one. -/
def Marked.cutAtSeparator : Marked → Marked × Option Marked
  | [] => ([], none)
  | (_, '/') :: cs => ([], some cs)
  | c :: cs =>
    match cutAtSeparator cs with
    | (before, after) => (c :: before, after)

/-- The characters without their marks. -/
def Marked.text (cs : Marked) : Bytes := (Pattern.escape cs).map (·.2)

/-- The names in a directory. -/
def namesIn (tree : FileTree) (directory : FileTree.Place) (path : Bytes) : List Bytes :=
  let path := if path.isEmpty then ['.'] else path
  match tree.find directory .content ⟨toText path⟩ with
  | .ok (_, .directory entries) => ['.'] :: ['.', '.'] :: entries.map fun e => ofText e.1
  | _ => []

/-- The paths below `base` that the pattern matches. -/
def pathsBelow (tree : FileTree) (directory : FileTree.Place) :
    Nat → Bytes → Bool → Marked → List Bytes
  | 0, _, _, _ => []
  | n + 1, base, looked, pattern =>
    if !pattern.hasPattern then
      let path := base ++ pattern.text
      if looked && !(tree.find directory .entry ⟨toText path⟩) matches .ok _ then [] else [path]
    else
      match pattern.cutAtSeparator with
      | (first, rest) =>
        if !first.hasPattern then
          match rest with
          | some rest => pathsBelow tree directory n (base ++ first.text ++ ['/']) looked rest
          | none => []
        else
          let glyphs := Pattern.ofMarked first
          let names := (namesIn tree directory base).filter fun name =>
            (name.head? != some '.' || (glyphs.head? matches some (.exact '.'))) &&
              Pattern.matchesAll glyphs name
          match rest with
          | none => names.map (base ++ ·)
          | some rest => names.flatMap fun name =>
              pathsBelow tree directory n (base ++ name ++ ['/']) true rest

/-- The paths that a pattern matches, in order. -/
def pathnames (tree : FileTree) (directory : FileTree.Place) (pattern : Marked) : List Bytes :=
  if pattern.hasPattern then
    (pathsBelow tree directory (pattern.length + 1) [] false pattern).mergeSort standsBefore
  else []

end KeyAudit.Sandbox.Shell
