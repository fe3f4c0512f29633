/-
A file system held in memory: directories, files, symbolic links, devices and the
programs that are no scripts in one tree below the root, and the operations by which
a path is found, read and written.

A path is walked piece by piece (`FileTree.walk`); links are followed on the way, and
a walk that meets too many of them fails. Where only the last piece is missing, the
walk ends at the place where an entry of that name can be made.
-/

import KeyAudit.Sandbox.Content

namespace KeyAudit.Sandbox

/-- A file that holds no content of its own. -/
inductive Device where
  /-- Takes everything and gives nothing. -/
  | null
  /-- Has no room for anything. -/
  | full
  /-- The terminal of a process that has none. -/
  | terminal
  deriving DecidableEq, Repr

/-- A program that is no script. -/
inductive Tool where
  | shell
  | succeed
  | fail
  | echo
  deriving DecidableEq, Repr

/-- An entry of the file system. -/
inductive FileTree where
  | file (content : Content) (executable : Bool)
  | directory (entries : List (String × FileTree))
  | link (target : String)
  | device (kind : Device)
  | tool (kind : Tool)
  /-- What a process has open without a name. -/
  | pipe (number : Nat)

namespace FileTree

instance : Inhabited FileTree := ⟨.directory []⟩

/-- Where an entry is: the names on the way from the root. -/
abbrev Place := List String

def isDirectory : FileTree → Bool
  | .directory _ => true
  | _ => false

/-- The entries with one more, or with one replaced. -/
def putEntry (name : String) (tree : FileTree) :
    List (String × FileTree) → List (String × FileTree)
  | [] => [(name, tree)]
  | (n, t) :: es => if n = name then (n, tree) :: es else (n, t) :: putEntry name tree es

/-- The entry at a place. -/
def at? : FileTree → Place → Option FileTree
  | tree, [] => some tree
  | .directory entries, name :: place =>
    match entries.lookup name with
    | some tree => tree.at? place
    | none => none
  | _, _ :: _ => none

/-- The tree with this entry at a place; directories on the way are made. What stands
in their way is replaced. -/
def put (tree : FileTree) (entry : FileTree) : Place → FileTree
  | [] => entry
  | name :: place =>
    let entries := match tree with
      | .directory es => es
      | _ => []
    let below := (entries.lookup name).getD (.directory [])
    .directory (putEntry name (put below entry place) entries)

/-- The tree without the entry at a place. -/
def remove : Place → FileTree → FileTree
  | [], tree => tree
  | [name], .directory entries => .directory (entries.filter fun e => e.1 != name)
  | name :: place, .directory entries =>
    .directory (match entries.lookup name with
      | some below => putEntry name (remove place below) entries
      | none => entries)
  | _, tree => tree

/-! ### Walking a path -/

/-- The step that a separator at the end of a path is: it asks for a directory, as a
`.` does. -/
def trailing : String := ""

/-- The pieces of a path that say where to go. -/
def steps (path : List Char) : List String :=
  ((Path.pieces path).filter fun p => !p.isEmpty).map String.ofList ++
    (if path.getLast? == some '/' then [trailing] else [])

/-- What a walk is for. -/
inductive Aim where
  /-- The entry itself, even if it is a link. -/
  | entry
  /-- What is behind any links. -/
  | content
  /-- A file that is made if it is not there. A name with a separator behind it is
  refused, for it can only be a directory. -/
  | creation
  deriving DecidableEq, Repr

/-- Where a walk ends. -/
inductive Site where
  | present (place : Place)
  /-- Nothing is there, but an entry of this name can be made in the directory. -/
  | absent (place : Place) (name : String)
  deriving DecidableEq, Repr

/-- The longest name of an entry, in bytes. -/
def maxName : Nat := 255

/-- The longest path, in bytes, and one more. -/
def maxPath : Nat := 4096

/-- How many links one walk follows. -/
def maxLinks : Nat := 40

/-- Walks the steps from a place. -/
def walk (tree : FileTree) (aim : Aim) (links : Nat) (place : Place) :
    List String → Except OsError Site
  | [] => .ok (.present place)
  | step :: rest =>
    match tree.at? place with
    | some (.directory entries) =>
      if step = "." ∨ step = trailing then walk tree aim links place rest
      else if step = ".." then walk tree aim links place.dropLast rest
      else if aim = .creation ∧ rest ≠ [] ∧ rest.all (· == trailing) then .error .isDirectory
      else if maxName < step.utf8ByteSize then .error .nameTooLong
      else match entries.lookup step with
        | none => if rest.isEmpty then .ok (.absent place step) else .error .notFound
        | some (.link target) =>
          if rest.isEmpty && aim == .entry then .ok (.present (place ++ [step]))
          else if _h : links = 0 then .error .tooManyLinks
          else
            walk tree aim (links - 1) (if (Path.mk target).isAbsolute then [] else place)
              (steps target.toList ++ rest)
        | some _ => walk tree aim links (place ++ [step]) rest
    | _ => .error .notDirectory
  termination_by ss => (links, ss.length)
  decreasing_by
    all_goals simp_wf
    all_goals first
      | exact Prod.Lex.right _ (by simp)
      | exact Prod.Lex.left _ _ (by omega)

/-- Walks a path from a working directory. -/
def site (tree : FileTree) (cwd : Place) (aim : Aim) (path : Path) : Except OsError Site :=
  if path.text.isEmpty then .error .notFound
  else if path.chars.contains '\x00' then .error .nulInPath
  else if maxPath ≤ path.text.utf8ByteSize then .error .nameTooLong
  else tree.walk aim maxLinks (if path.isAbsolute then [] else cwd) (steps path.chars)

/-- The entry at a path, and its place. -/
def find (tree : FileTree) (cwd : Place) (aim : Aim) (path : Path) :
    Except OsError (Place × FileTree) :=
  match tree.site cwd aim path with
  | .error e => .error e
  | .ok (.absent _ _) => .error .notFound
  | .ok (.present place) =>
    match tree.at? place with
    | some entry => .ok (place, entry)
    | none => .error .notFound

/-! ### Reading and writing -/

/-- The content of a file. -/
def read (tree : FileTree) (cwd : Place) (path : Path) : Except OsError (List UInt8) :=
  match tree.find cwd .content path with
  | .error e => .error e
  | .ok (_, .directory _) => .error .isDirectory
  | .ok (_, .file content _) => .ok content.bytes
  | .ok (_, .device .terminal) => .error .noDevice
  | .ok _ => .ok []

/-- Makes a file or replaces the content of the one that is there. -/
def write (tree : FileTree) (cwd : Place) (path : Path) (content : List UInt8) :
    Except OsError FileTree :=
  match tree.site cwd .creation path with
  | .error e => .error e
  | .ok (.absent place name) => .ok (tree.put (.file (.ofBytes content) false) (place ++ [name]))
  | .ok (.present place) =>
    match tree.at? place with
    | some (.file _ executable) => .ok (tree.put (.file (.ofBytes content) executable) place)
    | some (.device .full) => if content.isEmpty then .ok tree else .error .noSpace
    | some (.device .terminal) => .error .noDevice
    | some (.device _) => .ok tree
    | some (.tool _) => .error .busy
    | _ => .error .isDirectory

mutual

/-- What a walk that follows no links sees of an entry whose path has this length. A
directory with a path that is too long cannot be listed. -/
def toSource (length : Nat) : FileTree → SourceTree
  | .file _ _ => .file
  | .tool _ => .file
  | .directory entries =>
    if maxPath ≤ length then .closed .nameTooLong else .directory (toSourceEntries length entries)
  | _ => .other

def toSourceEntries (length : Nat) : List (String × FileTree) → List (String × SourceTree)
  | [] => []
  | (name, tree) :: entries =>
    (name, toSource (length + 1 + name.utf8ByteSize) tree) :: toSourceEntries length entries

end

/-- The tree at a path, for a walk that follows no links but the one at the path. -/
def survey (tree : FileTree) (cwd : Place) (path : Path) : Except OsError SourceTree :=
  let length := path.text.utf8ByteSize - (if path.chars.getLast? == some '/' then 1 else 0)
  match tree.find cwd .entry path with
  | .error e => .error e
  | .ok (_, .link _) =>
    match tree.find cwd .content path with
    | .error e => .error e
    | .ok (_, .directory entries) => .ok (.directory (toSourceEntries length entries))
    | .ok _ => .ok .other
  | .ok (_, entry) => .ok (entry.toSource length)

mutual

/-- The entries below a directory with their kinds: a directory's name ends in a
separator, a link's in an at sign. -/
def listing (before : String) : FileTree → List String
  | .directory entries => listingEntries before entries
  | _ => []

def listingEntries (before : String) : List (String × FileTree) → List String
  | [] => []
  | (name, tree) :: entries =>
    let mark := match tree with
      | .directory _ => "/"
      | .link _ => "@"
      | _ => ""
    ((before ++ name ++ mark) :: listing (before ++ name ++ "/") tree) ++
      listingEntries before entries

end

/-! ### The start -/

/-- The tree of a system without anything of its user's. -/
def system : FileTree :=
  let tools := [("dash", .tool .shell), ("echo", .tool .echo), ("false", .tool .fail),
    ("sh", .link "dash"), ("true", .tool .succeed)]
  .directory
    [("bin", .link "usr/bin"),
      ("dev", .directory [("fd", .link "/proc/self/fd"), ("full", .device .full),
        ("null", .device .null), ("random", .device .null), ("stderr", .link "/proc/self/fd/2"),
        ("stdin", .link "/proc/self/fd/0"), ("stdout", .link "/proc/self/fd/1"),
        ("tty", .device .terminal), ("urandom", .device .null), ("zero", .device .null)]),
      ("etc", .directory []), ("home", .directory []), ("lib", .link "usr/lib"),
      ("proc", .directory []), ("root", .directory []), ("tmp", .directory []),
      ("usr", .directory [("bin", .directory tools), ("lib", .directory [])]),
      ("var", .directory [])]

end FileTree

end KeyAudit.Sandbox
