/-
A small world in memory: files by the components of their paths, below one working
directory, with one tree of sources and no programs. Where files lie below a path, there is
a directory, and no file is written in its place. The world shows that what is asked of
hosts elsewhere can be had (`storedIn_memory`).
-/

import KeyAudit.Proofs.Host.Storage

namespace KeyAudit

/-- The texts of files by the components of their paths; the first of a name counts. -/
abbrev Files := List (List Path.Component × String)

namespace Files

/-- The files where a text is written last. -/
def put (files : Files) (p : Path) (text : String) : Files := (p.components, text) :: files

theorem lookup_put_self {files : Files} {p : Path} {text : String} :
    (files.put p text).lookup p.components = some text :=
  List.lookup_cons_self

theorem lookup_put_of_ne {files : Files} {p : Path} {text : String} {place : List Path.Component}
    (h : place ≠ p.components) : (files.put p text).lookup place = files.lookup place := by
  rw [put, List.lookup_cons, beq_false_of_ne h]

/-- Is a file at the path? -/
def here (files : Files) (p : Path) : Bool := (files.lookup p.components).isSome

/-- Is a directory at the path, with a file somewhere below it? -/
def hasBelow (files : Files) (p : Path) : Bool :=
  files.any fun f => p.components.isPrefixOf f.1 && f.1 != p.components

/-- What reading at a path gives. -/
def readAt (files : Files) (p : Path) : Except OsError ByteArray :=
  match files.lookup p.components with
  | some text => .ok text.toUTF8
  | none => .error .notFound

theorem readAt_put_self {files : Files} {p : Path} {text : String} :
    (files.put p text).readAt p = .ok text.toUTF8 := by
  rw [readAt, lookup_put_self]

/-- What the files show. -/
def storage : Storage Files where
  Disk := Files
  Place := List Path.Component
  disk := id
  place _ p := p.components
  content files place := (files.lookup place).map String.toUTF8

/-- The host that keeps its files in memory. -/
def host (cwd : Path) (sources : SourceTree) : Host (StateM Files) where
  present p := fun files => ((files.lookup p.components).isSome, files)
  isDirectory _ := return true
  read p := fun files => (files.readAt p, files)
  survey _ := return .ok sources
  write p text := fun files =>
    if files.hasBelow p then (.error .isDirectory, files) else (.ok (), files.put p text)
  run _ _ := return .error .notFound
  workingDirectory := return .ok cwd
  now := return "2024-05-06 07:08:09"

section Host

variable {cwd p : Path} {sources : SourceTree} {text : String} {files files' : Files}

theorem run_write : ((host cwd sources).write p text).run files =
    if files.hasBelow p then (.error .isDirectory, files) else (.ok (), files.put p text) :=
  rfl

theorem run_write_of_not_hasBelow (h : files.hasBelow p = false) :
    ((host cwd sources).write p text).run files = (.ok (), files.put p text) := by
  rw [run_write, h]
  rfl

/-- A write that is not refused has put its text at the path. -/
theorem eq_put_of_run_write (h : ((host cwd sources).write p text).run files = (.ok (), files')) :
    files' = files.put p text := by
  rw [run_write] at h
  split at h
  · cases h
  · cases h
    rfl

theorem eq_of_run_write_error {reason : OsError}
    (h : ((host cwd sources).write p text).run files = (.error reason, files')) :
    files' = files := by
  rw [run_write] at h
  split at h
  · cases h
    rfl
  · cases h

theorem storedIn_memory (cwd : Path) (sources : SourceTree) (program : Path)
    (written : Path → Prop) : (host cwd sources).StoredIn storage program written where
  look h := by cases h <;> exact fun _ => rfl
  run _ _ := rfl
  workingDirectory _ := rfl
  now _ := rfl
  refused _ h := eq_of_run_write_error h
  stored {p text s s'} _ h := by
    cases eq_put_of_run_write h
    refine ⟨congrArg (Option.map String.toUTF8) lookup_put_self, ?_⟩
    intro other hother
    exact congrArg (Option.map String.toUTF8) (lookup_put_of_ne hother)

end Host

end Files

end KeyAudit
