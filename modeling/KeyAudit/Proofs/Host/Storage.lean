/-
What an audit does to the disk: nothing.

A `Storage` says what the states of a world show of the files in them, and
`Host.StoredIn` what the operations of a host do to it, as far as one audit goes: looking
and running the program of the audit change nothing, and writing at one of the paths in
question either is refused and changes nothing, or puts its text where the path leads and
nothing elsewhere. What other programs do, and what comes of writing elsewhere, is left
open. Loading a configuration and carrying out an audit do not write, so both leave the
disk as it is (`StoredIn.loadConfig`, `StoredIn.audit`), whatever they answer and wherever
they stop.
-/

import KeyAudit.Proofs.Host.Asking

namespace KeyAudit

/-! ### Computations that leave something as it is -/

section Keeps

variable {σ V α β : Type} {view : σ → V}

/-- What the view shows is the same after the computation as before, from whatever state
it starts. -/
def Keeps (view : σ → V) (x : StateM σ α) : Prop := ∀ s, view (x.run s).2 = view s

theorem Keeps.pure {a : α} : Keeps view (Pure.pure a : StateM σ α) := by
  intro s
  rfl

theorem Keeps.bind {x : StateM σ α} {f : α → StateM σ β} (hx : Keeps view x)
    (hf : ∀ a, Keeps view (f a)) : Keeps view (x >>= f) := by
  intro s
  calc view ((x >>= f).run s).2
      = view ((f (x.run s).1).run (x.run s).2).2 := rfl
    _ = view (x.run s).2 := hf _ _
    _ = view s := hx s

theorem Keeps.eq_of_run {x : StateM σ α} {a : α} {s s' : σ} (hx : Keeps view x)
    (hrun : x.run s = (a, s')) : view s' = view s := by
  have hs := hx s
  rwa [hrun] at hs

/-- What every allowed question leaves as it is, the whole computation leaves as it is. -/
theorem Asking.Plays.keeps {host : Host (StateM σ)} {allowed : Question → Prop} {x : Asking α}
    {y : StateM σ α} (plays : x.Plays host allowed y)
    (h : ∀ q, allowed q → Keeps view (host.answer q)) : Keeps view y := by
  obtain ⟨asks, rfl⟩ := plays
  induction asks with
  | done a => exact .pure
  | ask hq _ ih => exact .bind (h _ hq) ih

end Keeps

/-! ### Disks -/

/-- What the states of a world show of the files in them. -/
structure Storage (σ : Type) where
  Disk : Type
  Place : Type
  disk : σ → Disk
  /-- Where a path leads. -/
  place : Disk → Path → Place
  /-- What the file at a place holds, if there is one. -/
  content : Disk → Place → Option ByteArray

namespace Host

variable {σ : Type} {host : Host (StateM σ)} {storage : Storage σ} {program : Path}
  {written : Path → Prop}

/-- Neither looking nor running the program changes the disk. Writing at one of the paths
changes nothing if it is refused, and else what is where the path leads. -/
structure StoredIn (host : Host (StateM σ)) (storage : Storage σ) (program : Path)
    (written : Path → Prop) : Prop where
  look : ∀ {q : Question}, q.Looks → Keeps storage.disk (host.answer q)
  run : ∀ arguments, Keeps storage.disk (host.run program arguments)
  workingDirectory : Keeps storage.disk host.workingDirectory
  now : Keeps storage.disk host.now
  refused : ∀ {p text reason s s'}, written p → (host.write p text).run s = (.error reason, s') →
    storage.disk s' = storage.disk s
  stored : ∀ {p text s s'}, written p → (host.write p text).run s = (.ok (), s') →
    storage.content (storage.disk s') (storage.place (storage.disk s) p) = some text.toUTF8 ∧
      ∀ other, other ≠ storage.place (storage.disk s) p →
        storage.content (storage.disk s') other = storage.content (storage.disk s) other

namespace StoredIn

variable (stored : host.StoredIn storage program written)

include stored

theorem answer {q : Question} (h : q.Searches program) : Keeps storage.disk (host.answer q) := by
  cases h with
  | look h => exact stored.look h
  | run arguments => exact stored.run arguments

/-- **An audit leaves the disk as it is.** -/
theorem audit (paths : AuditPaths) (preference : Scanner.Preference) :
    Keeps storage.disk (host.audit paths preference program) :=
  Asking.Plays.audit.keeps fun _ => stored.answer

/-- **Loading a configuration leaves the disk as it is.** -/
theorem loadConfig (dir : Path) : Keeps storage.disk (host.loadConfig dir) :=
  Asking.Plays.loadConfig.keeps fun _ => stored.look

end StoredIn

end Host

end KeyAudit
