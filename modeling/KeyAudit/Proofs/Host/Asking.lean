/-
What a computation asks of the system, question by question.

Everything that an audit does is written for any host. On the host that only notes what it
is asked (`Asking.host`) it becomes a tree: a question, and for each answer what is done
then. `Asking.Plays` says that such a tree, played on a real host, is a computation of that
host, and that it asks no question but the allowed ones. There is one lemma for each
function: loading asks only to look at files, and a scan runs its program besides. So what
holds of single questions holds of whole computations (`Plays.keeps`), and several
computations can be carried on by turns, one question at a time.
-/

import KeyAudit.Cli.Run

namespace KeyAudit

/-! ### Questions -/

/-- One operation of a host with its arguments. -/
inductive Question where
  | present (p : Path)
  | isDirectory (p : Path)
  | read (p : Path)
  | survey (p : Path)
  | write (p : Path) (text : String)
  | run (program : Path) (arguments : List String)
  | workingDirectory
  | now

namespace Question

/-- What answers a question. -/
def Answer : Question → Type
  | .present _ => Bool
  | .isDirectory _ => Bool
  | .read _ => Except OsError ByteArray
  | .survey _ => Except OsError SourceTree
  | .write _ _ => Except OsError Unit
  | .run _ _ => Except OsError Finished
  | .workingDirectory => Except OsError Path
  | .now => String

/-- The question is what a file or a directory is or holds. -/
inductive Looks : Question → Prop where
  | present (p : Path) : Looks (.present p)
  | isDirectory (p : Path) : Looks (.isDirectory p)
  | read (p : Path) : Looks (.read p)
  | survey (p : Path) : Looks (.survey p)

/-- The question looks or runs the program, and no other. -/
inductive Searches (program : Path) : Question → Prop where
  | look {q : Question} : q.Looks → Searches program q
  | run (arguments : List String) : Searches program (.run program arguments)

end Question

/-- The answer of a host. -/
def Host.answer {m : Type → Type} (host : Host m) : (q : Question) → m q.Answer
  | .present p => host.present p
  | .isDirectory p => host.isDirectory p
  | .read p => host.read p
  | .survey p => host.survey p
  | .write p text => host.write p text
  | .run program arguments => host.run program arguments
  | .workingDirectory => host.workingDirectory
  | .now => host.now

/-! ### Trees of questions -/

/-- A computation that asks and goes on with the answer. -/
inductive Asking (α : Type) where
  | done (a : α)
  | ask (q : Question) (next : q.Answer → Asking α)

namespace Asking

variable {α β : Type}

/-- What the first computation gives is handed to the second. -/
def bind : Asking α → (α → Asking β) → Asking β
  | .done a, f => f a
  | .ask q next, f => .ask q fun answer => (next answer).bind f

instance : Monad Asking where
  pure := .done
  bind := .bind

/-- The host that notes what it is asked. -/
def host : Host Asking where
  present p := .ask (.present p) .done
  isDirectory p := .ask (.isDirectory p) .done
  read p := .ask (.read p) .done
  survey p := .ask (.survey p) .done
  write p text := .ask (.write p text) .done
  run program arguments := .ask (.run program arguments) .done
  workingDirectory := .ask .workingDirectory .done
  now := .ask .now .done

/-- Every question, whatever was answered before, is one of these. -/
inductive Asks (allowed : Question → Prop) : Asking α → Prop where
  | done (a : α) : Asks allowed (.done a)
  | ask {q : Question} {next : q.Answer → Asking α} : allowed q →
      (∀ answer, Asks allowed (next answer)) → Asks allowed (.ask q next)

section Allowed

variable {allowed allowed' : Question → Prop}

theorem Asks.mono {x : Asking α} (hx : x.Asks allowed) (h : ∀ q, allowed q → allowed' q) :
    x.Asks allowed' := by
  induction hx with
  | done a => exact .done a
  | ask hq _ ih => exact .ask (h _ hq) ih

theorem Asks.bind {x : Asking α} {f : α → Asking β} (hx : x.Asks allowed)
    (hf : ∀ a, (f a).Asks allowed) : (x >>= f).Asks allowed := by
  induction hx with
  | done a => exact hf a
  | ask hq _ ih => exact .ask hq ih

end Allowed

variable {m : Type → Type} [Monad m]

/-- The computation with the answers of a host. -/
def playOn (host : Host m) : Asking α → m α
  | .done a => pure a
  | .ask q next => host.answer q >>= fun answer => (next answer).playOn host

variable {host : Host m} {allowed : Question → Prop}

theorem playOn_bind [LawfulMonad m] {x : Asking α} {f : α → Asking β} :
    (x >>= f).playOn host = x.playOn host >>= fun a => (f a).playOn host := by
  induction x with
  | done a => exact (pure_bind a fun a => (f a).playOn host).symm
  | ask q next ih =>
      calc (Asking.ask q next >>= f).playOn host
          = host.answer q >>= fun answer => (next answer >>= f).playOn host := rfl
        _ = host.answer q >>= fun answer =>
              (next answer).playOn host >>= fun a => (f a).playOn host := by simp only [ih]
        _ = (Asking.ask q next).playOn host >>= fun a => (f a).playOn host :=
              (bind_assoc _ _ _).symm

/-- The tree asks allowed questions only, and with the answers of the host it is this
computation. -/
structure Plays (host : Host m) (allowed : Question → Prop) (x : Asking α) (y : m α) : Prop where
  asks : x.Asks allowed
  playOn : x.playOn host = y

namespace Plays

theorem pure {a : α} : Plays host allowed (Pure.pure a) (Pure.pure a) := ⟨.done a, rfl⟩

theorem mono {allowed' : Question → Prop} {x : Asking α} {y : m α}
    (h : ∀ q, allowed q → allowed' q) (hx : Plays host allowed x y) : Plays host allowed' x y :=
  ⟨hx.asks.mono h, hx.playOn⟩

/-- Looking is part of searching. -/
theorem search {program : Path} {x : Asking α} {y : m α} (hx : Plays host Question.Looks x y) :
    Plays host (Question.Searches program) x y :=
  hx.mono fun _ => .look

variable [LawfulMonad m]

theorem bind {x : Asking α} {y : m α} {f : α → Asking β} {g : α → m β}
    (hx : Plays host allowed x y) (hf : ∀ a, Plays host allowed (f a) (g a)) :
    Plays host allowed (x >>= f) (y >>= g) := by
  refine ⟨hx.asks.bind fun a => (hf a).asks, ?_⟩
  calc (x >>= f).playOn host
      = x.playOn host >>= fun a => (f a).playOn host := playOn_bind
    _ = y >>= g := by simp only [hx.playOn, fun a => (hf a).playOn]

/-- One question. -/
theorem ask {q : Question} (hq : allowed q) :
    Plays host allowed (.ask q .done) (host.answer q) :=
  ⟨.ask hq .done, bind_pure _⟩

/-! ### Loading -/

section Loading

variable {dir file : Path}

theorem readText :
    Plays host Question.Looks (Asking.host.readText file) (host.readText file) := by
  refine .bind (.ask (.read file)) fun result => ?_
  cases result with
  | error reason => exact .pure
  | ok bytes =>
      dsimp only
      cases Text.Utf8.decode? bytes with
      | none => exact .pure
      | some text => exact .pure

theorem readMessages :
    Plays host Question.Looks (Asking.host.readMessages file) (host.readMessages file) := by
  refine .bind readText fun result => ?_
  cases result with
  | error reason => exact .pure
  | ok text => exact .pure

/-- **Loading a locale asks only to look.** -/
theorem loadLocale {locale : Locale} : Plays host Question.Looks
    (Asking.host.loadLocale locale file) (host.loadLocale locale file) :=
  .bind readMessages fun _ => .pure

theorem findConfigIn {dirs : List Path} :
    Plays host Question.Looks (Asking.host.findConfigIn dirs) (host.findConfigIn dirs) := by
  induction dirs with
  | nil => exact .pure
  | cons dir dirs ih =>
      refine .bind (.ask (.present _)) fun isConfigured => ?_
      cases isConfigured with
      | true => exact .pure
      | false =>
          refine .bind (.ask (.present _)) fun isRepository => ?_
          cases isRepository with
          | true => exact .pure
          | false => exact ih

theorem readConfig :
    Plays host Question.Looks (Asking.host.readConfig file) (host.readConfig file) := by
  refine .bind readText fun result => ?_
  cases result with
  | error reason => exact .pure
  | ok text =>
      dsimp only
      cases Config.read text with
      | error reason => exact .pure
      | ok config =>
          dsimp only
          cases config.firstBlank? with
          | some setting => exact .pure
          | none => exact .pure

/-- **Loading a configuration asks only to look.** -/
theorem loadConfig :
    Plays host Question.Looks (Asking.host.loadConfig dir) (host.loadConfig dir) := by
  refine .bind findConfigIn fun found => ?_
  cases found with
  | none => exact .pure
  | some file =>
      refine .bind readConfig fun result => ?_
      cases result with
      | error problem => exact .pure
      | ok config => exact .pure

end Loading

/-! ### Scanning -/

section Scanning

variable {program root : Path}

theorem readAll {files : List Path} :
    Plays host Question.Looks (Asking.host.readAll files) (host.readAll files) := by
  induction files with
  | nil => exact .pure
  | cons file files ih => exact .bind readText fun _ => .bind ih fun _ => .pure

theorem scanByWalk :
    Plays host Question.Looks (Asking.host.scanByWalk root) (host.scanByWalk root) :=
  .bind (.bind (.ask (.survey root)) fun _ => .pure) fun _ => .bind readAll fun _ => .pure

theorem isAvailable : Plays host (Question.Searches program)
    (Asking.host.isAvailable program) (host.isAvailable program) := by
  refine .bind (.ask (.run _)) fun result => ?_
  cases result with
  | error reason => exact .pure
  | ok finished => exact .pure

theorem namedFiles {lines : List (List Char)} :
    Plays host Question.Looks (Asking.host.namedFiles lines) (host.namedFiles lines) := by
  induction lines with
  | nil => exact .pure
  | cons line lines ih =>
      rw [Host.namedFiles, Host.namedFiles]
      cases Ripgrep.namedFile? line with
      | none => exact .pure
      | some named =>
          refine .bind (.ask (.present _)) fun isPresent => ?_
          cases isPresent with
          | false => exact .pure
          | true => exact .bind ih fun _ => .pure

theorem searchOnce {closing : Reference.Closing} : Plays host (Question.Searches program)
    (Asking.host.search program root closing) (host.search program root closing) := by
  refine .bind (.ask (.run _)) fun result => ?_
  cases result with
  | error reason => exact .pure
  | ok finished => exact .bind namedFiles.search fun _ => .pure

theorem searchAll {closings : List Reference.Closing} {found : Ripgrep.Search} :
    Plays host (Question.Searches program) (Asking.host.searchAll program root closings found)
      (host.searchAll program root closings found) := by
  induction closings generalizing found with
  | nil => exact .pure
  | cons closing closings ih =>
      refine .bind searchOnce fun result => ?_
      cases result with
      | error problem => exact .pure
      | ok more => exact ih

theorem scanByRipgrep : Plays host (Question.Searches program)
    (Asking.host.scanByRipgrep program root) (host.scanByRipgrep program root) := by
  refine .bind searchAll fun result => ?_
  cases result with
  | error problem => exact .pure
  | ok found => exact .pure

theorem selectScanner {preference : Scanner.Preference} : Plays host (Question.Searches program)
    (Asking.host.selectScanner preference program) (host.selectScanner preference program) := by
  cases preference with
  | auto => exact .bind isAvailable fun _ => .pure
  | ripgrep => exact .pure
  | walk => exact .pure

theorem scanWith {scanner : Scanner} : Plays host (Question.Searches program)
    (Asking.host.scanWith scanner program root) (host.scanWith scanner program root) := by
  cases scanner with
  | ripgrep => exact scanByRipgrep
  | walk => exact .bind scanByWalk.search fun _ => .pure

/-- **A scan looks and runs its program.** -/
theorem scanSources {preference : Scanner.Preference} : Plays host (Question.Searches program)
    (Asking.host.scanSources root preference program)
    (host.scanSources root preference program) := by
  refine .bind (.ask (.look (.isDirectory root))) fun isDirectory => ?_
  cases isDirectory with
  | false => exact .pure
  | true =>
      refine .bind selectScanner fun scanner => .bind scanWith fun result => ?_
      cases result with
      | ok scan => exact .pure
      | error problem =>
          by_cases hfallback : preference = .auto ∧ scanner = .ripgrep
          · simp only [hfallback, and_self, if_true]
            exact .bind scanByWalk.search fun _ => .pure
          · simp only [hfallback, if_false]
            exact .pure

/-- **An audit asks nothing else.** -/
theorem audit {paths : AuditPaths} {preference : Scanner.Preference} :
    Plays host (Question.Searches program)
    (Asking.host.audit paths preference program) (host.audit paths preference program) := by
  refine .bind loadLocale.search fun en => .bind loadLocale.search fun tr => ?_
  refine .bind scanSources fun result => ?_
  cases result with
  | error problem => exact .pure
  | ok scan => exact .pure

end Scanning

end Plays

end Asking

end KeyAudit
