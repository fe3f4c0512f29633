/-
What an audit is made of, on a host that answers from one state of the world: the keys of
the locale files that could be loaded, and the keys of a scan.

A locale file counts only if it holds a JSON object (`Host.HoldsDocument`). Its keys are
the paths of the leaves of that document (`mem_keys_loadLocale_iff`); a file that is
missing, no UTF-8, no JSON or no object defines none.
-/

import KeyAudit.Audit.Perform
import KeyAudit.Proofs.Messages.LeafPaths
import KeyAudit.Proofs.Scan.WalkedKeys

namespace KeyAudit

/-! ### Worlds that are written down -/

/-- A state of the world: the texts of its files, the trees of its directories, and what
programs answer there. -/
structure Snapshot where
  texts : List (Path × String)
  trees : List (Path × SourceTree)
  answer : Path → List String → Except OsError Finished

/-- The host that answers from a state of the world. It writes nothing. -/
def Snapshot.host (s : Snapshot) : Host Id where
  present p := (s.texts.lookup p).isSome || (s.trees.lookup p).isSome
  isDirectory p := (s.trees.lookup p).isSome
  read p := match s.texts.lookup p with
    | some text => .ok text.toUTF8
    | none => .error .notFound
  survey p := match s.trees.lookup p with
    | some tree => .ok tree
    | none => .error .notFound
  write _ _ := .error .permissionDenied
  run := s.answer
  workingDirectory := .ok ⟨"/"⟩
  now := ""

/-- The paths of a small project. -/
def AuditPaths.sample : AuditPaths := ⟨⟨"en.json"⟩, ⟨"tr.json"⟩, ⟨"src"⟩, ⟨"report.txt"⟩⟩

namespace Host

variable {host : Host Id}

/-! ### Locales -/

/-- The file holds a JSON object, and this is its value. -/
def HoldsDocument (host : Host Id) (file : Path) (document : Json) : Prop :=
  ∃ text, host.Holds file text ∧ Json.read text = .ok document ∧ document.isObject = true

/-- The key is the path of a leaf of the document in the file. -/
def Defines (host : Host Id) (file : Path) (key : String) : Prop :=
  ∃ document names leaf, host.HoldsDocument file document ∧ document.LeafAt names leaf ∧
    key = Json.pathBelow "." "" names

/-- Messages are read exactly from a file that holds a JSON object. -/
theorem readMessages_eq_ok_iff {file : Path} {messages : Messages} :
    (host.readMessages file).run = .ok messages ↔
      ∃ document, host.HoldsDocument file document ∧
        messages = Messages.flatten document "" keySeparator := by
  have hread : (host.readMessages file).run = .ok messages ↔
      ∃ text, host.Holds file text ∧ Messages.ofText file text = .ok messages := by
    unfold readMessages
    simp only [Id.run_bind, ← readText_eq_ok_iff]
    cases (host.readText file).run <;> simp
  rw [hread]
  constructor
  · rintro ⟨text, hholds, htext⟩
    unfold Messages.ofText at htext
    split at htext
    · cases htext
    · rename_i document hjson
      split at htext
      · rename_i hobj
        cases htext
        exact ⟨document, ⟨text, hholds, hjson, hobj⟩, rfl⟩
      · cases htext
  · rintro ⟨document, ⟨text, hholds, hjson, hobj⟩, rfl⟩
    refine ⟨text, hholds, ?_⟩
    unfold Messages.ofText
    rw [hjson]
    exact if_pos hobj

/-- **A locale has the keys that its file defines.** -/
theorem mem_keys_loadLocale_iff {locale : Locale} {file : Path} {key : String} :
    key ∈ (host.loadLocale locale file).run.keys ↔ host.Defines file key := by
  have hload : (host.loadLocale locale file).run =
      .ofResult locale file (host.readMessages file).run := rfl
  rw [hload]
  constructor
  · intro hkey
    cases hresult : (host.readMessages file).run with
    | error problem =>
        rw [hresult] at hkey
        exact absurd hkey KeySet.not_mem_empty
    | ok messages =>
        rw [hresult] at hkey
        obtain ⟨document, hdoc, rfl⟩ := readMessages_eq_ok_iff.mp hresult
        obtain ⟨names, leaf, hleaf, hpath⟩ := Messages.mem_keys_flatten_iff.mp hkey
        exact ⟨document, names, leaf, hdoc, hleaf, hpath⟩
  · rintro ⟨document, names, leaf, hdoc, hleaf, hpath⟩
    rw [readMessages_eq_ok_iff.mpr ⟨document, hdoc, rfl⟩]
    exact Messages.mem_keys_flatten_iff.mpr ⟨names, leaf, hleaf, hpath⟩

/-! ### Scans -/

/-- A source file below the root references the key. -/
def ReferencesBelow (host : Host Id) (root : Path) (tree : SourceTree) (key : String) : Prop :=
  ∃ file text, tree.SourceAt root file ∧ host.Holds file text ∧
    Reference.References text.toList key.toList

theorem run_scanSources_walk {root program : Path}
    (directory : (host.isDirectory root).run = true) :
    (host.scanSources root .walk program).run = .ok (host.scanByWalk root).run := by
  unfold scanSources
  simp only [Id.run_bind, directory]
  rfl

/-! ### Both together -/

/-- An audit fails only with its scan. -/
theorem run_audit {paths : AuditPaths} {preference : Scanner.Preference} {program : Path} :
    (host.audit paths preference program).run =
      match (host.scanSources paths.sourceRoot preference program).run with
      | .error problem => .error problem
      | .ok scan => .ok (.ofParts paths (host.loadLocale .english paths.enMessages).run
          (host.loadLocale .turkish paths.trMessages).run scan) := by
  unfold audit
  simp only [Id.run_bind]
  cases (host.scanSources paths.sourceRoot preference program).run <;> rfl

/-- An audit that walks a directory is carried out. -/
theorem run_audit_walk {paths : AuditPaths} {program : Path}
    (directory : (host.isDirectory paths.sourceRoot).run = true) :
    (host.audit paths .walk program).run =
      .ok (.ofParts paths (host.loadLocale .english paths.enMessages).run
        (host.loadLocale .turkish paths.trMessages).run
        (host.scanByWalk paths.sourceRoot).run) := by
  rw [run_audit, run_scanSources_walk directory]

end Host

end KeyAudit
