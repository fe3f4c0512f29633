/-
Why a part of an audit cannot be carried out, and how it is said.

A problem is its cause; `Problem.chain` gives the words, from what was being done
down to what went wrong, and `Problem.message` joins them.
-/

import KeyAudit.Config.Basic
import KeyAudit.Host
import KeyAudit.Json.Failure
import KeyAudit.Text.Utf8

namespace KeyAudit

/-- Why the text of a file is not read. -/
inductive ReadFailure where
  | system (reason : OsError)
  /-- The file is not UTF-8. -/
  | notText
  deriving DecidableEq, Repr

def ReadFailure.words : ReadFailure → String
  | .system reason => reason.text
  | .notText => "stream did not contain valid UTF-8"

/-- Why something cannot be carried out. -/
inductive Problem where
  | messagesUnreadable (file : Path) (reason : ReadFailure)
  /-- The messages are no JSON; `text` is what the file holds. -/
  | messagesMalformed (file : Path) (text : String) (reason : Json.Failure)
  | messagesNotObject (file : Path)
  | sourceUnreadable (file : Path) (reason : ReadFailure)
  | programNotRun (program : Path) (reason : OsError)
  /-- A program ended badly; `words` is what it said. -/
  | programFailed (program : Path) (status : ProcessStatus) (words : String)
  | configUnreadable (reason : ReadFailure)
  | configMalformed (file : Path) (text : String) (reason : Json.Failure)
  | settingBlank (setting : Config.Setting)
  /-- A path option is empty; `option` is its name with the dashes. -/
  | optionEmpty (option : String)
  | configNotWritten (file : Path) (reason : OsError)
  | reportNotWritten (file : Path) (reason : OsError)
  | noWorkingDirectory (reason : OsError)

namespace Problem

/-- A name is given but holds nothing. -/
def emptyText (name : String) : String := "'" ++ name ++ "' must not be empty"

/-- What was being done, and below it what went wrong. -/
def chain : Problem → List String
  | .messagesUnreadable file reason =>
    ["Failed to read JSON file: " ++ Text.quoted file.text, reason.words]
  | .messagesMalformed file text reason =>
    ["Failed to parse JSON file: " ++ Text.quoted file.text, reason.message text]
  | .messagesNotObject file =>
    ["Expected a JSON object at the top level of " ++ Text.quoted file.text]
  | .sourceUnreadable file reason =>
    ["Failed to read source file: " ++ Text.quoted file.text, reason.words]
  | .programNotRun program reason => ["Failed to run " ++ Text.quoted program.text, reason.text]
  | .programFailed program status words =>
    [Text.quoted program.text ++ " exited with " ++ status.text ++ ": " ++ words]
  | .configUnreadable reason => [reason.words]
  | .configMalformed file text reason =>
    ["Failed to parse config file: " ++ Text.quoted file.text, reason.message text]
  | .settingBlank setting => [emptyText setting.name]
  | .optionEmpty option => [emptyText option]
  | .configNotWritten file reason =>
    ["Failed to write config file: " ++ Text.quoted file.text, reason.text]
  | .reportNotWritten file reason =>
    ["Failed to write report file: " ++ Text.quoted file.text, reason.text]
  | .noWorkingDirectory reason => ["Failed to determine current directory", reason.text]

/-- The whole chain in one line. -/
def message (p : Problem) : String := String.intercalate ": " p.chain

end Problem

namespace Host

variable {m : Type → Type} [Monad m]

/-- The text of a file. -/
def readText (host : Host m) (file : Path) : m (Except ReadFailure String) := do
  match ← host.read file with
  | .error reason => return .error (.system reason)
  | .ok bytes =>
    match Text.Utf8.decode? bytes with
    | some text => return .ok text
    | none => return .error .notText

end Host

end KeyAudit
