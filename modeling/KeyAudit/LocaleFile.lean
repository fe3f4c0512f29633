/-
Loading the messages of a locale. A file that is missing, no JSON or no object
leaves a warning and no messages, so that an audit can go on with the other locale.
-/

import KeyAudit.Audit.Basic
import KeyAudit.Json.Reader
import KeyAudit.Messages
import KeyAudit.Problem

namespace KeyAudit

/-- Stands between the names of a path of messages. -/
def keySeparator : String := "."

/-- The messages that the text of a locale file holds. -/
def Messages.ofText (file : Path) (text : String) : Except Problem Messages :=
  match Json.read text with
  | .error reason => .error (.messagesMalformed file text reason)
  | .ok document =>
    if document.isObject then .ok (flatten document "" keySeparator)
    else .error (.messagesNotObject file)

/-- What loading a locale gives. -/
structure LocaleLoad where
  messages : Messages
  warning : Option LocaleWarning

namespace LocaleLoad

/-- Was the file loaded? -/
def isLoaded (l : LocaleLoad) : Bool := l.warning.isNone

/-- The keys that the locale defines. -/
def keys (l : LocaleLoad) : KeySet := l.messages.keys

/-- The load that comes of reading a file or failing to. -/
def ofResult (locale : Locale) (file : Path) : Except Problem Messages → LocaleLoad
  | .ok messages => ⟨messages, none⟩
  | .error problem => ⟨.empty, some ⟨locale, file.text, problem.message⟩⟩

end LocaleLoad

namespace Host

variable {m : Type → Type} [Monad m]

/-- The messages of a locale file. -/
def readMessages (host : Host m) (file : Path) : m (Except Problem Messages) := do
  match ← host.readText file with
  | .error reason => return .error (.messagesUnreadable file reason)
  | .ok text => return Messages.ofText file text

/-- Loads a locale. -/
def loadLocale (host : Host m) (locale : Locale) (file : Path) : m LocaleLoad := do
  return .ofResult locale file (← host.readMessages file)

end Host

end KeyAudit
