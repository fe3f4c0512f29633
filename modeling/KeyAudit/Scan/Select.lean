/-
Choosing a scanner and scanning a source tree.

A root that is no directory gives an empty scan with a warning. Where the program
was chosen automatically and its scan fails, the walk steps in and nothing of the
failed scan is kept but the reason.
-/

import KeyAudit.Scan.Ripgrep
import KeyAudit.Scan.Walk

namespace KeyAudit

/-- The scan of a root that is no directory. -/
def SourceScan.missing (root : Path) : SourceScan where
  keys := .empty
  files := none
  warnings := [⟨root.text, "Source directory does not exist"⟩]
  scanner := .walk
  fallback := none

namespace Host

variable {m : Type → Type} [Monad m]

/-- The scanner for a preference; the program is probed if nothing else decides. -/
def selectScanner (host : Host m) (preference : Scanner.Preference) (program : Path) :
    m Scanner := do
  match preference with
  | .walk => return .walk
  | .ripgrep => return .ripgrep
  | .auto => return if ← host.isAvailable program then .ripgrep else .walk

/-- Scans with one scanner. -/
def scanWith (host : Host m) (scanner : Scanner) (program root : Path) :
    m (Except Problem SourceScan) := do
  match scanner with
  | .walk => return .ok (← host.scanByWalk root)
  | .ripgrep => host.scanByRipgrep program root

/-- Scans a source tree for the keys it uses. -/
def scanSources (host : Host m) (root : Path) (preference : Scanner.Preference) (program : Path) :
    m (Except Problem SourceScan) := do
  if !(← host.isDirectory root) then return .ok (.missing root)
  let scanner ← host.selectScanner preference program
  match ← host.scanWith scanner program root with
  | .ok scan => return .ok scan
  | .error problem =>
    if preference = .auto ∧ scanner = .ripgrep then
      return .ok { ← host.scanByWalk root with fallback := some problem.message }
    else return .error problem

end Host

end KeyAudit
