/-
Carrying out an audit: both locales are loaded and the sources are scanned. What
fails on the way is a warning; only a scan that cannot fall back stops the audit.
-/

import KeyAudit.LocaleFile
import KeyAudit.Scan.Select

namespace KeyAudit

/-- The audit that two loads and a scan make. -/
def Audit.ofParts (paths : AuditPaths) (en tr : LocaleLoad) (scan : SourceScan) : Audit where
  paths := paths
  analysis := ⟨en.keys, tr.keys, scan.keys⟩
  localesLoaded := ([en, tr].filter LocaleLoad.isLoaded).length
  localeWarnings := [en, tr].filterMap LocaleLoad.warning
  sourceWarnings := scan.warnings
  scanner := scan.scanner
  filesScanned := scan.files
  fallback := scan.fallback

/-- Carries out an audit. -/
def Host.audit {m : Type → Type} [Monad m] (host : Host m) (paths : AuditPaths)
    (preference : Scanner.Preference) (program : Path) : m (Except Problem Audit) := do
  let en ← host.loadLocale .english paths.enMessages
  let tr ← host.loadLocale .turkish paths.trMessages
  match ← host.scanSources paths.sourceRoot preference program with
  | .error problem => return .error problem
  | .ok scan => return .ok (.ofParts paths en tr scan)

end KeyAudit
