/-
Which files are sources that may hold key references: TypeScript and JavaScript
files, by the end of their name, but not generated type declarations.

`isSourceName_iff` states the rule by the ends of the name.
-/

import KeyAudit.Path

namespace KeyAudit

/-- Extensions of source files. -/
def sourceExtensions : List String := ["ts", "tsx", "js", "jsx"]

/-- The end of the name of a type declaration file. -/
def declarationSuffix : String := ".d.ts"

/-- The end of a file name that has this extension. -/
def dotted (extension : String) : List Char := '.' :: extension.toList

/-- Does a file of this name hold source code? A name that is an extension alone
counts. -/
def isSourceName (name : String) : Bool :=
  (sourceExtensions.any fun e => (dotted e).isSuffixOf name.toList) &&
    !declarationSuffix.toList.isSuffixOf name.toList

/-- Does the path name a source file? -/
def Path.isSource (p : Path) : Bool :=
  match p.name? with
  | some name => isSourceName name
  | none => false

/-- A source name ends in one of the four extensions and not as a declaration. -/
theorem isSourceName_iff {name : String} :
    isSourceName name = true ↔
      (∃ e ∈ sourceExtensions, dotted e <:+ name.toList) ∧
        ¬ declarationSuffix.toList <:+ name.toList := by
  simp only [isSourceName, Bool.and_eq_true, List.any_eq_true, List.isSuffixOf_iff_suffix,
    Bool.not_eq_true', ← Bool.not_eq_true]

end KeyAudit
