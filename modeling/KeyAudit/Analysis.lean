/-
Comparing the keys that two locales define with the keys that sources use.

An `Analysis` keeps the three sets; everything else is derived from them, so the
derived sets cannot disagree with each other.
-/

import KeyAudit.Decimal.Fixed
import KeyAudit.KeySet

namespace KeyAudit

/-- The two locales that are compared. -/
inductive Locale where
  | english
  | turkish
  deriving DecidableEq, Repr

namespace Locale

/-- How a listing of keys marks the locale. -/
def tag : Locale → String
  | .english => "EN"
  | .turkish => "TR"

/-- How a message names the locale. -/
def label : Locale → String
  | .english => "English"
  | .turkish => "Turkish"

end Locale

/-- Which locales define a key. -/
structure Presence where
  en : Bool
  tr : Bool
  deriving DecidableEq, Repr

/-- Both tags in brackets, with `missing` in the place of a locale that does not
define the key. -/
def Presence.label (p : Presence) (missing : String) : String :=
  "[" ++ (if p.en then Locale.english.tag else missing) ++ "] [" ++
    (if p.tr then Locale.turkish.tag else missing) ++ "]"

/-- The keys of both locales, and the keys that sources use. -/
structure Analysis where
  en : KeySet
  tr : KeySet
  used : KeySet
  deriving DecidableEq

namespace Analysis

/-- The keys that some locale defines. -/
def all (a : Analysis) : KeySet := a.en.union a.tr

/-- The keys that only English defines. -/
def enOnly (a : Analysis) : KeySet := a.en.diff a.tr

/-- The keys that only Turkish defines. -/
def trOnly (a : Analysis) : KeySet := a.tr.diff a.en

/-- The keys that only one locale defines. -/
def only (a : Analysis) : Locale → KeySet
  | .english => a.enOnly
  | .turkish => a.trOnly

/-- The keys that are defined and not used. -/
def unused (a : Analysis) : KeySet := a.all.diff a.used

/-- How many of the defined keys are used. -/
def usedDefined (a : Analysis) : Nat := a.all.size - a.unused.size

/-- The share of the defined keys that is used; none if nothing is defined. -/
def usageRate (a : Analysis) : Option Float :=
  if a.all.isEmpty then none else some (a.usedDefined.toFloat / a.all.size.toFloat)

/-- Which locales define this key? -/
def presence (a : Analysis) (key : String) : Presence :=
  ⟨decide (key ∈ a.en), decide (key ∈ a.tr)⟩

theorem mem_all {a : Analysis} {k : String} : k ∈ a.all ↔ k ∈ a.en ∨ k ∈ a.tr :=
  KeySet.mem_union

theorem mem_enOnly {a : Analysis} {k : String} : k ∈ a.enOnly ↔ k ∈ a.en ∧ ¬ k ∈ a.tr :=
  KeySet.mem_diff

theorem mem_trOnly {a : Analysis} {k : String} : k ∈ a.trOnly ↔ k ∈ a.tr ∧ ¬ k ∈ a.en :=
  KeySet.mem_diff

theorem mem_unused {a : Analysis} {k : String} :
    k ∈ a.unused ↔ (k ∈ a.en ∨ k ∈ a.tr) ∧ ¬ k ∈ a.used := by
  rw [unused, KeySet.mem_diff, mem_all]

end Analysis

/-- A share as a percentage with one decimal place. -/
def usageRateText : Option Float → String
  | none => "n/a"
  | some rate =>
    String.ofList (Decimal.fixed 1 (Decimal.read (rate * 100.0).toBits)) ++ "%"

end KeyAudit
