/-
The value of one setting in a configuration file.

`fieldNames` are the names of the settings, and `Denotes` says which texts stand for a value of
the right type. Such a value is read however it is spelled (`readSetting_of_denotes`). A value
of any other kind may be read or not; where it is read, the reader stops where it would stop
when passing the value over (`skipNested_of_readSetting`), so that what follows is read alike.
-/

import KeyAudit.Proofs.Config.Written
import KeyAudit.Proofs.Json.Skipped

namespace KeyAudit.Config

open KeyAudit.Json

/-! ### Names and types of settings -/

/-- The names by which a file may call the settings. -/
def fieldNames : List (String × Setting) :=
  [("enMessages", .enMessages), ("trMessages", .trMessages), ("sourceRoot", .sourceRoot),
    ("sourceDir", .sourceRoot), ("reportPath", .reportPath), ("scanner", .scanner),
    ("maxUnusedPreview", .maxUnused), ("maxUsedPreview", .maxUsed)]

theorem Setting.ofName?_eq (name : String) : Setting.ofName? name = fieldNames.lookup name := by
  by_cases hknown : name ∈ fieldNames.map Prod.fst
  · simp only [fieldNames, List.map_cons, List.map_nil, List.mem_cons, List.not_mem_nil,
      or_false] at hknown
    rcases hknown with rfl | rfl | rfl | rfl | rfl | rfl | rfl | rfl <;> rfl
  · have hlookup : fieldNames.lookup name = none := by
      rw [List.lookup_eq_none_iff]
      intro field hfield
      rw [bne_iff_ne]
      rintro rfl
      exact hknown (List.mem_map_of_mem hfield)
    rw [hlookup, Setting.ofName?, List.find?_eq_none]
    intro setting _ hcalled
    rw [Bool.or_eq_true, beq_iff_eq, beq_iff_eq] at hcalled
    rcases hcalled with rfl | hother
    · exact hknown (by cases setting <;> decide)
    · cases setting <;> cases hother
      exact hknown (by decide)

/-- A text between quotes or a natural number in digits, and what it stands for. -/
inductive Denotes : List Char → Json → Prop where
  | text {body : List Char} {s : String} : Spells body s.toList →
      Denotes ('"' :: (body ++ ['"'])) (.str s)
  | natural (n : Nat) : Denotes (Nat.toDigits 10 n) (.num (.int n))

theorem Denotes.exists_body {v : List Char} {s : String} (h : Denotes v (.str s)) :
    ∃ body, Spells body s.toList ∧ v = '"' :: (body ++ ['"']) := by
  cases h with
  | text hbody => exact ⟨_, hbody, rfl⟩

theorem Denotes.eq_digits {v : List Char} {n : Nat} (h : Denotes v (.num (.int n))) :
    v = Nat.toDigits 10 n := by
  generalize hvalue : Json.num (.int n) = value at h
  cases h with
  | text => cases hvalue
  | natural m =>
      simp only [Json.num.injEq, Number.int.injEq, Int.natCast_inj] at hvalue
      rw [hvalue]

/-! ### Values that are read -/

theorem readString_of_spells (wanted : String) {before body : List Char} {s : String}
    (hbefore : IsBlank before) (hbody : Spells body s.toList) (rest : List Char) :
    readString wanted (before ++ '"' :: (body ++ '"' :: rest)) = .ok (s, rest) := by
  rw [readString, skipSpace_blank hbefore]
  exact readText_of_spells hbody rest

theorem readPreference_of_spells {before body : List Char} {p : Scanner.Preference}
    (hbefore : IsBlank before) (hbody : Spells body p.word.toList) (rest : List Char) :
    readPreference (before ++ '"' :: (body ++ '"' :: rest)) = .ok (p, rest) := by
  rw [readPreference, skipSpace_blank hbefore]
  change preferenceOf (readText _) = _
  rw [readText_of_spells hbody, preferenceOf]
  simp only [Scanner.Preference.ofWord?_word]

theorem readLimit_blank {before : List Char} (hbefore : IsBlank before) (s : List Char) :
    readLimit (before ++ s) = readLimit s := by
  simp only [readLimit, skipSpace_blank hbefore]

theorem readLimit_toDigits {before rest : List Char} (hbefore : IsBlank before) (limit : UInt64)
    (hrest : endsNumber rest = true) :
    readLimit (before ++ (Nat.toDigits 10 limit.toNat ++ rest)) = .ok (limit, rest) := by
  have hone : IsBlank [' '] := by decide
  have hdigits : (Number.int limit.toNat).written = Nat.toDigits 10 limit.toNat := Nat.toList_repr
  rw [readLimit_blank hbefore, ← readLimit_blank hone, ← hdigits]
  exact readLimit_written limit hrest

/-- **A value of the right type is read**, however it is spelled. -/
theorem readSetting_of_denotes {c : Config} {setting : Setting} {before v rest : List Char}
    (hbefore : IsBlank before) (hv : Denotes v (c.valueOf setting))
    (hrest : endsNumber rest = true) (p : Patch) :
    readSetting p setting (before ++ (v ++ rest)) = .ok (p.taking c setting, rest) := by
  cases setting with
  | enMessages | trMessages | sourceRoot | reportPath =>
      obtain ⟨body, hbody, rfl⟩ := hv.exists_body
      simp only [List.cons_append, List.append_assoc, List.nil_append, readSetting,
        readString_of_spells _ hbefore hbody]
      rfl
  | scanner =>
      obtain ⟨body, hbody, rfl⟩ := hv.exists_body
      simp only [List.cons_append, List.append_assoc, List.nil_append, readSetting,
        readPreference_of_spells hbefore hbody]
      rfl
  | maxUnused | maxUsed =>
      obtain rfl := hv.eq_digits
      simp only [readSetting, readLimit_toDigits hbefore _ hrest]
      rfl

/-! ### What a value that was read leaves behind it -/

theorem mapRead_eq_ok {α β : Type} {f : α → β} {x : Except Failure (α × List Char)} {y : β}
    {r : List Char} (h : mapRead f x = .ok (y, r)) : ∃ a, x = .ok (a, r) ∧ y = f a := by
  unfold mapRead at h
  split at h
  · obtain ⟨rfl, rfl⟩ := Prod.mk.inj (Except.ok.inj h)
    exact ⟨_, rfl, rfl⟩
  · cases h

section Alike

variable {bound depth : Nat} {s r : List Char}

theorem skipOuter_quote {inner : Reader Unit} {t : List Char} (hs : skipSpace s = '"' :: t) :
    skipOuter bound inner s = skipText t := by
  simp only [skipOuter, hs]

theorem skipNested_of_readString {wanted x : String} (h : readString wanted s = .ok (x, r)) :
    skipNested bound (depth + 1) s = .ok ((), r) := by
  unfold readString at h
  split at h
  · cases h
  · rename_i t hs
    exact (skipOuter_quote hs).trans (skipText_of_readText h)
  · cases h

theorem exists_of_limitOf {x : Except Failure (Number × List Char)} {limit : UInt64}
    (h : limitOf x = .ok (limit, r)) : ∃ n, x = .ok (.int n, r) := by
  unfold limitOf at h
  split at h
  · cases h
  · split at h
    · obtain ⟨-, rfl⟩ := Prod.mk.inj (Except.ok.inj h)
      exact ⟨_, rfl⟩
    · cases h
  · cases h

theorem skipNested_of_readLimit {limit : UInt64} (h : readLimit s = .ok (limit, r)) :
    skipNested bound (depth + 1) s = .ok ((), r) := by
  unfold readLimit at h
  split at h
  · cases h
  · rename_i t hs
    obtain ⟨n, hn⟩ := exists_of_limitOf h
    simp only [skipNested, skipOuter, hs]
    exact skipNumber_of_readNumber hn
  · rename_i c t hminus hs
    split at h
    · rename_i hc
      obtain ⟨n, hn⟩ := exists_of_limitOf h
      exact (skipOuter_digit hc hs).trans (skipNumber_of_readNumber hn)
    · cases h

theorem exists_of_preferenceOf {x : Except Failure (String × List Char)} {p : Scanner.Preference}
    (h : preferenceOf x = .ok (p, r)) : ∃ word, x = .ok (word, r) := by
  unfold preferenceOf at h
  split at h
  · cases h
  · split at h
    · obtain ⟨-, rfl⟩ := Prod.mk.inj (Except.ok.inj h)
      exact ⟨_, rfl⟩
    · cases h

theorem exists_of_readWordName {word : String} (h : readWordName s = .ok (word, r)) :
    ∃ t, skipSpace s = '"' :: t ∧ readText t = .ok (word, r) := by
  unfold readWordName at h
  split at h
  · cases h
  · rename_i t hs
    exact ⟨t, hs, h⟩
  · cases h
  · cases h

theorem exists_of_readNull (h : readNull s = .ok ((), r)) :
    ∃ t, skipSpace s = 'n' :: t ∧ readWord ['u', 'l', 'l'] t = .ok ((), r) := by
  unfold readNull at h
  split at h
  · cases h
  · rename_i t hs
    exact ⟨t, hs, h⟩
  · cases h

theorem skipSpace_of_closePreference {p q : Scanner.Preference}
    (h : closePreference p s = .ok (q, r)) : skipSpace s = '\x7d' :: r := by
  unfold closePreference at h
  split at h
  · cases h
  · rename_i t hs
    obtain ⟨-, rfl⟩ := Prod.mk.inj (Except.ok.inj h)
    exact hs
  · cases h

/-- A preference may be an object, which is passed over as one with a single member. -/
theorem skipNested_of_readPreference {p : Scanner.Preference} (h : readPreference s = .ok (p, r)) :
    skipNested (bound + 2) (depth + 2) s = .ok ((), r) := by
  unfold readPreference at h
  split at h
  · cases h
  · rename_i t hs
    obtain ⟨word, hword⟩ := exists_of_preferenceOf h
    exact (skipOuter_quote hs).trans (skipText_of_readText hword)
  · rename_i t hs
    split at h
    · cases h
    rename_i q r₁ hname
    obtain ⟨word, hword⟩ := exists_of_preferenceOf hname
    obtain ⟨u, hu, htext⟩ := exists_of_readWordName hword
    split at h
    · cases h
    rename_i r₂ hcolon
    split at h
    · cases h
    rename_i r₃ hnull
    obtain ⟨w, hw, hll⟩ := exists_of_readNull hnull
    have hclose := skipSpace_of_closePreference h
    have hopen : nextSkippedMember true t = .ok (.more u) := by
      simp only [nextSkippedMember, hu, if_true]
      rfl
    have hvalue : skipNested (bound + 2) (depth + 1) r₂ = .ok ((), r₃) := by
      simp only [skipNested, skipOuter, hw, hll]
    have hmember : skipMember (skipNested (bound + 2) (depth + 1)) u = .ok ((), r₃) := by
      simp only [skipMember, skipText_of_readText htext, hcolon, hvalue]
    have hdone : nextSkippedMember false r₃ = .ok (.done r) := by
      simp only [nextSkippedMember, hclose]
    rw [skipNested, skipOuter, hs]
    simp only [readItems, hopen, hmember, hdone, mapRead]
  · cases h

/-- **A value that is read leaves the same behind it as one that is passed over.** -/
theorem skipNested_of_readSetting {p p' : Patch} {setting : Setting}
    (h : readSetting p setting s = .ok (p', r)) :
    skipNested (bound + 2) (depth + 2) s = .ok ((), r) := by
  cases setting with
  | enMessages | trMessages | sourceRoot | reportPath =>
      obtain ⟨x, hx, -⟩ := mapRead_eq_ok h
      exact skipNested_of_readString hx
  | scanner =>
      obtain ⟨x, hx, -⟩ := mapRead_eq_ok h
      exact skipNested_of_readPreference hx
  | maxUnused | maxUsed =>
      obtain ⟨x, hx, -⟩ := mapRead_eq_ok h
      exact skipNested_of_readLimit hx

/-- A setting that is read is one more that the patch sets. -/
theorem has_of_readSetting {p p' : Patch} {setting : Setting}
    (h : readSetting p setting s = .ok (p', r)) (other : Setting) :
    p'.has other = (decide (other = setting) || p.has other) := by
  cases setting with
  | enMessages | trMessages | sourceRoot | reportPath | scanner | maxUnused | maxUsed =>
      obtain ⟨x, -, rfl⟩ := mapRead_eq_ok h
      cases other <;> rfl

end Alike

end KeyAudit.Config
