/-
A configuration that was written is read back.

The text has a line for each setting. What a reader makes of one line is said once
(`readMembersFrom_line`): the line is used up, and the patch has its setting. By induction
over the settings the whole text gives a patch that has them all (`readPatch_written`),
whatever texts and limits they are. So no default can stand in for a setting whose line was
misread, and what is read is what was written (`read_written`).
-/

import KeyAudit.Config.Text
import KeyAudit.Proofs.Json.Numeral

namespace KeyAudit.Config

open KeyAudit.Json

/-! ### Taking settings into a patch -/

/-- The patch with one of its settings taken from a configuration. -/
def Patch.taking (c : Config) (p : Patch) : Setting → Patch
  | .enMessages => { p with enMessages := some c.enMessages }
  | .trMessages => { p with trMessages := some c.trMessages }
  | .sourceRoot => { p with sourceRoot := some c.sourceRoot }
  | .reportPath => { p with reportPath := some c.reportPath }
  | .scanner => { p with scanner := some c.scanner }
  | .maxUnused => { p with maxUnused := some c.maxUnused }
  | .maxUsed => { p with maxUsed := some c.maxUsed }

theorem Patch.has_taking_of_ne {c : Config} {p : Patch} {setting other : Setting}
    (h : other ≠ setting) : (p.taking c setting).has other = p.has other := by
  cases setting <;> cases other <;> first | rfl | exact absurd rfl h

/-- A patch that has taken all settings gives the configuration. -/
theorem applyTo_taking_all (c base : Config) :
    (Setting.all.foldl (Patch.taking c) {}).applyTo base = c := rfl

theorem has_taking_all (c : Config) (setting : Setting) :
    (Setting.all.foldl (Patch.taking c) {}).has setting = true := by
  cases setting <;> rfl

/-! ### Values -/

theorem readText_written (s : String) (rest : List Char) :
    readText (s.toList.flatMap writtenChar ++ '"' :: rest) = .ok (s, rest) := by
  rw [readText, readTextFrom_written]
  simp only [String.ofList_toList]

theorem writtenText_append (s rest : List Char) :
    writtenText s ++ rest = '"' :: (s.flatMap writtenChar ++ '"' :: rest) := by
  simp [writtenText]

theorem readString_written (wanted s : String) (rest : List Char) :
    readString wanted (' ' :: (writtenText s.toList ++ rest)) = .ok (s, rest) := by
  rw [writtenText_append]
  exact readText_written s rest

theorem readPreference_written (p : Scanner.Preference) (rest : List Char) :
    readPreference (' ' :: (writtenText p.word.toList ++ rest)) = .ok (p, rest) := by
  rw [writtenText_append]
  change preferenceOf (readText _) = _
  rw [readText_written, preferenceOf]
  simp only [Scanner.Preference.ofWord?_word]

theorem readLimit_written (limit : UInt64) {rest : List Char} (hrest : endsNumber rest = true) :
    readLimit (' ' :: ((Number.int limit.toNat).written ++ rest)) = .ok (limit, rest) := by
  have hword : limit.toNat ≤ maxWord := Nat.le_sub_one_of_lt limit.toNat_lt
  have hread := readNumber_toDigits hword hrest
  have hdigits : (Number.int limit.toNat).written = Nat.toDigits 10 limit.toNat := Nat.toList_repr
  rw [hdigits]
  cases htext : Nat.toDigits 10 limit.toNat with
  | nil => exact absurd htext Nat.toDigits_ne_nil
  | cons c cs =>
      have hc : c.isDigit = true := isDigit_of_mem_toDigits (htext ▸ List.mem_cons_self)
      have hspace : ¬ isSpace c = true := by simp [isSpace_of_isDigit hc]
      have hskip : skipSpace (' ' :: (c :: cs ++ rest)) = c :: (cs ++ rest) := by
        rw [skipSpace, List.dropWhile_cons_of_pos rfl, List.cons_append,
          List.dropWhile_cons_of_neg hspace]
      have hminus : c ≠ '-' := by
        rintro rfl
        exact absurd hc (by decide)
      rw [htext, List.cons_append] at hread
      rw [readLimit, hskip]
      split
      · rename_i heq
        cases heq
      · rename_i heq
        exact absurd (List.cons.inj heq).1 hminus
      · rename_i heq
        cases heq
        rw [if_pos hc, hread, limitOf, if_pos (Int.natCast_nonneg _), Int.toNat_natCast]
        exact congrArg (fun n => Except.ok (n, rest)) UInt64.ofNat_toNat

/-- **The written value of a setting is read back.** -/
theorem readSetting_written (c : Config) (p : Patch) (setting : Setting) {rest : List Char}
    (hrest : endsNumber rest = true) :
    readSetting p setting (' ' :: (Json.written (c.valueOf setting) ++ rest)) =
      .ok (p.taking c setting, rest) := by
  cases setting with
  | enMessages | trMessages | sourceRoot | reportPath =>
      simp only [readSetting, valueOf, Json.written, readString_written]
      rfl
  | scanner =>
      simp only [readSetting, valueOf, Json.written, readPreference_written]
      rfl
  | maxUnused | maxUsed =>
      simp only [readSetting, valueOf, Json.written, readLimit_written _ hrest]
      rfl

/-! ### Lines -/

/-- The line of a setting. -/
def settingLine (c : Config) (setting : Setting) : List Char :=
  memberLine (setting.name, c.valueOf setting)

/-- What stands before a line. -/
def lineStart : Bool → List Char
  | true => ['\n']
  | false => [',', '\n']

/-- **A line of settings is read into the patch.** -/
theorem readMembersFrom_line {c : Config} {p : Patch} {setting : Setting} {bound n : Nat}
    {rest : List Char} (first : Bool) (fresh : p.has setting = false)
    (hrest : endsNumber rest = true) :
    readMembersFrom (readMember bound) (n + 1) first p
        (lineStart first ++ (c.settingLine setting ++ rest)) =
      readMembersFrom (readMember bound) n false (p.taking c setting) rest := by
  have hline : c.settingLine setting ++ rest =
      ' ' :: ' ' :: '"' :: (setting.name.toList.flatMap writtenChar ++
        '"' :: ':' :: ' ' :: (Json.written (c.valueOf setting) ++ rest)) := by
    simp [settingLine, memberLine, writtenText]
  have hnext (t : List Char) :
      nextMember first (lineStart first ++ ' ' :: ' ' :: '"' :: t) = .ok (.more t) := by
    cases first <;> rfl
  have hmember : readMember bound p setting.name
      (':' :: ' ' :: (Json.written (c.valueOf setting) ++ rest)) =
        .ok (p.taking c setting, rest) := by
    rw [← readSetting_written c p setting hrest]
    simp only [readMember, Setting.ofName?_name, fresh, Bool.false_eq_true, if_false]
    rfl
  simp only [hline, readMembersFrom, hnext, readText_written, hmember]

/-- What stands behind a line, where these settings are left. -/
def afterLine (c : Config) : List Setting → List Char
  | [] => ['\n', '\x7d']
  | setting :: settings => lineStart false ++ (c.settingLine setting ++ afterLine c settings)

theorem commaLines_eq (c : Config) (setting : Setting) (settings : List Setting) :
    commaLines ((setting :: settings).map c.settingLine) ++ ['\n', '\x7d'] =
      c.settingLine setting ++ c.afterLine settings := by
  induction settings generalizing setting with
  | nil => rfl
  | cons next settings ih =>
      rw [List.map_cons, List.map_cons, commaLines, List.append_assoc, List.cons_append,
        List.cons_append, ← List.map_cons, ih next]
      rfl

theorem endsNumber_afterLine (c : Config) (settings : List Setting) :
    endsNumber (c.afterLine settings) = true := by
  cases settings <;> rfl

theorem length_lt_afterLine (c : Config) (settings : List Setting) :
    settings.length < (c.afterLine settings).length := by
  induction settings with
  | nil => exact Nat.zero_lt_two
  | cons setting settings ih =>
      simp only [afterLine, lineStart, List.length_append, List.length_cons, List.length_nil]
      omega

/-- The lines that are left are read to the closing brace. -/
theorem readMembersFrom_afterLine {c : Config} {p : Patch} {settings : List Setting}
    {bound n : Nat} (distinct : settings.Nodup) (fresh : ∀ s ∈ settings, p.has s = false)
    (hn : settings.length < n) :
    readMembersFrom (readMember bound) n false p (c.afterLine settings) =
      .ok (settings.foldl (Patch.taking c) p, []) := by
  induction settings generalizing p n with
  | nil =>
      cases n with
      | zero => exact absurd hn (Nat.not_lt_zero _)
      | succ n => rfl
  | cons setting settings ih =>
      cases n with
      | zero => exact absurd hn (Nat.not_lt_zero _)
      | succ n =>
          rw [List.nodup_cons] at distinct
          rw [afterLine, readMembersFrom_line false (fresh setting List.mem_cons_self)
            (endsNumber_afterLine c settings), List.foldl_cons]
          apply ih distinct.2
          · intro s hs
            have hne : s ≠ setting := by
              rintro rfl
              exact distinct.1 hs
            rw [Patch.has_taking_of_ne hne]
            exact fresh s (List.mem_cons_of_mem _ hs)
          · exact Nat.lt_of_succ_lt_succ hn

/-! ### The whole text -/

/-- The lines behind the first. -/
def laterSettings : List Setting :=
  [.trMessages, .sourceRoot, .reportPath, .scanner, .maxUnused, .maxUsed]

theorem toList_written (c : Config) :
    c.written.toList =
      '\x7b' :: (lineStart true ++ (c.settingLine .enMessages ++ c.afterLine laterSettings)) := by
  rw [written, writtenRecord, String.toList_ofList, List.map_map, ← commaLines_eq]
  rfl

/-- **A written configuration gives a patch that has all its settings.** -/
theorem readPatch_written (c : Config) :
    readPatch (c.written.length + 1) c.written.toList =
      .ok (Setting.all.foldl (Patch.taking c) {}, []) := by
  have hlength : laterSettings.length < c.written.length := by
    have hlater := length_lt_afterLine c laterSettings
    rw [← String.length_toList, toList_written, List.length_cons, List.length_append,
      List.length_append]
    omega
  have hfresh : ∀ s ∈ laterSettings, (Patch.taking c {} .enMessages).has s = false := by
    intro s hs
    have hne : s ≠ .enMessages := by
      rintro rfl
      exact absurd hs (by decide)
    rw [Patch.has_taking_of_ne hne]
    cases s <;> rfl
  have hfirst := @readMembersFrom_line c {} .enMessages (c.written.length + 1) c.written.length _
    true rfl (endsNumber_afterLine c laterSettings)
  have hlater := @readMembersFrom_afterLine c (Patch.taking c {} .enMessages) laterSettings
    (c.written.length + 1) c.written.length (by decide) hfresh hlength
  rw [toList_written]
  exact hfirst.trans hlater

theorem readWhole_written (c : Config) :
    readWhole readPatch c.written = .ok (Setting.all.foldl (Patch.taking c) {}) := by
  rw [readWhole, readPatch_written]
  rfl

/-- **The configuration that is written for a new project is read as the defaults.** -/
theorem read_written_default : read default.written = .ok default := by
  rw [read, readWhole_written]
  exact congrArg Except.ok (applyTo_taking_all default default)

/-- **A configuration that was written is read back**, whatever texts, preference and limits
it holds. The text gives every setting, so that what is read owes nothing to the defaults. -/
theorem read_written (c : Config) :
    read c.written = .ok c ∧
      ∃ p, readWhole readPatch c.written = .ok p ∧ (∀ setting, p.has setting = true) ∧
        ∀ base, p.applyTo base = c := by
  have hread := readWhole_written c
  constructor
  · rw [read, hread]
    exact congrArg Except.ok (applyTo_taking_all c default)
  · exact ⟨_, hread, has_taking_all c, applyTo_taking_all c⟩

end KeyAudit.Config
