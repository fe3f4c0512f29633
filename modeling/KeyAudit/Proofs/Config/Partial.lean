/-
A configuration file is a patch over the defaults.

The file is any text of a JSON object (`IsObject`): its members stand in any order, among blanks,
with their names spelled in any way; members of other names hold any values. What one member
does is said once for a member with a value of the right type (`readMember_given`) and once for
whatever is read without a failure (`readMember_ok`). By induction over the members the first
gives the whole patch (`readMembersFrom_given`), and the second says that no setting was given
twice (`nodup_of_readMembersFrom`).

* `read_partial` — a file that gives each setting at most once gives the defaults with these
  settings replaced, and a file that gives one twice is a failure.
-/

import KeyAudit.Proofs.Config.Values

namespace KeyAudit.Config

open KeyAudit.Json

/-! ### Settings that are given -/

/-- The settings that the members of a file give, under either name. -/
def settingsOf (members : List (String × Member)) : List Setting :=
  members.filterMap fun m => fieldNames.lookup m.1

/-- The configuration with the settings that are given taken from another. -/
def replaced (base c : Config) (given : List Setting) : Config where
  enMessages := if .enMessages ∈ given then c.enMessages else base.enMessages
  trMessages := if .trMessages ∈ given then c.trMessages else base.trMessages
  sourceRoot := if .sourceRoot ∈ given then c.sourceRoot else base.sourceRoot
  reportPath := if .reportPath ∈ given then c.reportPath else base.reportPath
  scanner := if .scanner ∈ given then c.scanner else base.scanner
  maxUnused := if .maxUnused ∈ given then c.maxUnused else base.maxUnused
  maxUsed := if .maxUsed ∈ given then c.maxUsed else base.maxUsed

/-- One setting that is taken is one that is replaced. -/
theorem replaced_taking (base c : Config) (p : Patch) (setting : Setting) (given : List Setting) :
    ((p.taking c setting).applyTo base).replaced c given =
      (p.applyTo base).replaced c (setting :: given) := by
  cases setting <;> simp [Patch.taking, Patch.applyTo, replaced]

theorem applyTo_foldl_taking (base c : Config) (given : List Setting) (p : Patch) :
    (given.foldl (Patch.taking c) p).applyTo base = (p.applyTo base).replaced c given := by
  induction given generalizing p with
  | nil => rfl
  | cons setting given ih => rw [List.foldl_cons, ih, replaced_taking]

/-! ### One member -/

theorem closes_nextMember : Closes nextMember '\x7d' := by
  refine ⟨by decide, fun first b rest hb => ?_⟩
  rw [nextMember, skipSpace_blank hb]
  rfl

theorem nextMember_lead (first : Bool) {b before : List Char} (hb : IsBlank b)
    (hbefore : IsBlank before) (s : List Char) :
    nextMember first (lead first b ++ (before ++ '"' :: s)) = .ok (.more s) := by
  have hquote : skipSpace (before ++ '"' :: s) = '"' :: s := skipSpace_blank hbefore _
  cases first with
  | true =>
      rw [lead, List.nil_append, nextMember, hquote]
      rfl
  | false =>
      have hcomma : skipSpace (lead false b ++ (before ++ '"' :: s)) =
          ',' :: (before ++ '"' :: s) := by
        rw [lead, List.append_assoc, skipSpace_blank hb]
        rfl
      simp only [nextMember, hcomma, hquote, Bool.false_eq_true, if_false]

/-- A member is read up to the colon, and then left to the reader of its value. -/
theorem readMembersFrom_member_iff {σ : Type} {member : σ → String → Reader σ} (n : Nat)
    (first : Bool) {b : List Char} (hb : IsBlank b) {m : String × Member} (hm : m.2.Spaced)
    (hname : Spells m.2.body m.1.toList) {acc : σ} {rest : List Char} {result : σ × List Char} :
    readMembersFrom member (n + 1) first acc (lead first b ++ (m.2.chars ++ rest)) = .ok result ↔
      ∃ acc' r,
        member acc m.1 (m.2.beforeColon ++ ':' :: (m.2.item.chars ++ rest)) = .ok (acc', r) ∧
        readMembersFrom member n false acc' r = .ok result := by
  simp only [m.2.chars_append, readMembersFrom, nextMember_lead first hb hm.before,
    readText_of_spells hname]
  cases member acc m.1 (m.2.beforeColon ++ ':' :: (m.2.item.chars ++ rest)) with
  | error failure =>
      constructor
      · intro h
        cases h
      · rintro ⟨acc', r, hread, -⟩
        cases hread
  | ok read =>
      constructor
      · intro h
        exact ⟨read.1, read.2, rfl, h⟩
      · rintro ⟨acc', r, hread, h⟩
        cases hread
        exact h

/-- A member with its name and a value that no bound cuts off. -/
structure Readable (bound : Nat) (m : String × Member) : Prop where
  spaced : m.2.Spaced
  name : Spells m.2.body m.1.toList
  value : IsValue m.2.item.value
  short : m.2.item.value.length ≤ bound

section Member

variable {bound : Nat} {m : String × Member} {p p' : Patch} {rest r : List Char}

theorem Readable.skipValue_eq (hm : Readable bound m) (hrest : Stops rest) :
    skipValue bound (m.2.item.chars ++ rest) = .ok ((), m.2.item.after ++ rest) := by
  rw [m.2.item.chars_append]
  exact skipNested_of_isValue hm.value hm.short hm.short _ _ hm.spaced.item.before
    (endsNumber_blank hm.spaced.item.after hrest)

/-- **A member with a value of the right type gives its setting**, and one of another name gives
nothing. -/
theorem readMember_given {c : Config} (hm : Readable bound m) (hrest : Stops rest)
    (fresh : ∀ s, fieldNames.lookup m.1 = some s → p.has s = false)
    (typed : ∀ s, fieldNames.lookup m.1 = some s → Denotes m.2.item.value (c.valueOf s)) :
    readMember bound p m.1 (m.2.beforeColon ++ ':' :: (m.2.item.chars ++ rest)) =
      .ok ((fieldNames.lookup m.1).toList.foldl (Patch.taking c) p, m.2.item.after ++ rest) := by
  have hcolon := readColon_blank hm.spaced.beforeColon (m.2.item.chars ++ rest)
  cases hname : fieldNames.lookup m.1 with
  | none =>
      simp only [readMember, Setting.ofName?_eq, hname, hcolon, hm.skipValue_eq hrest, mapRead]
      rfl
  | some setting =>
      have hread := readSetting_of_denotes hm.spaced.item.before (typed setting hname)
        (endsNumber_blank hm.spaced.item.after hrest) p
      rw [← m.2.item.chars_append] at hread
      simp only [readMember, Setting.ofName?_eq, hname, fresh setting hname, Bool.false_eq_true,
        if_false, hcolon, hread]
      rfl

/-- **A member that is read is read to its end**, and its setting is one more that the patch
sets. -/
theorem readMember_ok (hbound : 2 ≤ bound) (hm : Readable bound m) (hrest : Stops rest)
    (h : readMember bound p m.1 (m.2.beforeColon ++ ':' :: (m.2.item.chars ++ rest)) =
      .ok (p', r)) :
    r = m.2.item.after ++ rest ∧ (∀ s, fieldNames.lookup m.1 = some s → p.has s = false) ∧
      ∀ other, p'.has other = (decide (fieldNames.lookup m.1 = some other) || p.has other) := by
  have hcolon := readColon_blank hm.spaced.beforeColon (m.2.item.chars ++ rest)
  have hskip := hm.skipValue_eq hrest
  cases hname : fieldNames.lookup m.1 with
  | none =>
      simp only [readMember, Setting.ofName?_eq, hname, hcolon, hskip, mapRead] at h
      obtain ⟨rfl, rfl⟩ := Prod.mk.inj (Except.ok.inj h)
      refine ⟨rfl, ?_, fun _ => rfl⟩
      rintro s ⟨⟩
  | some setting =>
      simp only [readMember, Setting.ofName?_eq, hname, hcolon] at h
      split at h
      · cases h
      rename_i hfresh
      obtain ⟨k, rfl⟩ := Nat.exists_eq_add_of_le' hbound
      -- The value may be of a kind that only this setting reads, but it ends in the same place.
      have hsame := hskip.symm.trans (skipNested_of_readSetting h)
      obtain ⟨-, rfl⟩ := Prod.mk.inj (Except.ok.inj hsame)
      refine ⟨rfl, ?_, ?_⟩
      · rintro s ⟨⟩
        exact Bool.not_eq_true _ ▸ hfresh
      · intro other
        rw [has_of_readSetting h other]
        simp only [Option.some.injEq, eq_comm]

end Member

/-! ### All members -/

theorem settingsOf_cons (m : String × Member) (ms : List (String × Member)) :
    settingsOf (m :: ms) = (fieldNames.lookup m.1).toList ++ settingsOf ms := by
  rw [settingsOf, List.filterMap_cons]
  cases fieldNames.lookup m.1 <;> rfl

section Members

variable {bound n : Nat} {ms : List (String × Member)} {p p' : Patch} {b rest r : List Char}

/-- **Members that give each setting once are read into the patch.** -/
theorem readMembersFrom_given {c : Config} (readable : ∀ m ∈ ms, Readable bound m)
    (typed : ∀ m ∈ ms, ∀ s, fieldNames.lookup m.1 = some s →
      Denotes m.2.item.value (c.valueOf s))
    (distinct : (settingsOf ms).Nodup) (fresh : ∀ s ∈ settingsOf ms, p.has s = false)
    (hn : ms.length < n) (first : Bool) (hb : IsBlank b) :
    readMembersFrom (readMember bound) n first p
        (remaining first b (ms.map fun m => m.2.chars) ++ '\x7d' :: rest) =
      .ok ((settingsOf ms).foldl (Patch.taking c) p, rest) := by
  induction ms generalizing p n first b with
  | nil =>
      cases n with
      | zero => exact absurd hn (Nat.not_lt_zero _)
      | succ n =>
          simp only [List.map_nil, remaining, readMembersFrom, closes_nextMember.2 first b rest hb]
          rfl
  | cons m ms ih =>
      cases n with
      | zero => exact absurd hn (Nat.not_lt_zero _)
      | succ n =>
          obtain ⟨hm, hlater⟩ := List.forall_mem_cons.mp readable
          rw [settingsOf_cons] at distinct fresh
          obtain ⟨-, distinct, hapart⟩ := List.nodup_append.mp distinct
          have hstops := stops_remaining (ms.map fun m => m.2.chars) closes_nextMember.1 rest
          have hread : readMember bound p m.1 (m.2.beforeColon ++ ':' :: (m.2.item.chars ++
                (remaining false [] (ms.map fun m => m.2.chars) ++ '\x7d' :: rest))) =
              .ok ((fieldNames.lookup m.1).toList.foldl (Patch.taking c) p, m.2.item.after ++
                (remaining false [] (ms.map fun m => m.2.chars) ++ '\x7d' :: rest)) := by
            apply readMember_given hm hstops
            · intro s hs
              exact fresh s (List.mem_append_left _ (by simp [hs]))
            · exact typed m List.mem_cons_self
          have hfresh : ∀ s ∈ settingsOf ms,
              ((fieldNames.lookup m.1).toList.foldl (Patch.taking c) p).has s = false := by
            intro s hs
            have hp := fresh s (List.mem_append_right _ hs)
            cases hname : fieldNames.lookup m.1 with
            | none => exact hp
            | some setting =>
                have hne : s ≠ setting := (hapart setting (by simp [hname]) s hs).symm
                exact (Patch.has_taking_of_ne hne).trans hp
          have hrun := ih hlater (fun m' hm' => typed m' (List.mem_cons_of_mem _ hm')) distinct
            hfresh (Nat.lt_of_succ_lt_succ hn) false hm.spaced.item.after
          rw [← append_remaining, List.append_assoc] at hrun
          rw [List.map_cons, remaining, List.append_assoc, List.append_assoc,
            readMembersFrom_member_iff n first hb hm.spaced hm.name, settingsOf_cons,
            List.foldl_append]
          exact ⟨_, _, hread, hrun⟩

/-- **Members that are read give each setting once**, and none that the patch has already. -/
theorem nodup_of_readMembersFrom (hbound : 2 ≤ bound) (readable : ∀ m ∈ ms, Readable bound m)
    (first : Bool) (hb : IsBlank b)
    (h : readMembersFrom (readMember bound) n first p
        (remaining first b (ms.map fun m => m.2.chars) ++ '\x7d' :: rest) = .ok (p', r)) :
    (settingsOf ms).Nodup ∧ ∀ s ∈ settingsOf ms, p.has s = false := by
  induction ms generalizing p n first b with
  | nil => exact ⟨List.nodup_nil, fun _ hs => nomatch hs⟩
  | cons m ms ih =>
      cases n with
      | zero => cases h
      | succ n =>
          obtain ⟨hm, hlater⟩ := List.forall_mem_cons.mp readable
          have hstops := stops_remaining (ms.map fun m => m.2.chars) closes_nextMember.1 rest
          rw [List.map_cons, remaining, List.append_assoc, List.append_assoc,
            readMembersFrom_member_iff n first hb hm.spaced hm.name] at h
          obtain ⟨q, t, hread, h⟩ := h
          obtain ⟨rfl, hfresh, hhas⟩ := readMember_ok hbound hm hstops hread
          rw [← List.append_assoc, append_remaining] at h
          obtain ⟨hdistinct, hnone⟩ := ih hlater false hm.spaced.item.after h
          -- The patch that this member leaves has its setting, so no later member gives it.
          have hboth : ∀ s ∈ settingsOf ms, fieldNames.lookup m.1 ≠ some s ∧ p.has s = false := by
            intro s hs
            have hq := hnone s hs
            rw [hhas s, Bool.or_eq_false_iff, decide_eq_false_iff_not] at hq
            exact hq
          rw [settingsOf_cons]
          constructor
          · apply List.nodup_append.mpr
            refine ⟨?_, hdistinct, ?_⟩
            · cases fieldNames.lookup m.1 with
              | none => exact List.nodup_nil
              | some setting => exact List.pairwise_singleton _ setting
            · rintro setting hsetting s hs rfl
              exact (hboth setting hs).1 (Option.mem_toList.mp hsetting)
          · intro s hs
            rcases List.mem_append.mp hs with hs | hs
            · exact hfresh s (Option.mem_toList.mp hs)
            · exact (hboth s hs).2

end Members

/-! ### The whole file -/

section File

variable {members : List (String × Member)} {text : String}

theorem readable_of_isObject (object : IsObject (members.map Prod.snd) text.toList)
    (named : ∀ m ∈ members, Spells m.2.body m.1.toList) :
    members.length < text.length ∧ ∀ m ∈ members, Readable (text.length + 1) m := by
  obtain ⟨before, s, after, -, hinside, -, htext⟩ := object.text
  obtain ⟨hcount, hlength⟩ := hinside.length_le
  have hsize : text.length = before.length + (s.length + (after.length + 1) + 1) := by
    rw [← String.length_toList, htext]
    simp only [List.length_append, List.length_cons]
  rw [List.length_map] at hcount
  refine ⟨by omega, fun m hm => ?_⟩
  have hmember : m.2 ∈ members.map Prod.snd := List.mem_map_of_mem hm
  refine ⟨object.spaced m.2 hmember, named m hm, object.values m.2 hmember, ?_⟩
  have hle := Nat.le_trans m.2.length_value_le (hlength m.2 hmember)
  omega

/-- The text of an object is read member by member, and nothing is left to read behind it. -/
theorem exists_readWhole (object : IsObject (members.map Prod.snd) text.toList) :
    ∃ b rest, IsBlank b ∧ skipSpace rest = [] ∧ readPatch (text.length + 1) text.toList =
      readMembersFrom (readMember (text.length + 1)) (text.length + 1) true {}
        (remaining true b (members.map fun m => m.2.chars) ++ '\x7d' :: rest) := by
  obtain ⟨before, s, after, hbefore, hinside, hafter, htext⟩ := object.text
  obtain ⟨b, hb, rfl⟩ := hinside.exists_remaining
  have hend : skipSpace after = [] := by
    have hskip := skipSpace_blank hafter []
    rwa [List.append_nil] at hskip
  refine ⟨b, after, hb, hend, ?_⟩
  rw [htext, readPatch, skipSpace_blank hbefore, List.map_map]
  rfl

/-- **A configuration file is a patch over the defaults.** Take any text of a JSON object whose
names are texts, in any spelling and any order.

If it gives each setting at most once, counting `sourceRoot` and `sourceDir` as one, and each with
a value of its type, then it is read, and as the defaults with just these settings replaced.
Members of other names make no difference, whatever they hold. If it gives a setting twice, with
any values, it is not read. -/
theorem read_partial (object : IsObject (members.map Prod.snd) text.toList)
    (named : ∀ m ∈ members, Spells m.2.body m.1.toList) :
    (∀ c : Config, (settingsOf members).Nodup →
      (∀ m ∈ members, ∀ s, fieldNames.lookup m.1 = some s →
        Denotes m.2.item.value (c.valueOf s)) →
      read text = .ok (default.replaced c (settingsOf members))) ∧
    (¬ (settingsOf members).Nodup → ∃ failure, read text = .error failure) := by
  obtain ⟨hcount, hreadable⟩ := readable_of_isObject object named
  obtain ⟨b, rest, hb, hend, hpatch⟩ := exists_readWhole object
  constructor
  · intro c distinct typed
    have hfresh : ∀ s ∈ settingsOf members, Patch.has {} s = false := fun s _ => by
      cases s <;> rfl
    rw [read, readWhole, hpatch, readMembersFrom_given hreadable typed distinct hfresh
      (Nat.lt_succ_of_lt hcount) true hb]
    simp only [hend, Except.map]
    exact congrArg Except.ok (applyTo_foldl_taking default c (settingsOf members) {})
  · intro hdouble
    cases hrun : readPatch (text.length + 1) text.toList with
    | error failure => exact ⟨failure, by rw [read, readWhole, hrun]; rfl⟩
    | ok result =>
        obtain ⟨p, r⟩ := result
        have hlong : 2 ≤ text.length + 1 := by omega
        rw [hpatch] at hrun
        exact absurd (nodup_of_readMembersFrom hlong hreadable true hb hrun).1 hdouble

end File

/-! ### Two files -/

/-- A file with the other name of the sources, escapes, a member of another name whose value holds
a name that is known, and a limit. -/
def sampleMembers : List (String × Member) :=
  [("sourceDir", ⟨[' '], "\\u0073ourceDir".toList, [], ⟨[' '], "\"a\\/b\"".toList, []⟩⟩),
    ("note", ⟨['\n'], "note".toList, [' '], ⟨[], "[\x7b\"scanner\":-1.5E+3\x7d]".toList, []⟩⟩),
    ("maxUnusedPreview",
      ⟨[], "maxUnusedPreview".toList, [], ⟨[], "18446744073709551615".toList, ['\n']⟩⟩)]

def sampleText : String :=
  "\x7b \"\\u0073ourceDir\": \"a\\/b\",\n\"note\" :[\x7b\"scanner\":-1.5E+3\x7d]," ++
    "\"maxUnusedPreview\":18446744073709551615\n\x7d"

/-- A file that names the sources twice. -/
def doubleMembers : List (String × Member) :=
  [("sourceRoot", ⟨[], "sourceRoot".toList, [], ⟨[], "\"a\"".toList, []⟩⟩),
    ("sourceDir", ⟨[], "sourceDir".toList, [], ⟨[], "null".toList, []⟩⟩)]

def doubleText : String := "\x7b\"sourceRoot\":\"a\",\"sourceDir\":null\x7d"

theorem isValue_note : IsValue "[\x7b\"scanner\":-1.5E+3\x7d]".toList := by
  have hnumber : IsNumber "-1.5E+3".toList :=
    @IsNumber.mk ['-'] ['1'] ['.', '5'] ['E', '+', '3'] (by decide)
      ⟨by decide, fun r hr => absurd (List.cons.inj hr).1 (by decide)⟩
      (.inr ⟨['5'], by decide, rfl⟩)
      (.inr ⟨'E', ['+'], ['3'], by decide, by decide, by decide, rfl⟩)
  have hname : IsTextBody "scanner".toList := (spells_of_isPlain (by decide)).isTextBody
  have hobject : IsValue "\x7b\"scanner\":-1.5E+3\x7d".toList :=
    @IsValue.object [⟨[], "scanner".toList, [], ⟨[], "-1.5E+3".toList, []⟩⟩] _
      (.parts (List.cons_ne_nil _ _)) (List.forall_mem_singleton.mpr ⟨by decide, hname⟩)
      (List.forall_mem_singleton.mpr (.number hnumber))
  exact @IsValue.list [⟨[], "\x7b\"scanner\":-1.5E+3\x7d".toList, []⟩] _
    (.parts (List.cons_ne_nil _ _)) (by decide) (List.forall_mem_singleton.mpr hobject)

theorem spells_path : Spells "a\\/b".toList "a/b".toList :=
  .plain (by decide) (.letter (by decide) (spells_of_isPlain (by decide)))

theorem isObject_sample : IsObject (sampleMembers.map Prod.snd) sampleText.toList where
  spaced := by decide
  values := by
    have hlimit : IsNumber "18446744073709551615".toList :=
      @IsNumber.mk [] "18446744073709551615".toList [] [] (by decide)
        ⟨by decide, fun r hr => absurd (List.cons.inj hr).1 (by decide)⟩ (.inl rfl) (.inl rfl)
    refine List.forall_mem_cons.mpr ⟨.text spells_path.isTextBody, ?_⟩
    refine List.forall_mem_cons.mpr ⟨isValue_note, ?_⟩
    exact List.forall_mem_singleton.mpr (.number hlimit)
  text := ⟨[], _, [], isBlank_nil, .parts (List.cons_ne_nil _ _), isBlank_nil, by decide⟩

theorem spells_sample : ∀ m ∈ sampleMembers, Spells m.2.body m.1.toList := by
  have hunit : CodeUnit ['0', '0', '7', '3'] 's'.toNat :=
    @CodeUnit.mk '0' '0' '7' '3' 0 0 7 3 ⟨by decide, .inl rfl⟩ ⟨by decide, .inl rfl⟩
      ⟨by decide, .inl rfl⟩ ⟨by decide, .inl rfl⟩
  refine List.forall_mem_cons.mpr ⟨.code hunit (spells_of_isPlain (by decide)), ?_⟩
  refine List.forall_mem_cons.mpr ⟨spells_of_isPlain (by decide), ?_⟩
  exact List.forall_mem_singleton.mpr (spells_of_isPlain (by decide))

theorem isObject_double : IsObject (doubleMembers.map Prod.snd) doubleText.toList where
  spaced := by decide
  values := by
    have htext : IsTextBody "a".toList := (spells_of_isPlain (by decide)).isTextBody
    have hword : "null" ∈ ["null", "true", "false"] := List.mem_cons_self
    refine List.forall_mem_cons.mpr ⟨.text htext, ?_⟩
    exact List.forall_mem_singleton.mpr (.word hword)
  text := ⟨[], _, [], isBlank_nil, .parts (List.cons_ne_nil _ _), isBlank_nil, by decide⟩

theorem spells_double : ∀ m ∈ doubleMembers, Spells m.2.body m.1.toList := by
  refine List.forall_mem_cons.mpr ⟨spells_of_isPlain (by decide), ?_⟩
  exact List.forall_mem_singleton.mpr (spells_of_isPlain (by decide))

/-- The first file is read as the defaults but for its two settings, the second is not read. -/
theorem read_partial_in_samples :
    read sampleText =
        .ok { default with sourceRoot := "a/b", maxUnused := 18446744073709551615 } ∧
      ∃ failure, read doubleText = .error failure := by
  have hgiven : settingsOf sampleMembers = [.sourceRoot, .maxUnused] := by decide
  have hdouble : settingsOf doubleMembers = [.sourceRoot, .sourceRoot] := by decide
  constructor
  · have hread := (read_partial isObject_sample spells_sample).1
      { default with sourceRoot := "a/b", maxUnused := 18446744073709551615 }
    rw [hgiven] at hread
    apply hread (by decide)
    refine List.forall_mem_cons.mpr ⟨?_, List.forall_mem_cons.mpr ⟨?_, ?_⟩⟩
    · rintro s ⟨⟩
      exact .text spells_path
    · rintro s ⟨⟩
    · refine List.forall_mem_singleton.mpr ?_
      rintro s ⟨⟩
      exact .natural 18446744073709551615
  · apply (read_partial isObject_double spells_double).2
    rw [hdouble]
    decide

end KeyAudit.Config
