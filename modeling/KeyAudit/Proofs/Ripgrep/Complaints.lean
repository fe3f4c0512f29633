/-
Complaints of the program about files, and what becomes of them.

The program writes a line for each file that it cannot read, and goes on. What is read off
those lines are the same files and errors, but for one thing: a path may hold a `: `, and
nothing tells it from the one that ends the path.

* `complaints_attributed_iff` — **complaints come back as they were meant exactly if no path
  among them holds a `: `**; and one that does fails a search that printed nothing, unless
  there is something at the part of the path before it.
-/

import KeyAudit.Proofs.Ripgrep.SearchOutcome

namespace KeyAudit

namespace Ripgrep

/-- What the program writes of several files. -/
def complaints (ws : List SourceWarning) : List Char := Text.printed (ws.map errorLine)

theorem length_lt_length_errorLine (w : SourceWarning) :
    w.reason.toList.length < (errorLine w).length := by
  simp only [errorLine, errorMark, pathEnd, List.length_append, List.length_cons, List.length_nil]
  omega

end Ripgrep

namespace Host

variable {host : Host Id} {program root : Path} {closing : Reference.Closing}

/-! ### Complaints that stand on lines of their own -/

/-- There is something at the path, and the path and the error stand on one line, with no blank
around the error. -/
structure Legible (host : Host Id) (w : SourceWarning) : Prop where
  present : (host.present ⟨w.file⟩).run = true
  file_on_line : '\n' ∉ w.file.toList
  reason_ne : w.reason ≠ ""
  reason_on_line : '\n' ∉ w.reason.toList
  reason_trimmed : Text.trim w.reason.toList = w.reason.toList

namespace Legible

variable {w : SourceWarning}

theorem getLast?_errorLine (h : host.Legible w) :
    (Ripgrep.errorLine w).getLast? = w.reason.toList.getLast? := by
  have hne : w.reason.toList ≠ [] := by simpa using h.reason_ne
  have hlast := List.getLast?_eq_some_getLast hne
  simp [Ripgrep.errorLine, Ripgrep.pathEnd, List.getLast?_append, List.getLast?_cons, hlast]

theorem solid_ends (h : host.Legible w) :
    (∀ c, (Ripgrep.errorLine w).head? = some c → Text.isBlank c = false) ∧
      ∀ c, (Ripgrep.errorLine w).getLast? = some c → Text.isBlank c = false := by
  constructor
  · intro c hc
    cases hc
    decide
  · intro c hc
    rw [h.getLast?_errorLine, ← h.reason_trimmed] at hc
    exact Text.isBlank_getLast?_trim hc

theorem trim_errorLine (h : host.Legible w) :
    Text.trim (Ripgrep.errorLine w) = Ripgrep.errorLine w :=
  Text.trim_eq_self h.solid_ends.1 h.solid_ends.2

theorem newline_not_mem_errorLine (h : host.Legible w) : '\n' ∉ Ripgrep.errorLine w := by
  simp [Ripgrep.errorLine, Ripgrep.errorMark, Ripgrep.pathEnd, h.file_on_line,
    h.reason_on_line]

/-- All that was written, as a single warning, is never what was meant by it. -/
theorem trim_complaints_ne (h : host.Legible w) :
    Text.trim (Ripgrep.complaints [w]) ≠ w.reason.toList := by
  have htrim : Text.trim (Ripgrep.complaints [w]) = Ripgrep.errorLine w := by
    have hprinted : Ripgrep.complaints [w] = Ripgrep.errorLine w ++ ['\n'] := by
      simp [Ripgrep.complaints, Text.printed]
    rw [hprinted]
    exact Text.trim_append_newline (by simp [Ripgrep.errorLine, Ripgrep.errorMark])
      h.solid_ends.1 h.solid_ends.2
  intro heq
  have hlength := Ripgrep.length_lt_length_errorLine w
  rw [← htrim, heq] at hlength
  exact Nat.lt_irrefl _ hlength

theorem attributes_errorLine_iff (h : host.Legible w) :
    host.Attributes (Ripgrep.errorLine w) w ↔ ¬ Ripgrep.pathEnd <:+: w.file.toList := by
  rw [Attributes, Ripgrep.reads_errorLine_self_iff, and_iff_left h.present]

end Legible

/-! ### Complaints read back -/

variable {ws : List SourceWarning}

theorem filledLines_complaints (legible : ∀ w ∈ ws, host.Legible w) :
    Text.filledLines (Ripgrep.complaints ws) = ws.map Ripgrep.errorLine := by
  apply Text.filledLines_printed
  intro s hs
  obtain ⟨w, hw, rfl⟩ := List.mem_map.mp hs
  have h := legible w hw
  exact ⟨by simp [Ripgrep.errorLine, Ripgrep.errorMark], h.newline_not_mem_errorLine,
    h.trim_errorLine⟩

theorem forall₂_attributes_iff (legible : ∀ w ∈ ws, host.Legible w) :
    List.Forall₂ host.Attributes (ws.map Ripgrep.errorLine) ws ↔
      ∀ w ∈ ws, ¬ Ripgrep.pathEnd <:+: w.file.toList := by
  rw [List.forall₂_map_left_iff, List.forall₂_same]
  exact forall₂_congr fun w hw => (legible w hw).attributes_errorLine_iff

/-- All that was written is never one of the complaints. -/
theorem ne_singleton_complaints (legible : ∀ w ∈ ws, host.Legible w) (file : String) :
    ws ≠ [⟨file, String.ofList (Text.trim (Ripgrep.complaints ws))⟩] := by
  intro heq
  generalize hreason : String.ofList (Text.trim (Ripgrep.complaints ws)) = reason at heq
  subst heq
  have htrim := congrArg String.toList hreason
  rw [String.toList_ofList] at htrim
  exact (legible _ List.mem_cons_self).trim_complaints_ne htrim

namespace SearchEnds

variable {stdout : List Char} {result : Except Problem Ripgrep.Search}

theorem complaints_iff (hne : ws ≠ []) (legible : ∀ w ∈ ws, host.Legible w)
    (h : host.SearchEnds program root stdout (Ripgrep.complaints ws) (.exited 2) result) :
    result = .ok ⟨Ripgrep.printedKeys stdout, ws⟩ ↔
      ∀ w ∈ ws, ¬ Ripgrep.pathEnd <:+: w.file.toList := by
  rw [← forall₂_attributes_iff legible, ← filledLines_complaints legible]
  constructor
  · rintro rfl
    by_cases hall : host.AllAttributed (Text.filledLines (Ripgrep.complaints ws))
    · exact h.warnings_of_attributed hall
    · have hws := h.warnings_of_unattributed hall
      exact absurd hws (ne_singleton_complaints legible root.text)
  · exact h.eq_of_attributed hne

theorem complaints_error_iff (hne : ws ≠ []) (legible : ∀ w ∈ ws, host.Legible w)
    (h : host.SearchEnds program root stdout (Ripgrep.complaints ws) (.exited 2) result) :
    (∃ problem, result = .error problem) ↔
      (∀ c ∈ stdout, Text.isBlank c = true) ∧
        ∃ w ∈ ws, (host.present (.ofChars (Ripgrep.beforeColon w.file.toList))).run = false := by
  rw [h.error_iff, searchFails_two_iff, filledLines_complaints legible, List.map_eq_nil_iff,
    or_iff_right hne]
  simp only [List.mem_map, exists_exists_and_eq_and, ← not_exists,
    exists_attributes_errorLine_iff, Bool.not_eq_true]

end SearchEnds

/-- **Complaints come back as they were meant exactly if no path among them holds a `: `.** So
do the warnings of a search that ended with them and the code 2. Such a search is an error
exactly if it printed nothing but blanks and, for some path, there is nothing at what stands
before the first `: ` of it. -/
theorem complaints_attributed_iff (hne : ws ≠ []) (legible : ∀ w ∈ ws, host.Legible w) :
    ((host.namedFiles (Text.filledLines (Ripgrep.complaints ws))).run = some ws ↔
      ∀ w ∈ ws, ¬ Ripgrep.pathEnd <:+: w.file.toList) ∧
    ∀ done, (host.run program (Ripgrep.arguments closing root)).run = .ok done →
      done.status = .exited 2 → Text.Utf8.decodeLossy done.stderr = Ripgrep.complaints ws →
      ((host.search program root closing).run =
          .ok ⟨Ripgrep.printedKeys (Text.Utf8.decodeLossy done.stdout), ws⟩ ↔
        ∀ w ∈ ws, ¬ Ripgrep.pathEnd <:+: w.file.toList) ∧
      ((∃ problem, (host.search program root closing).run = .error problem) ↔
        (∀ c ∈ Text.Utf8.decodeLossy done.stdout, Text.isBlank c = true) ∧
          ∃ w ∈ ws,
            (host.present (.ofChars (Ripgrep.beforeColon w.file.toList))).run = false) := by
  constructor
  · rw [run_namedFiles_eq_some_iff, filledLines_complaints legible,
      forall₂_attributes_iff legible]
  · intro done ran status err
    have ends := search_ends ran
    rw [status, err] at ends
    exact ⟨ends.complaints_iff hne legible, ends.complaints_error_iff hne legible⟩

end Host

/-! ### Names that are read back, and one that is not -/

namespace Complaints

/-- The program complains of these files, and of nothing else. -/
def complaining (ws : List SourceWarning) : Finished :=
  ⟨.exited 2, [], (String.ofList (Ripgrep.complaints ws)).toUTF8.data.toList⟩

/-- All the files that the program complains of are there. -/
def complainingWorld (ws : List SourceWarning) : Snapshot where
  texts := ws.map fun w => (⟨w.file⟩, "")
  trees := []
  answer _ _ := .ok (complaining ws)

/-- A path may hold blanks and colons, also before its first name and behind its last. -/
def sampleComplaints : List SourceWarning :=
  [⟨"src/a b:c.ts", "Permission denied (os error 13)"⟩, ⟨" rg:d.ts:", "No such: file"⟩]

theorem complaints_attributed_of_sampleComplaints :
    (sampleComplaints ≠ [] ∧
      ∀ w ∈ sampleComplaints, (complainingWorld sampleComplaints).host.Legible w) ∧
    ((complainingWorld sampleComplaints).host.search ⟨"rg"⟩ ⟨"src"⟩ .mark).run =
      .ok ⟨.empty, sampleComplaints⟩ := by
  have hne : sampleComplaints ≠ [] := by decide
  have legible : ∀ w ∈ sampleComplaints, (complainingWorld sampleComplaints).host.Legible w := by
    intro w hw
    rcases List.mem_pair.mp hw with rfl | rfl
    · exact ⟨rfl, by decide, by decide, by decide, by decide⟩
    · exact ⟨rfl, by decide, by decide, by decide, by decide⟩
  have ran : ((complainingWorld sampleComplaints).host.run ⟨"rg"⟩
      (Ripgrep.arguments .mark ⟨"src"⟩)).run = .ok (complaining sampleComplaints) := rfl
  have ascii : (Ripgrep.complaints sampleComplaints).all (·.toNat < 128) = true := by decide
  have err : Text.Utf8.decodeLossy (complaining sampleComplaints).stderr =
      Ripgrep.complaints sampleComplaints :=
    Text.decodeLossy_toUTF8 (by simpa only [List.all_eq_true, decide_eq_true_eq] using ascii)
  have uncut : ∀ w ∈ sampleComplaints, Ripgrep.cutAtColon w.file.toList = none := by decide
  have free := fun w hw => Ripgrep.cutAtColon_eq_none_iff.mp (uncut w hw)
  refine ⟨⟨hne, legible⟩, ?_⟩
  exact ((Host.complaints_attributed_iff hne legible).2 _ ran rfl err).1.mpr free

/-- The path of a file that is there, with a `: ` in its name. -/
def cutComplaints : List SourceWarning :=
  [⟨"src/a: b.ts", "Permission denied (os error 13)"⟩]

/-- The file is looked for at `src/a`, and its one complaint fails the search. -/
theorem search_fails_of_cutComplaints :
    (∀ w ∈ cutComplaints, (complainingWorld cutComplaints).host.Legible w) ∧
    ((complainingWorld cutComplaints).host.namedFiles
      (Text.filledLines (Ripgrep.complaints cutComplaints))).run = none ∧
    ((complainingWorld cutComplaints).host.search ⟨"rg"⟩ ⟨"src"⟩ .mark).run =
      .error (.programFailed ⟨"rg"⟩ (.exited 2)
        "rg: src/a: b.ts: Permission denied (os error 13)") := by
  refine ⟨?_, rfl, rfl⟩
  intro w hw
  cases List.mem_singleton.mp hw
  exact ⟨rfl, by decide, by decide, by decide, by decide⟩

end Complaints

end KeyAudit
