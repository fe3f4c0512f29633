/-
What a `ripgrep` program is asked and what it answers.

A `Query` is a search of a tree for one pattern, with the globs that files must and must
not match; `Query.arguments` is how it is put to the program, and the searches of a scan
are put in this way (`arguments_eq`). `Query.Answers` says what a run of the program has
printed when it has searched each of these files line by line, in any order.

For the searches of a scan this fixes the keys that are read back
(`mem_printedKeys_iff`): those that some file of the query references.
-/

import KeyAudit.Proofs.Reference.Lines
import KeyAudit.Proofs.Ripgrep.CallPattern
import KeyAudit.Proofs.Scan.WalkedKeys

namespace KeyAudit.Ripgrep

open Reference

/-! ### Globs -/

/-- A part of a glob. -/
inductive GlobPart where
  /-- Any text, also none. -/
  | any
  | chars (s : String)
  | choice (options : List String)

/-- A pattern for file names. -/
abbrev Glob := List GlobPart

def GlobPart.text : GlobPart → String
  | .any => "*"
  | .chars s => s
  | .choice options => "\x7b" ++ String.intercalate "," options ++ "\x7d"

def Glob.text (g : Glob) : String := String.join (g.map GlobPart.text)

def GlobPart.Matches : GlobPart → List Char → Prop
  | .any, _ => True
  | .chars t, s => s = t.toList
  | .choice options, s => ∃ option ∈ options, s = option.toList

/-- A name matches a glob if it falls into parts that match its parts. -/
def Glob.Matches : Glob → List Char → Prop
  | [], s => s = []
  | part :: g, s => ∃ s₁ s₂, s = s₁ ++ s₂ ∧ part.Matches s₁ ∧ Matches g s₂

/-- `*.{ts,tsx,js,jsx}` -/
def sourceGlob : Glob := [.any, .chars ".", .choice ["ts", "tsx", "js", "jsx"]]

/-- `*.d.ts` -/
def declarationGlob : Glob := [.any, .chars ".d.ts"]

theorem matches_declarationGlob_iff {s : List Char} :
    Glob.Matches declarationGlob s ↔ ".d.ts".toList <:+ s := by
  constructor
  · rintro ⟨s₁, _, rfl, -, _, _, rfl, rfl, rfl⟩
    exact ⟨s₁, by rw [List.append_nil]⟩
  · rintro ⟨s₁, rfl⟩
    exact ⟨s₁, _, rfl, trivial, _, [], (List.append_nil _).symm, rfl, rfl⟩

theorem matches_sourceGlob_iff {s : List Char} :
    Glob.Matches sourceGlob s ↔
      ∃ ending ∈ [".ts", ".tsx", ".js", ".jsx"], ending.toList <:+ s := by
  constructor
  · rintro ⟨s₁, _, rfl, -, _, _, rfl, rfl, _, _, rfl, ⟨ext, hext, rfl⟩, rfl⟩
    rw [List.append_nil]
    simp only [List.mem_cons, List.not_mem_nil, or_false] at hext
    rcases hext with rfl | rfl | rfl | rfl
    · exact ⟨".ts", by simp, s₁, rfl⟩
    · exact ⟨".tsx", by simp, s₁, rfl⟩
    · exact ⟨".js", by simp, s₁, rfl⟩
    · exact ⟨".jsx", by simp, s₁, rfl⟩
  · rintro ⟨ending, hending, s₁, rfl⟩
    simp only [List.mem_cons, List.not_mem_nil, or_false] at hending
    rcases hending with rfl | rfl | rfl | rfl
    · exact ⟨s₁, _, rfl, trivial, ['.'], ['t', 's'], rfl, rfl, _, [], rfl, ⟨"ts", by simp, rfl⟩, rfl⟩
    · exact ⟨s₁, _, rfl, trivial, ['.'], ['t', 's', 'x'], rfl, rfl, _, [], rfl,
        ⟨"tsx", by simp, rfl⟩, rfl⟩
    · exact ⟨s₁, _, rfl, trivial, ['.'], ['j', 's'], rfl, rfl, _, [], rfl, ⟨"js", by simp, rfl⟩, rfl⟩
    · exact ⟨s₁, _, rfl, trivial, ['.'], ['j', 's', 'x'], rfl, rfl, _, [], rfl,
        ⟨"jsx", by simp, rfl⟩, rfl⟩

/-- The globs choose the names of source files. -/
theorem matches_globs_iff {name : String} :
    Glob.Matches sourceGlob name.toList ∧ ¬ Glob.Matches declarationGlob name.toList ↔
      IsSourceName name := by
  rw [matches_sourceGlob_iff, matches_declarationGlob_iff, IsSourceName]

/-! ### Queries -/

/-- A search of the files below a root. -/
structure Query where
  pattern : Regex
  sources : Glob
  declarations : Glob
  root : Path

/-- How a query is put to the program: of each match the first group alone is wanted, and
every file below the root counts that the first glob matches and the second does not. -/
def Query.arguments (q : Query) : List String :=
  ["--only-matching", "--replace", "$1", "--no-filename", "--no-heading", "--no-line-number",
    "--no-config", "--no-ignore", "--hidden", "--text", "--color", "never",
    "--type-add", "src:" ++ q.sources.text, "--type-add", "dts:" ++ q.declarations.text,
    "--type", "src", "--type-not", "dts", "--regexp", q.pattern.text, q.root.text]

/-- The search for the references that are closed in one way. -/
def query (closing : Closing) (root : Path) : Query :=
  ⟨callPattern closing, sourceGlob, declarationGlob, root⟩

/-! ### Answers -/

/-- A regular file below the root, reached through directories, whose name is wanted. -/
def Query.Visits (q : Query) (tree : SourceTree) (file : Path) : Prop :=
  ∃ names name, tree.FileAt (names ++ [name]) ∧ Glob.Matches q.sources name.toList ∧
    ¬ Glob.Matches q.declarations name.toList ∧ file = q.root.below (names ++ [name])

/-- What is printed for lines: the first group of each match, line by line. -/
inductive Query.PrintsLines (q : Query) : List (List Char) → List (List Char) → Prop where
  | nil : PrintsLines q [] []
  | cons {line : List Char} {found : List (List (List Char))} {lines more : List (List Char)} :
      '\n' ∉ line → q.pattern.Searched [] line found → PrintsLines q lines more →
      PrintsLines q (line :: lines) (found.filterMap List.head? ++ more)

/-- What is printed for files, one after the other. -/
inductive Query.PrintsFiles (q : Query) (host : Host Id) :
    List Path → List (List Char) → Prop where
  | nil : PrintsFiles q host [] []
  | cons {file : Path} {text : String} {lines here more : List (List Char)} {files : List Path} :
      host.Holds file text → text.toList = Text.joinLines lines → q.PrintsLines lines here →
      PrintsFiles q host files more → PrintsFiles q host (file :: files) (here ++ more)

/-- A run of the program has searched the files that the query is about, in some order, and
printed what it found, a match a line. It ends with 0 if that is anything and else with
1, and it has no complaints. -/
def Query.Answers (q : Query) (host : Host Id) (tree : SourceTree) (done : Finished) : Prop :=
  ∃ files found, (∀ file, file ∈ files ↔ q.Visits tree file) ∧ q.PrintsFiles host files found ∧
    done.stdout = (String.ofList (Text.printed found)).toUTF8.data.toList ∧ done.stderr = [] ∧
    done.status = .exited (if found = [] then 1 else 0)

/-! ### The searches of a scan -/

theorem text_sourceGlob : "src:" ++ sourceGlob.text = sourceType := by decide

theorem text_declarationGlob : "dts:" ++ declarationGlob.text = declarationType := by decide

/-- **The searches of a scan are put as queries.** -/
theorem arguments_eq (closing : Closing) (root : Path) :
    arguments closing root = (query closing root).arguments := by
  unfold arguments Query.arguments query
  rw [text_callPattern, text_sourceGlob, text_declarationGlob]

/-- The searches of a scan visit the source files. -/
theorem visits_query_iff {closing : Closing} {root file : Path} {tree : SourceTree} :
    (query closing root).Visits tree file ↔ tree.SourceAt root file := by
  constructor
  · rintro ⟨names, name, hat, hsource, hdeclaration, rfl⟩
    exact ⟨names, name, hat, matches_globs_iff.mp ⟨hsource, hdeclaration⟩, rfl⟩
  · rintro ⟨names, name, hat, hname, rfl⟩
    obtain ⟨hsource, hdeclaration⟩ := matches_globs_iff.mpr hname
    exact ⟨names, name, hat, hsource, hdeclaration, rfl⟩

theorem mem_printsLines_iff {closing : Closing} {root : Path} {lines found : List (List Char)}
    {key : List Char} (h : (query closing root).PrintsLines lines found) :
    key ∈ found ↔ ∃ line ∈ lines, Occurs closing line key := by
  induction h with
  | nil => simp
  | @cons line matched lines more feedless search _ ih =>
      have hmatched := (searched_callPattern_iff feedless).mp search
      have hhere : matched.filterMap List.head? = scan closing 0 none line := by
        rw [hmatched, List.filterMap_map]
        exact List.filterMap_some
      rw [hhere, List.mem_append, mem_scan_iff_occurs, ih]
      simp only [List.mem_cons, exists_eq_or_imp]

/-- **What is printed are the references in the files.** -/
theorem mem_printsFiles_iff {host : Host Id} {closing : Closing} {root : Path}
    {files : List Path} {found : List (List Char)} {key : List Char}
    (h : (query closing root).PrintsFiles host files found) :
    key ∈ found ↔ ∃ file ∈ files, ∃ text, host.Holds file text ∧
      Occurs closing text.toList key := by
  induction h with
  | nil => simp
  | @cons file text lines here more files hholds hlines hhere _ ih =>
      rw [List.mem_append, mem_printsLines_iff hhere, ih, ← occurs_joinLines_iff, ← hlines]
      simp only [List.mem_cons, exists_eq_or_imp]
      apply or_congr_left
      constructor
      · intro hoccurs
        exact ⟨text, hholds, hoccurs⟩
      · rintro ⟨text', hholds', hoccurs⟩
        rwa [hholds.unique hholds']

/-! ### Every readable tree has an answer -/

/-- What the program replies to a search of a scan when the files hold these texts. -/
def reply (closing : Closing) (texts : List String) : Finished :=
  let found := texts.flatMap fun text => (Text.lines text.toList).flatMap (scan closing 0 none)
  ⟨.exited (if found = [] then 1 else 0),
    (String.ofList (Text.printed found)).toUTF8.data.toList, []⟩

theorem printsLines_scan {closing : Closing} {root : Path} {lines : List (List Char)}
    (feedless : ∀ line ∈ lines, '\n' ∉ line) :
    (query closing root).PrintsLines lines (lines.flatMap (scan closing 0 none)) := by
  induction lines with
  | nil => exact .nil
  | cons line lines ih =>
      have hline := feedless line List.mem_cons_self
      have hmore := ih fun next hnext => feedless next (List.mem_cons_of_mem line hnext)
      have hhere : ((scan closing 0 none line).map fun key => [key]).filterMap List.head? =
          scan closing 0 none line := by
        rw [List.filterMap_map]
        exact List.filterMap_some
      have h := Query.PrintsLines.cons hline ((searched_callPattern_iff hline).mpr rfl) hmore
      rwa [hhere] at h

theorem printsFiles_scan {host : Host Id} {closing : Closing} {root : Path} {text : Path → String}
    {files : List Path} (readable : ∀ file ∈ files, host.Holds file (text file)) :
    (query closing root).PrintsFiles host files ((files.map text).flatMap fun text =>
      (Text.lines text.toList).flatMap (scan closing 0 none)) := by
  induction files with
  | nil => exact .nil
  | cons file files ih =>
      have hmore := ih fun next hnext => readable next (List.mem_cons_of_mem file hnext)
      have hhere : (query closing root).PrintsLines (Text.lines (text file).toList)
          ((Text.lines (text file).toList).flatMap (scan closing 0 none)) :=
        printsLines_scan fun line hline => Text.feedless_of_mem_lines hline
      exact .cons (readable file List.mem_cons_self) (Text.joinLines_lines _).symm hhere hmore

/-- **Where all source files hold text, the program has an answer to give.** -/
theorem answers_reply {host : Host Id} {closing : Closing} {root : Path} {text : Path → String}
    {entries : List (String × SourceTree)} (named : (SourceTree.directory entries).WellNamed)
    (readable : ∀ file, (SourceTree.directory entries).SourceAt root file →
      host.Holds file (text file)) :
    (query closing root).Answers host (.directory entries)
      (reply closing ((Walk.filesOf root (.directory entries)).map text)) := by
  refine ⟨Walk.filesOf root (.directory entries), _, ?_, printsFiles_scan ?_, rfl, rfl, rfl⟩
  · intro file
    rw [visits_query_iff, Walk.mem_filesOf_directory_iff named]
  · intro file hfile
    exact readable file ((Walk.mem_filesOf_directory_iff named).mp hfile)

/-! ### Reading the keys back -/

/-- The characters of keys lie between the blanks and the end of ASCII. -/
theorem toNat_of_isInnerChar {c : Char} (h : IsInnerChar c) : 33 ≤ c.toNat ∧ c.toNat < 128 := by
  have hrange {first last : Char} (hlow : 33 ≤ first.toNat) (hhigh : last.toNat < 128)
      (hc : first ≤ c ∧ c ≤ last) : 33 ≤ c.toNat ∧ c.toNat < 128 :=
    ⟨Nat.le_trans hlow hc.1, Nat.lt_of_le_of_lt hc.2 hhigh⟩
  rcases h with (h | h) | h | rfl | rfl | rfl
  · exact hrange (by decide) (by decide) h
  · exact hrange (by decide) (by decide) h
  · exact hrange (by decide) (by decide) h
  · decide
  · decide
  · decide

theorem isBlank_of_isInnerChar {c : Char} (h : IsInnerChar c) : Text.isBlank c = false := by
  have := toNat_of_isInnerChar h
  simp only [Text.isBlank, Bool.or_eq_false_iff, Bool.and_eq_false_iff, decide_eq_false_iff_not,
    beq_eq_false_iff_ne]
  omega

theorem isInnerChar_of_isKey {key : List Char} (h : IsKey key) : ∀ c ∈ key, IsInnerChar c :=
  fun c hc => isKeyChar_iff.mp (isKeyChar_of_isKey (isKey_iff.mpr h) c hc)

/-- Keys that were printed are read back as they were found. -/
theorem mem_printedKeys_printed_iff {found : List (List Char)} (keys : ∀ key ∈ found, IsKey key)
    {key : String} :
    key ∈ printedKeys (Text.Utf8.decodeLossy
        (String.ofList (Text.printed found)).toUTF8.data.toList) ↔ key.toList ∈ found := by
  have hascii : ∀ c ∈ Text.printed found, c.toNat < 128 := by
    intro c hc
    obtain ⟨s, hs, hc⟩ := List.mem_flatMap.mp hc
    rcases List.mem_append.mp hc with hc | hc
    · exact (toNat_of_isInnerChar (isInnerChar_of_isKey (keys s hs) c hc)).2
    · cases List.mem_singleton.mp hc
      decide
  have hfilled : Text.filledLines (Text.printed found) = found := by
    apply Text.filledLines_printed_of_solid
    intro s hs
    obtain ⟨c, cs, rfl, -⟩ := keys s hs
    exact ⟨List.cons_ne_nil c cs,
      fun d hd => isBlank_of_isInnerChar (isInnerChar_of_isKey (keys _ hs) d hd)⟩
  rw [Text.decodeLossy_toUTF8 hascii, printedKeys, hfilled, KeySet.mem_ofList, List.mem_map]
  constructor
  · rintro ⟨s, hs, rfl⟩
    rwa [String.toList_ofList]
  · intro hkey
    exact ⟨key.toList, hkey, String.ofList_toList⟩

/-- **A search of a scan gives the keys that the source files reference in its way.** -/
theorem mem_printedKeys_iff {host : Host Id} {closing : Closing} {root : Path} {tree : SourceTree}
    {done : Finished} (answers : (query closing root).Answers host tree done) {key : String} :
    key ∈ printedKeys (Text.Utf8.decodeLossy done.stdout) ↔
      ∃ file text, tree.SourceAt root file ∧ host.Holds file text ∧
        Occurs closing text.toList key.toList := by
  obtain ⟨files, found, hvisits, hprints, hstdout, -, -⟩ := answers
  have hkeys : ∀ key ∈ found, IsKey key := by
    intro key hkey
    obtain ⟨_, _, _, _, hoccurs⟩ := (mem_printsFiles_iff hprints).mp hkey
    exact hoccurs.1
  rw [hstdout, mem_printedKeys_printed_iff hkeys, mem_printsFiles_iff hprints]
  constructor
  · rintro ⟨file, hfile, text, hholds, hoccurs⟩
    exact ⟨file, text, visits_query_iff.mp ((hvisits file).mp hfile), hholds, hoccurs⟩
  · rintro ⟨file, text, hat, hholds, hoccurs⟩
    exact ⟨file, (hvisits file).mpr (visits_query_iff.mpr hat), text, hholds, hoccurs⟩

end KeyAudit.Ripgrep
