import Waymark.Proofs.Check.Collect
import Waymark.Proofs.Check.Isolation

/-! The names under which files appear in issues. A collected file is named by its path below the
root with every backslash turned into a slash. Paths are texts here, so two files share a name
exactly when their paths differ in these characters alone; nothing is said of paths that are not
valid UTF-8. Files that share no name are told apart. -/
namespace Waymark
namespace Check

section Names

variable {root : Path} {names a b : List String}

lemma relativePath_ne_empty (hnames : AreNames names) (hne : names ≠ []) :
    relativePath names ≠ "" := by
  intro hempty
  have htexts := Path.texts_intercalate hnames hne
  rw [← relativePath, hempty] at htexts
  obtain ⟨name, rest, rfl⟩ := List.exists_cons_of_ne_nil hne
  obtain ⟨hname, -⟩ := List.cons.inj htexts
  exact Path.name_ne_nil (hnames name List.mem_cons_self) hname.symm

lemma relativePath_injective (ha : AreNames a) (hane : a ≠ []) (hb : AreNames b) (hbne : b ≠ [])
    (h : relativePath a = relativePath b) : a = b := by
  have htexts := Path.texts_intercalate ha hane
  rw [← relativePath, h, relativePath, Path.texts_intercalate hb hbne] at htexts
  exact (List.map_injective_iff.2 (fun _ _ => String.toList_injective) htexts).symm

/-- Below the root only backslashes are lost from the path of a file. -/
theorem label_descend (hroot : root.raw ≠ "") (hnames : AreNames names) (hne : names ≠ []) :
    label root (root.descend names) = Path.slashed ⟨relativePath names⟩ := by
  have hempty : (relativePath names).isEmpty = false := by
    simpa using relativePath_ne_empty hnames hne
  rw [label, Path.strip?_descend hroot hnames hne, Option.getD_some]
  change (if (relativePath names).isEmpty = true then _ else _) = _
  rw [hempty]
  rfl

lemma backslash_notMem_relativePath (h : ∀ name ∈ names, '\\' ∉ name.toList) :
    '\\' ∉ (relativePath names).toList := by
  have hslash : "/".toList = ['/'] := rfl
  rw [relativePath, String.toList_intercalate, hslash]
  induction names with
  | nil => exact List.not_mem_nil
  | cons name names ih =>
    obtain ⟨hname, hnames⟩ := List.forall_mem_cons.1 h
    cases names with
    | nil => simpa using hname
    | cons next names =>
      have hrest := ih hnames
      rw [List.map_cons, List.map_cons, List.intercalate_cons_cons]
      rw [List.map_cons] at hrest
      simp [hname, hrest]

lemma slashed_relativePath (h : ∀ name ∈ names, '\\' ∉ name.toList) :
    Path.slashed ⟨relativePath names⟩ = relativePath names := by
  have hplain := backslash_notMem_relativePath h
  rw [← String.toList_inj, Path.slashed, String.toList_map]
  refine (List.map_congr_left fun c hc => ?_).trans (List.map_id _)
  have hc : c ≠ '\\' := fun heq => hplain (heq ▸ hc)
  rw [if_neg hc, id]

end Names

section Apart

variable (read : Reader) (g : Grammar) (root : Path) (files : List Path)

/-- The start lines of the summaries in one file. -/
def ownSummaries (path : Path) : List Nat :=
  (((records? read g root path).getD []).filter Record.isSummary).map Record.startLine

/-- Files are told apart: the summaries of each make a group of their own, and each issue belongs
to one file. -/
structure ToldApart : Prop where
  grouped : ∀ path ∈ files, (summaries (corpus read g root files)).get (label root path) =
    ownSummaries read g root path
  located : ∀ o report, run read g o root files = .ok report →
    ∀ i ∈ report.issues, ∃! path, path ∈ files ∧ i.file = label root path

variable {read g root files}

lemma file_of_mem_records {path : Path} {r : Record}
    (h : r ∈ (records? read g root path).getD []) : r.file = label root path := by
  have hcorpus : r ∈ corpus read g root [path] := by simpa [corpus] using h
  simpa using file_of_mem_corpus hcorpus

/-- Every issue of a run names one of the files. -/
lemma file_of_mem_issues {o : Options} {report : Report} (h : run read g o root files = .ok report)
    {i : Issue} (hi : i ∈ report.issues) : i.file ∈ files.map (label root) := by
  rw [run_eq_ok read g root h] at hi
  rcases List.mem_append.1 hi with hi | hi
  · obtain ⟨path, hpath, hfailure⟩ := reportsFailure_of_mem hi
    exact List.mem_map.2 ⟨path, hpath, hfailure.file.symm⟩
  · obtain ⟨r, hr, hfile⟩ := List.mem_map.1 (ruleIssues_file o i hi)
    exact hfile ▸ file_of_mem_corpus hr

/-- The summaries of a list of records under their files. -/
def summaryLines (rs : List Record) : List (String × Nat) :=
  (rs.filter Record.isSummary).map fun r => (r.file, r.startLine)

lemma summaryLines_append (rs rs' : List Record) :
    summaryLines (rs ++ rs') = summaryLines rs ++ summaryLines rs' := by
  simp [summaryLines]

lemma valuesOf_summaryLines_corpus {file : String} (h : file ∉ files.map (label root)) :
    Grouped.valuesOf (summaryLines (corpus read g root files)) file = [] := by
  rw [Grouped.valuesOf_eq_nil_iff]
  intro hmem
  rw [summaryLines, List.map_map, List.mem_map] at hmem
  obtain ⟨r, hr, rfl⟩ := hmem
  exact h (file_of_mem_corpus (List.mem_of_mem_filter hr))

lemma valuesOf_summaryLines_records (path : Path) :
    Grouped.valuesOf (summaryLines ((records? read g root path).getD [])) (label root path) =
      ownSummaries read g root path := by
  have hall : ∀ p ∈ summaryLines ((records? read g root path).getD []),
      decide (p.1 = label root path) = true := by
    intro p hp
    obtain ⟨r, hr, rfl⟩ := List.mem_map.1 hp
    exact decide_eq_true (file_of_mem_records (List.mem_of_mem_filter hr))
  rw [Grouped.valuesOf, List.filter_eq_self.2 hall, summaryLines, List.map_map]
  rfl

lemma toldApart_of_nodup (h : (files.map (label root)).Nodup) : ToldApart read g root files where
  grouped := by
    intro path hpath
    -- The other files stand before and after this one and have other names.
    obtain ⟨before, after, rfl⟩ := List.append_of_mem hpath
    rw [List.map_append, List.map_cons, List.nodup_middle, List.nodup_cons, List.mem_append,
      not_or] at h
    obtain ⟨⟨hbefore, hafter⟩, -⟩ := h
    have hcorpus : corpus read g root (before ++ path :: after) =
        corpus read g root before ++ ((records? read g root path).getD [] ++
          corpus read g root after) := by
      simp [corpus]
    have hget := Grouped.get_ofList (summaryLines (corpus read g root (before ++ path :: after)))
      (label root path)
    rw [summaries, ← summaryLines, hget, hcorpus, summaryLines_append, summaryLines_append,
      Grouped.valuesOf_append, Grouped.valuesOf_append, valuesOf_summaryLines_corpus hbefore,
      valuesOf_summaryLines_corpus hafter, valuesOf_summaryLines_records, List.nil_append,
      List.append_nil]
  located := by
    intro o report hrun i hi
    obtain ⟨path, hpath, hfile⟩ := List.mem_map.1 (file_of_mem_issues hrun hi)
    refine ⟨path, ⟨hpath, hfile.symm⟩, ?_⟩
    rintro other ⟨hother, hsame⟩
    exact List.inj_on_of_nodup_map h hother hpath (hsame.symm.trans hfile.symm)

end Apart

section Collect

variable {t : FileTree} {c : Config} {root : Path} {files : List Path}

/-- In a tree whose names are texts, collected files have different names exactly when no two of
their paths differ in the direction of slashes alone, and files with different names are told apart.
In particular this holds if no name on the way to a file has a backslash in it. -/
theorem labels_nodup_iff (hroot : t.isDirectory root = true) (h : collect t c root = .ok files) :
    ((files.map (label root)).Nodup ↔
      ∀ a b, Collected t c root a → Collected t c root b →
        Path.slashed ⟨relativePath a⟩ = Path.slashed ⟨relativePath b⟩ → a = b) ∧
    ((∀ names, Collected t c root names → ∀ name ∈ names, '\\' ∉ name.toList) →
      (files.map (label root)).Nodup) ∧
    ((files.map (label root)).Nodup → ∀ read g, ToldApart read g root files) := by
  have hraw := FileTree.raw_ne_empty_of_isDirectory hroot
  obtain ⟨found, hfiles, hsorted, hfound⟩ := exists_names_of_collect hroot h
  have hlabels : files.map (label root) =
      found.map fun names => Path.slashed ⟨relativePath names⟩ := by
    rw [hfiles, List.map_map]
    refine List.map_congr_left fun names hnames => ?_
    obtain ⟨hne, hnamed, -⟩ := (hfound names).1 hnames
    exact label_descend hraw hnamed hne
  have hdistinct : found.Nodup := hsorted.imp fun {a b} hlt heq => by
    rw [heq, Std.ReflOrd.compare_self] at hlt
    cases hlt
  have hiff : (files.map (label root)).Nodup ↔
      ∀ a b, Collected t c root a → Collected t c root b →
        Path.slashed ⟨relativePath a⟩ = Path.slashed ⟨relativePath b⟩ → a = b := by
    rw [hlabels, List.nodup_map_iff_inj_on hdistinct]
    simp only [hfound]
    exact ⟨fun h a b ha hb => h a ha b hb, fun h a ha b hb => h a b ha hb⟩
  refine ⟨hiff, fun hplain => hiff.2 fun a b ha hb hsame => ?_, fun hnodup _ _ =>
    toldApart_of_nodup hnodup⟩
  rw [slashed_relativePath (hplain a ha), slashed_relativePath (hplain b hb)] at hsame
  exact relativePath_injective ha.named ha.nonempty hb.named hb.nonempty hsame

theorem labels_nodup_linked :
    ToldApart linkedTree.read Inline.grammar ⟨"."⟩ [⟨"./again/lib.rs"⟩, ⟨"./target.rs"⟩] := by
  have hlabels : [⟨"./again/lib.rs"⟩, ⟨"./target.rs"⟩].map (label ⟨"."⟩) =
      ["again/lib.rs", "target.rs"] := by decide +kernel
  have hnodup : ([⟨"./again/lib.rs"⟩, ⟨"./target.rs"⟩].map (label ⟨"."⟩)).Nodup := by
    rw [hlabels]
    decide
  exact (labels_nodup_iff isDirectory_linked collect_linked).2.2 hnodup _ _

/-- Two files with one summary each; only the direction of a slash tells their paths apart. -/
def twinTree : FileTree where
  entries :=
    [(["a"], .directory), (["a", "b.rs"], .file "// tldr ::: one\n".toUTF8),
      (["a\\b.rs"], .file "// tldr ::: two\n".toUTF8)]
  distinct := by decide
  named := by decide

def twinFiles : List Path :=
  [⟨"./a/b.rs"⟩, ⟨"./a\\b.rs"⟩]

lemma isDirectory_twins : twinTree.isDirectory ⟨"."⟩ = true := by
  decide +kernel

lemma collect_twins : collect twinTree .standard ⟨"."⟩ = .ok twinFiles := by
  have hwalk : twinTree.walk ⟨"."⟩ (enters .standard) = .ok [["a", "b.rs"], ["a\\b.rs"]] := by
    decide +kernel
  rw [collect_of_walk isDirectory_twins hwalk (by decide +kernel)]
  decide +kernel

lemma labels_twins : twinFiles.map (label ⟨"."⟩) = ["a/b.rs", "a/b.rs"] := by
  decide +kernel

lemma corpus_twins :
    corpus twinTree.read Inline.grammar ⟨"."⟩ twinFiles =
      [{ Record.new "a/b.rs" 1 "tldr" with contents := "one" },
        { Record.new "a/b.rs" 1 "tldr" with contents := "two" }] := by
  decide +kernel

/-- Both twins get one name, so their summaries are reported as two in one file. -/
theorem labels_collide :
    twinTree.isDirectory ⟨"."⟩ = true ∧ collect twinTree .standard ⟨"."⟩ = .ok twinFiles ∧
      ¬(twinFiles.map (label ⟨"."⟩)).Nodup ∧
      tldrIssues .standard (corpus twinTree.read Inline.grammar ⟨"."⟩ twinFiles) =
        multipleIssues "a/b.rs" [1, 1] := by
  rw [labels_twins, corpus_twins]
  exact ⟨isDirectory_twins, collect_twins, by decide, by decide +kernel⟩

end Collect

end Check
end Waymark
