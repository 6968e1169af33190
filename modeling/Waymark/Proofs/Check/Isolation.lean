import Waymark.Proofs.Check.Order

/-! Files that fail to load. Such a file puts one issue of its own into the report and leaves all
others as they are. The issues of such files come first, and no issue names a file that was not
checked, whatever files a grammar writes into its records. -/
namespace Waymark
namespace Check

section Records

variable {rs : List Record}

lemma duplicateIssues_file :
    ∀ i ∈ duplicateIssues (.build rs), i.file ∈ rs.map Record.file := by
  intro i hi
  obtain ⟨⟨token, locations⟩, hd, hi⟩ := List.mem_flatMap.1 hi
  cases locations with
  | nil => simp at hi
  | cons first rest =>
    obtain rfl := List.mem_singleton.1 hi
    have hgroup := ((Grouped.gathers_ofList (Canonical.declarations rs)).mem_iff _ _).1
      (List.mem_of_mem_filter hd)
    have hfirst : first ∈ Grouped.valuesOf (Canonical.declarations rs) token := by
      rw [← hgroup.1]
      exact List.mem_cons_self
    obtain ⟨d, hm, rfl⟩ := List.mem_map.1 hfirst
    obtain ⟨r, hr, hm⟩ := List.mem_flatMap.1 (List.mem_of_mem_filter hm)
    obtain ⟨c, -, rfl⟩ := List.mem_map.1 hm
    exact List.mem_map_of_mem hr

lemma danglingIssues_file :
    ∀ i ∈ danglingIssues (.build rs), i.file ∈ rs.map Record.file := by
  intro i hi
  obtain ⟨e, he, rfl⟩ := List.mem_map.1 hi
  obtain ⟨r, hr, he⟩ := List.mem_flatMap.1 (List.mem_of_mem_filter he)
  obtain ⟨rel, -, rfl⟩ := List.mem_map.1 he
  exact List.mem_map_of_mem hr

lemma multipleIssues_file (file : String) (lines : List Nat) :
    ∀ i ∈ multipleIssues file lines, i.file = file := by
  match lines with
  | [] => simp [multipleIssues]
  | [_] => simp [multipleIssues]
  | _ :: _ :: _ => simp [multipleIssues]

lemma tldrIssues_file (o : Options) : ∀ i ∈ tldrIssues o rs, i.file ∈ rs.map Record.file := by
  intro i hi
  obtain ⟨⟨file, lines⟩, hg, hi⟩ := List.mem_flatMap.1 hi
  have hfile : i.file = file := by
    rcases List.mem_append.1 hi with hi | hi
    · exact multipleIssues_file file lines i hi
    · obtain ⟨l, -, rfl⟩ := List.mem_map.1 hi
      rfl
  have hkey : file ∈ (summaries rs).groups.map Prod.fst := List.mem_map_of_mem hg
  rw [summaries, (Grouped.gathers_ofList _).mem_keys_iff, List.map_map] at hkey
  obtain ⟨r, hr, rfl⟩ := List.mem_map.1 hkey
  rw [hfile]
  exact List.mem_map_of_mem (List.mem_of_mem_filter hr)

lemma flaggedIssues_file (o : Options) :
    ∀ i ∈ flaggedIssues o rs, i.file ∈ rs.map Record.file := by
  intro i hi
  obtain ⟨r, hr, rfl⟩ := List.mem_map.1 hi
  exact List.mem_map_of_mem (List.mem_of_mem_filter hr)

/-- Every issue names the file of some record. -/
theorem ruleIssues_file (o : Options) : ∀ i ∈ ruleIssues o rs, i.file ∈ rs.map Record.file := by
  intro i hi
  simp only [ruleIssues, List.mem_append] at hi
  rcases hi with ((hi | hi) | hi) | hi
  · exact duplicateIssues_file i hi
  · exact danglingIssues_file i hi
  · exact tldrIssues_file o i hi
  · exact flaggedIssues_file o i hi

/-- No issue about records is one about a file that could not be loaded. -/
lemma ruleIssues_rule (o : Options) :
    ∀ i ∈ ruleIssues o rs, i.rule ∉ [Rule.fileReadError, .parseError] := by
  have hnone : ∀ rule ∈ [Rule.fileReadError, .parseError], ofRule rule (ruleIssues o rs) = [] := by
    intro rule hrule
    rw [ofRule_ruleIssues]
    simp only [List.mem_cons, List.not_mem_nil, or_false] at hrule
    rcases hrule with rfl | rfl <;> rfl
  intro i hi hrule
  have hmem : i ∈ ofRule i.rule (ruleIssues o rs) := List.mem_filter.2 ⟨hi, by simp⟩
  rw [hnone _ hrule] at hmem
  exact List.not_mem_nil hmem

end Records

/-- Two grammars that accept the same sources and give records which differ in their files only. -/
def SameButFiles (g g' : Grammar) : Prop :=
  ∀ source file, (g source file).map (List.map (Record.stamp "")) =
    (g' source file).map (List.map (Record.stamp ""))

/-- The issue of a file that could not be read or, if it could, not parsed. -/
structure ReportsFailure (read : Reader) (base path : Path) (i : Issue) : Prop where
  rule : i.rule = if (read path).isOk then .parseError else .fileReadError
  severity : i.severity = .error
  file : i.file = label base path
  line : i.line = none

lemma ReportsFailure.rule_mem {read : Reader} {base path : Path} {i : Issue}
    (h : ReportsFailure read base path i) : i.rule ∈ [Rule.fileReadError, .parseError] := by
  rw [h.rule]
  split <;> simp

section Files

variable (read : Reader) (g : Grammar) (base : Path)

/-- Whether a file cannot be read, or the grammar rejects what it holds. -/
def fails (path : Path) : Bool :=
  match read path with
  | .error _ => true
  | .ok source => !(g source (label base path)).isOk

variable {read g base}

lemma fails_iff (path : Path) :
    fails read g base path = true ↔ ∃ i, load read g base path = .error i := by
  cases hr : read path with
  | error e => simp [fails, load, hr]
  | ok source =>
    cases hg : g source (label base path) <;> simp [fails, load, hr, hg, Except.isOk, Except.toBool]

lemma reportsFailure_of_load {path : Path} {i : Issue} (h : load read g base path = .error i) :
    ReportsFailure read base path i := by
  cases hr : read path with
  | error e =>
    simp only [load, hr, Except.error.injEq] at h
    subst h
    exact ⟨by rw [hr]; rfl, rfl, rfl, rfl⟩
  | ok source =>
    cases hg : g source (label base path) with
    | error e =>
      simp only [load, hr, hg, Except.error.injEq] at h
      subst h
      exact ⟨by rw [hr]; rfl, rfl, rfl, rfl⟩
    | ok rs => simp [load, hr, hg] at h

lemma reportsFailure_of_mem {files : List Path} {i : Issue}
    (h : i ∈ failures (files.map (load read g base))) :
    ∃ path ∈ files, ReportsFailure read base path i := by
  simp only [failures, List.filterMap_map, List.mem_filterMap, Function.comp_apply] at h
  obtain ⟨path, hp, hi⟩ := h
  cases hl : load read g base path with
  | error j =>
    simp only [hl, Option.some.injEq] at hi
    exact ⟨path, hp, hi ▸ reportsFailure_of_load hl⟩
  | ok rs => simp [hl] at hi

lemma length_failures (files : List Path) :
    (failures (files.map (load read g base))).length = files.countP (fails read g base) := by
  simp only [failures, List.filterMap_map, List.length_filterMap_eq_countP]
  refine List.countP_congr fun path _ => ?_
  rw [fails_iff]
  cases hl : load read g base path <;> simp [hl]

section Insert

variable {fs₁ fs₂ : List Path} {path : Path} {i : Issue} (h : load read g base path = .error i)
include h

/-- A file that fails adds no record. -/
lemma corpus_insert :
    corpus read g base (fs₁ ++ path :: fs₂) = corpus read g base (fs₁ ++ fs₂) := by
  have hnone : records? read g base path = none := by
    rw [← load_toOption, h]
    rfl
  simp [corpus, hnone]

/-- A file that fails adds its issue at its place among those of other such files. -/
lemma failures_insert :
    failures ((fs₁ ++ path :: fs₂).map (load read g base)) =
      failures (fs₁.map (load read g base)) ++ i :: failures (fs₂.map (load read g base)) := by
  simp [failures, h]

/-- The records that are left are checked as without the file. -/
lemma run_insert (o : Options) :
    run read g o base (fs₁ ++ path :: fs₂) =
      (validate o (corpus read g base (fs₁ ++ fs₂))).map fun issues =>
        ⟨failures (fs₁.map (load read g base)) ++
            i :: (failures (fs₂.map (load read g base)) ++ issues),
          (fs₁ ++ fs₂).length + 1, (corpus read g base (fs₁ ++ fs₂)).length⟩ := by
  have hlength : (fs₁ ++ path :: fs₂).length = (fs₁ ++ fs₂).length + 1 := by
    simp only [List.length_append, List.length_cons]
    omega
  simp only [run_eq, corpus_insert h, failures_insert h, hlength, List.append_assoc,
    List.cons_append]

end Insert

/-- Records come under the labels of the files they were read from. -/
lemma file_of_mem_corpus {files : List Path} {r : Record} (h : r ∈ corpus read g base files) :
    r.file ∈ files.map (label base) := by
  obtain ⟨path, hp, hr⟩ := List.mem_flatMap.1 h
  cases hrs : records? read g base path with
  | none => simp [hrs] at hr
  | some rs =>
    rw [hrs] at hr
    simp only [records?, Option.bind_eq_some_iff, Option.map_eq_some_iff] at hrs
    obtain ⟨source, -, rs, -, rfl⟩ := hrs
    obtain ⟨q, -, rfl⟩ := List.mem_map.1 hr
    exact List.mem_map_of_mem hp

lemma load_congr {g' : Grammar} (h : SameButFiles g g') : load read g base = load read g' base := by
  funext path
  cases hr : read path with
  | error e => simp [load, hr]
  | ok source =>
    have hsame := h source (label base path)
    have hstamp : ∀ rs : List Record, (rs.map (Record.stamp "")).map
        (Record.stamp (label base path)) = rs.map (Record.stamp (label base path)) := by
      intro rs
      rw [List.map_map]
      rfl
    cases hg : g source (label base path) with
    | error e =>
      cases hg' : g' source (label base path) with
      | error e' =>
        rw [hg, hg'] at hsame
        cases hsame
        simp [load, hr, hg, hg']
      | ok rs' => simp [hg, hg', Except.map] at hsame
    | ok rs =>
      cases hg' : g' source (label base path) with
      | error e' => simp [hg, hg', Except.map] at hsame
      | ok rs' =>
        rw [hg, hg'] at hsame
        have hrs := congrArg (List.map (Record.stamp (label base path))) (Except.ok.inj hsame)
        rw [hstamp, hstamp] at hrs
        simp [load, hr, hg, hg', hrs]

variable (read g base)

/-- A file that fails to load is isolated: a run that stops without it stops for the same reason,
and any other run gets one more scanned file and one more issue, which stands behind those of the
files that failed before it. The files that a grammar gives its records do not matter, every issue
names a checked file, and the issues of files that failed come first. -/
theorem run_isolates (o : Options) :
    (∀ fs₁ fs₂ path, fails read g base path = true →
      (∀ m, run read g o base (fs₁ ++ fs₂) = .error m →
        run read g o base (fs₁ ++ [path] ++ fs₂) = .error m) ∧
      ∀ report, run read g o base (fs₁ ++ fs₂) = .ok report →
        ∃ before i after, report.issues = before ++ after ∧
          before.length = fs₁.countP (fails read g base) ∧ ReportsFailure read base path i ∧
          run read g o base (fs₁ ++ [path] ++ fs₂) =
            .ok ⟨before ++ [i] ++ after, report.filesScanned + 1, report.records⟩) ∧
    (∀ g', SameButFiles g g' →
      ∀ files, run read g' o base files = run read g o base files) ∧
    ∀ files report, run read g o base files = .ok report →
      (∀ i ∈ report.issues, i.file ∈ files.map (label base)) ∧
      ∃ failed broken, report.issues = failed ++ broken ∧
        (∀ i ∈ failed, i.rule ∈ [Rule.fileReadError, .parseError]) ∧
        ∀ i ∈ broken, i.rule ∉ [Rule.fileReadError, .parseError] := by
  refine ⟨?_, ?_, ?_⟩
  · intro fs₁ fs₂ path hfails
    obtain ⟨i, hi⟩ := (fails_iff path).1 hfails
    have hboth : failures ((fs₁ ++ fs₂).map (load read g base)) =
        failures (fs₁.map (load read g base)) ++ failures (fs₂.map (load read g base)) := by
      simp [failures]
    rw [List.append_assoc, List.singleton_append, run_insert hi, run_eq, hboth]
    cases validate o (corpus read g base (fs₁ ++ fs₂)) with
    | error m =>
      refine ⟨fun _ hm => hm, ?_⟩
      intro report hreport
      cases hreport
    | ok issues =>
      refine ⟨by rintro m ⟨⟩, ?_⟩
      intro report hreport
      obtain rfl := Except.ok.inj hreport
      exact ⟨_, i, _, List.append_assoc .., length_failures fs₁, reportsFailure_of_load hi,
        by simp [Except.map]⟩
  · intro g' hsame files
    rw [run, run, load_congr hsame]
  · intro files report hreport
    rw [run_eq_ok read g base hreport]
    refine ⟨?_, _, _, rfl, ?_, ruleIssues_rule o⟩
    · intro i hi
      rcases List.mem_append.1 hi with hi | hi
      · obtain ⟨path, hp, hfailure⟩ := reportsFailure_of_mem hi
        rw [hfailure.file]
        exact List.mem_map_of_mem hp
      · obtain ⟨r, hr, hfile⟩ := List.mem_map.1 (ruleIssues_file o i hi)
        rw [← hfile]
        exact file_of_mem_corpus hr
    · intro i hi
      obtain ⟨path, -, hfailure⟩ := reportsFailure_of_mem hi
      exact hfailure.rule_mem

end Files

/-- One file is missing, one holds a waymark without a marker, and all others have two summaries. -/
def ailingFiles : Reader := fun path =>
  if path.raw = "gone.ts" then .error .notFound
  else .ok (if path.raw = "bad.ts" then "// ::: late" else "// tldr ::: one\n// tldr ::: two")

theorem run_isolates_bad :
    fails ailingFiles Inline.grammar ⟨""⟩ ⟨"bad.ts"⟩ = true ∧
      SameButFiles Inline.grammar misleading ∧
      (∃ i, ReportsFailure ailingFiles ⟨""⟩ ⟨"bad.ts"⟩ i ∧
        run ailingFiles Inline.grammar .standard ⟨""⟩ [⟨"gone.ts"⟩, ⟨"bad.ts"⟩, ⟨"a.ts"⟩] =
          .ok ⟨[readIssue "gone.ts" .notFound, i] ++ multipleIssues "a.ts" [1, 2], 3, 2⟩) ∧
      run ailingFiles misleading .standard ⟨""⟩ [⟨"gone.ts"⟩, ⟨"a.ts"⟩] =
        .ok ⟨readIssue "gone.ts" .notFound :: multipleIssues "a.ts" [1, 2], 2, 2⟩ ∧
      ∀ i ∈ multipleIssues "a.ts" [1, 2], i.file ∈ ["gone.ts", "a.ts"] := by
  have hfails : fails ailingFiles Inline.grammar ⟨""⟩ ⟨"bad.ts"⟩ = true := by decide +kernel
  have hsame : SameButFiles Inline.grammar misleading := by
    intro source file
    rw [misleading]
    cases Inline.grammar source file with
    | error e => rfl
    | ok rs => simp [Except.map, Record.stamp]
  have hrun : run ailingFiles Inline.grammar .standard ⟨""⟩ ([⟨"gone.ts"⟩] ++ [⟨"a.ts"⟩]) =
      .ok ⟨readIssue "gone.ts" .notFound :: multipleIssues "a.ts" [1, 2], 2, 2⟩ := by
    decide +kernel
  have hlabels : [⟨"gone.ts"⟩, ⟨"a.ts"⟩].map (label ⟨""⟩) = ["gone.ts", "a.ts"] := by
    decide +kernel
  obtain ⟨hinsert, hfiles, hissues⟩ := run_isolates ailingFiles Inline.grammar ⟨""⟩ .standard
  obtain ⟨before, i, after, hsplit, hlength, hi, hok⟩ := (hinsert _ _ _ hfails).2 _ hrun
  have hcount : [(⟨"gone.ts"⟩ : Path)].countP (fails ailingFiles Inline.grammar ⟨""⟩) = 1 := by
    decide +kernel
  rw [hcount] at hlength
  have hfirst : [readIssue "gone.ts" .notFound] ++ multipleIssues "a.ts" [1, 2] = before ++ after :=
    hsplit
  obtain ⟨rfl, rfl⟩ := List.append_inj hfirst hlength.symm
  refine ⟨hfails, hsame, ⟨i, hi, hok⟩, (hfiles _ hsame _).trans hrun, ?_⟩
  intro j hj
  rw [← hlabels]
  exact (hissues _ _ hrun).1 j (List.mem_cons_of_mem _ hj)

end Check
end Waymark
