import Waymark.Check.Run
import Waymark.Grammar.Inline
import Waymark.Proofs.Grouped

/-! The verdict of a check run, said of the files and their records alone. A run stops exactly at
an impossible span; otherwise it passes exactly when the records keep the rules that are errors,
and in strict mode also those that are warnings. -/
namespace Waymark

namespace Summary

/-- No issue is an error. -/
def ErrorFree (issues : List Issue) : Prop :=
  ∀ i ∈ issues, i.severity ≠ .error

@[simp] lemma errorFree_nil : ErrorFree [] := by simp [ErrorFree]

lemma errorFree_append (is js : List Issue) :
    ErrorFree (is ++ js) ↔ ErrorFree is ∧ ErrorFree js := by
  simp only [ErrorFree, List.forall_mem_append]

lemma errorFree_flatMap {α : Type} (xs : List α) (f : α → List Issue) :
    ErrorFree (xs.flatMap f) ↔ ∀ x ∈ xs, ErrorFree (f x) := by
  constructor
  · intro h x hx i hi
    exact h i (List.mem_flatMap.2 ⟨x, hx, hi⟩)
  · intro h i hi
    obtain ⟨x, hx, hi⟩ := List.mem_flatMap.1 hi
    exact h x hx i hi

/-- Issues that are all errors are free of errors only when there are none. -/
lemma errorFree_iff_of_errors {issues : List Issue} (h : ∀ i ∈ issues, i.severity = .error) :
    ErrorFree issues ↔ issues = [] := by
  constructor
  · intro hf
    rw [List.eq_nil_iff_forall_not_mem]
    intro i hi
    exact hf i hi (h i hi)
  · rintro rfl
    exact errorFree_nil

lemma errorFree_of_warnings {issues : List Issue} (h : ∀ i ∈ issues, i.severity = .warning) :
    ErrorFree issues := by
  intro i hi
  simp [h i hi]

theorem passed_default_iff (issues : List Issue) :
    (ofIssues issues).passed .default = true ↔ ErrorFree issues := by
  simp [passed, ofIssues, ErrorFree]

theorem passed_strict_iff (issues : List Issue) :
    (ofIssues issues).passed .strict = true ↔ issues = [] := by
  simp only [passed, ofIssues, Bool.and_eq_true, beq_iff_eq, List.countP_eq_zero,
    decide_eq_true_eq]
  constructor
  · rintro ⟨he, hw⟩
    rw [List.eq_nil_iff_forall_not_mem]
    intro i hi
    cases hs : i.severity with
    | error => exact he i hi hs
    | warning => exact hw i hi hs
  · rintro rfl
    simp

end Summary

namespace Check

open Summary

/-- The normal forms of all declared canonicals, each as often as it is declared. -/
def declaredForms (rs : List Record) : List String :=
  rs.flatMap fun r => r.canonicals.map normalizeCanonical

/-- The rules whose breach is an error. -/
structure Sound (rs : List Record) : Prop where
  /-- No canonical is declared twice. -/
  distinct : (declaredForms rs).Nodup
  /-- Relations of four kinds point at a declared canonical, an identifier or a URL. -/
  resolved : ∀ r ∈ rs, ∀ rel ∈ r.relations, rel.kind ∈ [.derived, .replaces, .see, .docs] →
    rel.isIdentifier = false → rel.isUrl = false → normalizeCanonical rel.token ∈ declaredForms rs
  /-- No file has two summaries. -/
  single : ((rs.filter Record.isSummary).map Record.file).Nodup

/-- The rules whose breach is a warning. -/
structure Tidy (o : Options) (rs : List Record) : Prop where
  /-- Summaries start on one of the first lines; Markdown has a limit of its own. -/
  placed : ∀ r ∈ rs, r.isSummary = true → r.startLine ≤
    if Language.ofPath? ⟨r.file⟩ = some .markdown then o.tldrMaxLineMarkdown else o.tldrMaxLine
  unflagged : ∀ r ∈ rs, r.signals.flagged = false

lemma keys_declarations (rs : List Record) :
    (Canonical.declarations rs).map Prod.fst = declaredForms rs := by
  simp [Canonical.declarations, declaredForms, List.map_flatMap, Function.comp_def]

lemma index_contains_iff (rs : List Record) (token : String) :
    (Canonical.Index.build rs).contains token = true ↔
      normalizeCanonical token ∈ declaredForms rs := by
  rw [← keys_declarations]
  exact Grouped.contains_ofList _ _

lemma duplicateIssues_severity (ix : Canonical.Index) :
    ∀ i ∈ duplicateIssues ix, i.severity = .error := by
  intro i hi
  obtain ⟨⟨token, locations⟩, -, hi⟩ := List.mem_flatMap.1 hi
  cases locations with
  | nil => simp at hi
  | cons first rest =>
    obtain rfl := List.mem_singleton.1 hi
    rfl

lemma duplicateIssues_eq_nil_iff (rs : List Record) :
    duplicateIssues (Canonical.Index.build rs) = [] ↔ (declaredForms rs).Nodup := by
  rw [← keys_declarations, ← Grouped.forall_length_le_one_iff]
  simp only [duplicateIssues, Canonical.Index.duplicates, Canonical.Index.build,
    List.flatMap_eq_nil_iff, List.mem_filter, decide_eq_true_eq]
  constructor
  · rintro h ⟨token, locations⟩ hp
    by_contra hl
    have hd := h (token, locations) ⟨hp, by simpa using hl⟩
    cases locations with
    | nil => simp at hl
    | cons first rest => simp at hd
  · rintro h p ⟨hp, hl⟩
    exact absurd (h p hp) (by omega)

lemma danglingIssues_severity (g : Canonical.Graph) :
    ∀ i ∈ danglingIssues g, i.severity = .error := by
  intro i hi
  obtain ⟨e, -, rfl⟩ := List.mem_map.1 hi
  rfl

lemma requiresCanonical_iff (k : RelationKind) :
    k.requiresCanonical = true ↔ k ∈ [RelationKind.derived, .replaces, .see, .docs] := by
  cases k <;> decide

lemma danglingIssues_eq_nil_iff (rs : List Record) :
    danglingIssues (Canonical.Graph.build rs) = [] ↔
      ∀ r ∈ rs, ∀ rel ∈ r.relations, rel.kind ∈ [RelationKind.derived, .replaces, .see, .docs] →
        rel.isIdentifier = false → rel.isUrl = false →
        normalizeCanonical rel.token ∈ declaredForms rs := by
  simp only [danglingIssues, Canonical.Graph.dangling, Canonical.Graph.build,
    List.map_eq_nil_iff, List.filter_eq_nil_iff, List.mem_flatMap, List.mem_map,
    ← requiresCanonical_iff, ← index_contains_iff]
  constructor
  · intro h r hr rel hrel hk hid hurl
    have hc := h (.ofRelation r.location rel) ⟨r, hr, rel, hrel, rfl⟩
    simpa [Canonical.Edge.ofRelation, Relation.isChecked, hk, hid, hurl] using hc
  · rintro h e ⟨r, hr, rel, hrel, rfl⟩ hc
    simp only [Canonical.Edge.ofRelation, Relation.isChecked, Bool.and_eq_true,
      Bool.not_eq_true'] at hc
    obtain ⟨⟨⟨hk, hid⟩, hurl⟩, hn⟩ := hc
    rw [h r hr rel hrel hk hid hurl] at hn
    contradiction

lemma multipleIssues_errorFree_iff (file : String) (lines : List Nat) :
    ErrorFree (multipleIssues file lines) ↔ lines.length ≤ 1 := by
  match lines with
  | [] => simp [multipleIssues]
  | [l] => simp [multipleIssues]
  | l :: second :: rest => simp [multipleIssues, ErrorFree]

lemma positionIssues_eq_nil_iff (file : String) (limit : Nat) (lines : List Nat) :
    (lines.filter fun l => limit < l).map (positionIssue file limit) = [] ↔
      ∀ l ∈ lines, l ≤ limit := by
  simp [List.filter_eq_nil_iff]

lemma summaries_single_iff (rs : List Record) :
    (∀ p ∈ (summaries rs).groups, p.2.length ≤ 1) ↔
      ((rs.filter Record.isSummary).map Record.file).Nodup := by
  rw [summaries, Grouped.forall_length_le_one_iff, List.map_map]
  rfl

lemma tldrIssues_errorFree_iff (o : Options) (rs : List Record) :
    ErrorFree (tldrIssues o rs) ↔ ((rs.filter Record.isSummary).map Record.file).Nodup := by
  rw [tldrIssues, errorFree_flatMap, ← summaries_single_iff]
  refine forall₂_congr fun p _ => ?_
  have hw : ErrorFree ((p.2.filter fun l => maxLine o p.1 < l).map
      (positionIssue p.1 (maxLine o p.1))) := by
    apply errorFree_of_warnings
    intro i hi
    obtain ⟨l, -, rfl⟩ := List.mem_map.1 hi
    rfl
  rw [errorFree_append, multipleIssues_errorFree_iff]
  exact and_iff_left hw

/-- The start lines gathered under a file are those of its summaries. -/
lemma mem_summaries {rs : List Record} {p : String × List Nat} (hp : p ∈ (summaries rs).groups)
    (l : Nat) :
    l ∈ p.2 ↔ ∃ r ∈ rs, r.isSummary = true ∧ r.file = p.1 ∧ r.startLine = l := by
  obtain ⟨file, lines⟩ := p
  obtain ⟨rfl, -⟩ := ((Grouped.gathers_ofList _).mem_iff file lines).1 hp
  simp [Grouped.valuesOf, and_assoc]

lemma summary_mem_group {rs : List Record} {r : Record} (hr : r ∈ rs) (hs : r.isSummary = true) :
    ∃ p ∈ (summaries rs).groups, p.1 = r.file := by
  have hk : r.file ∈ ((rs.filter Record.isSummary).map fun r => (r.file, r.startLine)).map
      Prod.fst := by
    simp only [List.map_map, List.mem_map, List.mem_filter]
    exact ⟨r, ⟨hr, hs⟩, rfl⟩
  rw [← (Grouped.gathers_ofList _).mem_keys_iff] at hk
  exact List.mem_map.1 hk

lemma tldrIssues_eq_nil_iff (o : Options) (rs : List Record) :
    tldrIssues o rs = [] ↔ ((rs.filter Record.isSummary).map Record.file).Nodup ∧
      ∀ r ∈ rs, r.isSummary = true → r.startLine ≤ maxLine o r.file := by
  constructor
  · intro h
    refine ⟨(tldrIssues_errorFree_iff o rs).1 (by simp [h]), ?_⟩
    intro r hr hs
    obtain ⟨p, hp, hf⟩ := summary_mem_group hr hs
    have hn := List.append_eq_nil_iff.1 (List.flatMap_eq_nil_iff.1 h p hp)
    rw [← hf]
    exact (positionIssues_eq_nil_iff _ _ _).1 hn.2 _
      ((mem_summaries hp r.startLine).2 ⟨r, hr, hs, hf.symm, rfl⟩)
  · rintro ⟨hsingle, hplaced⟩
    rw [tldrIssues, List.flatMap_eq_nil_iff]
    intro p hp
    rw [List.append_eq_nil_iff, positionIssues_eq_nil_iff]
    constructor
    · have hl := (summaries_single_iff rs).2 hsingle p hp
      match hlines : p.2 with
      | [] => rfl
      | [_] => rfl
      | _ :: _ :: _ => simp [hlines] at hl
    · intro l hl
      obtain ⟨r, hr, hs, hf, rfl⟩ := (mem_summaries hp l).1 hl
      exact hf ▸ hplaced r hr hs

lemma flaggedIssues_severity (o : Options) (rs : List Record) :
    ∀ i ∈ flaggedIssues o rs, i.severity = .warning := by
  intro i hi
  obtain ⟨r, -, rfl⟩ := List.mem_map.1 hi
  rfl

lemma flaggedIssues_eq_nil_iff (o : Options) (rs : List Record) :
    flaggedIssues o rs = [] ↔ ∀ r ∈ rs, r.signals.flagged = false := by
  simp [flaggedIssues, List.filter_eq_nil_iff]

/-- All issues that a list of records with possible spans has. -/
def ruleIssues (o : Options) (rs : List Record) : List Issue :=
  duplicateIssues (.build rs) ++ danglingIssues (.build rs) ++ tldrIssues o rs ++
    flaggedIssues o rs

lemma validate_eq_error_iff (o : Options) (rs : List Record) :
    (∃ m, validate o rs = .error m) ↔ ∃ r ∈ rs, r.hasValidSpan = false := by
  simp only [validate]
  split
  next bad hbad =>
    have hb := List.find?_some hbad
    have hm := List.mem_of_find?_eq_some hbad
    simp only [Except.error.injEq, exists_eq', true_iff]
    exact ⟨bad, hm, by simpa using hb⟩
  next hnone =>
    simp only [reduceCtorEq, exists_false, false_iff, not_exists, not_and]
    intro r hr
    simpa using List.find?_eq_none.1 hnone r hr

lemma validate_eq_ok {o : Options} {rs : List Record} {issues : List Issue}
    (h : validate o rs = .ok issues) : issues = ruleIssues o rs := by
  simp only [validate] at h
  split at h
  · cases h
  · exact (Except.ok.inj h).symm

lemma validate_eq_ok_iff (o : Options) (rs : List Record) (issues : List Issue) :
    validate o rs = .ok issues ↔
      (∀ r ∈ rs, r.hasValidSpan = true) ∧ issues = ruleIssues o rs := by
  constructor
  · intro h
    refine ⟨?_, validate_eq_ok h⟩
    intro r hr
    by_contra hs
    obtain ⟨m, hm⟩ := (validate_eq_error_iff o rs).2 ⟨r, hr, by simpa using hs⟩
    rw [hm] at h
    cases h
  · rintro ⟨hs, rfl⟩
    have hnone : rs.find? (fun r => !r.hasValidSpan) = none := by
      rw [List.find?_eq_none]
      intro r hr
      simp [hs r hr]
    rw [validate, hnone]
    rfl

lemma ruleIssues_errorFree_iff (o : Options) (rs : List Record) :
    ErrorFree (ruleIssues o rs) ↔ Sound rs := by
  simp only [ruleIssues, errorFree_append,
    errorFree_iff_of_errors (duplicateIssues_severity _), duplicateIssues_eq_nil_iff,
    errorFree_iff_of_errors (danglingIssues_severity _), danglingIssues_eq_nil_iff,
    tldrIssues_errorFree_iff, errorFree_of_warnings (flaggedIssues_severity o rs), and_true]
  constructor
  · rintro ⟨⟨hd, hr⟩, hs⟩
    exact ⟨hd, hr, hs⟩
  · rintro ⟨hd, hr, hs⟩
    exact ⟨⟨hd, hr⟩, hs⟩

lemma ruleIssues_eq_nil_iff (o : Options) (rs : List Record) :
    ruleIssues o rs = [] ↔ Sound rs ∧ Tidy o rs := by
  simp only [ruleIssues, List.append_eq_nil_iff, duplicateIssues_eq_nil_iff,
    danglingIssues_eq_nil_iff, tldrIssues_eq_nil_iff, flaggedIssues_eq_nil_iff]
  constructor
  · rintro ⟨⟨⟨hd, hr⟩, hs, hp⟩, hu⟩
    exact ⟨⟨hd, hr, hs⟩, hp, hu⟩
  · rintro ⟨⟨hd, hr, hs⟩, hp, hu⟩
    exact ⟨⟨⟨hd, hr⟩, hs, hp⟩, hu⟩

section Files

variable (read : Reader) (g : Grammar) (base : Path)

/-- The records of a file, if it can be read and parsed. Each has the label of the file, whatever
file the grammar gives it. -/
def records? (path : Path) : Option (List Record) :=
  (read path).toOption.bind fun source =>
    (g source (label base path)).toOption.map (List.map fun r => { r with file := label base path })

/-- The records of all files that can be read and parsed. -/
def corpus (files : List Path) : List Record :=
  files.flatMap fun path => (records? read g base path).getD []

lemma load_toOption (path : Path) :
    (load read g base path).toOption = records? read g base path := by
  cases hr : read path with
  | error e => simp [load, records?, hr, Except.toOption]
  | ok source =>
    cases hg : g source (label base path) with
    | error e => simp [load, records?, hr, hg, Except.toOption]
    | ok rs =>
      simp only [load, records?, hr, hg, Except.toOption, Option.bind_some, Option.map_some]
      rfl

lemma parsed_map_load (files : List Path) :
    parsed (files.map (load read g base)) = corpus read g base files := by
  simp only [parsed, corpus, List.flatMap_map, ← load_toOption]
  congr 1
  funext path
  cases load read g base path <;> rfl

lemma failures_map_load_eq_nil_iff (files : List Path) :
    failures (files.map (load read g base)) = [] ↔
      ∀ path ∈ files, (records? read g base path).isSome = true := by
  simp only [failures, List.filterMap_map, List.filterMap_eq_nil_iff, ← load_toOption]
  refine forall₂_congr fun path _ => ?_
  cases hl : load read g base path <;> simp [hl, Except.toOption]

lemma failures_map_load_severity (files : List Path) :
    ∀ i ∈ failures (files.map (load read g base)), i.severity = .error := by
  intro i hi
  simp only [failures, List.filterMap_map, List.mem_filterMap, Function.comp_apply] at hi
  obtain ⟨path, -, hi⟩ := hi
  cases hr : read path with
  | error e =>
    simp only [load, hr, Option.some.injEq] at hi
    exact hi ▸ rfl
  | ok source =>
    cases hg : g source (label base path) with
    | error e =>
      simp only [load, hr, hg, Option.some.injEq] at hi
      exact hi ▸ rfl
    | ok rs => simp [load, hr, hg] at hi

lemma run_eq (o : Options) (files : List Path) :
    run read g o base files = (validate o (corpus read g base files)).map fun issues =>
      ⟨failures (files.map (load read g base)) ++ issues, files.length,
        (corpus read g base files).length⟩ := by
  simp only [run, parsed_map_load]

lemma run_eq_error_iff (o : Options) (files : List Path) :
    (∃ m, run read g o base files = .error m) ↔
      ∃ r ∈ corpus read g base files, r.hasValidSpan = false := by
  rw [run_eq, ← validate_eq_error_iff o]
  cases validate o (corpus read g base files) <;> simp [Except.map]

lemma run_eq_ok {o : Options} {files : List Path} {report : Report}
    (h : run read g o base files = .ok report) :
    report.issues = failures (files.map (load read g base)) ++
      ruleIssues o (corpus read g base files) := by
  rw [run_eq] at h
  cases hv : validate o (corpus read g base files) with
  | error m => simp [hv, Except.map] at h
  | ok issues =>
    rw [hv] at h
    rw [← Except.ok.inj h, validate_eq_ok hv]

/-- A run stops exactly when some record of a file that can be read and parsed has an impossible
span. Otherwise it passes in default mode exactly when all files could be read and parsed and their
records are sound, and in strict mode exactly when these are tidy as well. -/
theorem run_verdict (o : Options) (files : List Path) :
    ((∃ m, run read g o base files = .error m) ↔
      ∃ path ∈ files, ∃ rs, records? read g base path = some rs ∧
        ∃ r ∈ rs, ¬(1 ≤ r.startLine ∧ r.startLine ≤ r.endLine)) ∧
    ∀ report, run read g o base files = .ok report →
      ((Summary.ofIssues report.issues).passed .default = true ↔
        (∀ path ∈ files, (records? read g base path).isSome = true) ∧
          Sound (corpus read g base files)) ∧
      ((Summary.ofIssues report.issues).passed .strict = true ↔
        (∀ path ∈ files, (records? read g base path).isSome = true) ∧
          Sound (corpus read g base files) ∧ Tidy o (corpus read g base files)) := by
  refine ⟨?_, ?_⟩
  · rw [run_eq_error_iff]
    constructor
    · rintro ⟨r, hr, hs⟩
      obtain ⟨path, hp, hr⟩ := List.mem_flatMap.1 hr
      cases hrs : records? read g base path with
      | none => simp [hrs] at hr
      | some rs =>
        rw [hrs] at hr
        exact ⟨path, hp, rs, hrs, r, hr, by simpa [Record.hasValidSpan] using hs⟩
    · rintro ⟨path, hp, rs, hrs, r, hr, hs⟩
      refine ⟨r, List.mem_flatMap.2 ⟨path, hp, by simpa [hrs] using hr⟩, ?_⟩
      simpa [Record.hasValidSpan] using hs
  · intro report h
    rw [passed_default_iff, passed_strict_iff, run_eq_ok read g base h, errorFree_append,
      errorFree_iff_of_errors (failures_map_load_severity read g base files),
      List.append_eq_nil_iff, failures_map_load_eq_nil_iff, ruleIssues_errorFree_iff,
      ruleIssues_eq_nil_iff]
    exact ⟨Iff.rfl, Iff.rfl⟩

end Files

/-- A grammar that gives the records of every file to one and the same file. -/
def misleading : Grammar := fun source file =>
  (Inline.grammar source file).map (List.map fun r => { r with file := "elsewhere.ts" })

/-- The first file declares a canonical and the second one points at it. All but the first have
their summary on line 25, and the third has a flagged waymark below it. -/
def pointingFiles : Reader := fun path =>
  let low (text : String) := String.ofList (List.replicate 24 '\n') ++ text
  if path.raw = "src/a.ts" then .ok "// tldr ::: ref:#Auth"
  else if path.raw = "src/b.md" then .ok (low "// tldr ::: see:auth")
  else .ok (low "// TLDR ::: ref:#Other\n// *todo ::: later")

/-- The files without the one that declares the canonical. -/
def undeclared : List Path :=
  [⟨"src/b.md"⟩, ⟨"src/c.ts"⟩]

/-- Line 25 is too low for a summary in code, but not in Markdown. -/
def untidyIssues : List Issue :=
  [⟨"c.ts", some 25, .tldrPosition, .warning, "tldr on line 25 is past line 20",
      some "move the tldr to the top of the file"⟩,
    ⟨"c.ts", some 26, .flaggedSignal, .warning,
      "flagged todo waymark must be resolved before merge", some "later"⟩]

def undeclaredIssue : Issue :=
  ⟨"b.md", some 25, .danglingRelation, .error, "see:auth points at undeclared canonical",
    some "declare #auth on the target waymark or fix the reference"⟩

theorem run_verdict_flagged :
    (run pointingFiles misleading .standard ⟨"src"⟩ (⟨"src/a.ts"⟩ :: undeclared) =
        .ok ⟨untidyIssues, 3, 4⟩ ∧
      Sound (corpus pointingFiles misleading ⟨"src"⟩ (⟨"src/a.ts"⟩ :: undeclared)) ∧
      ¬Tidy .standard (corpus pointingFiles misleading ⟨"src"⟩ (⟨"src/a.ts"⟩ :: undeclared))) ∧
    run pointingFiles misleading .standard ⟨"src"⟩ undeclared =
        .ok ⟨undeclaredIssue :: untidyIssues, 2, 3⟩ ∧
      ¬Sound (corpus pointingFiles misleading ⟨"src"⟩ undeclared) := by
  have hall : run pointingFiles misleading .standard ⟨"src"⟩ (⟨"src/a.ts"⟩ :: undeclared) =
      .ok ⟨untidyIssues, 3, 4⟩ := by decide +kernel
  have hrest : run pointingFiles misleading .standard ⟨"src"⟩ undeclared =
      .ok ⟨undeclaredIssue :: untidyIssues, 2, 3⟩ := by decide +kernel
  have hpass : (Summary.ofIssues untidyIssues).passed .default = true := by decide
  have hfail : ¬(Summary.ofIssues untidyIssues).passed .strict = true := by decide
  have hfail' : ¬(Summary.ofIssues (undeclaredIssue :: untidyIssues)).passed .default = true := by
    decide
  obtain ⟨hdefault, hstrict⟩ := (run_verdict _ _ _ _ _).2 _ hall
  obtain ⟨hdefault', -⟩ := (run_verdict _ _ _ _ _).2 _ hrest
  obtain ⟨hread, hsound⟩ := hdefault.1 hpass
  have hread' := (List.forall_mem_cons.1 hread).2
  exact ⟨⟨hall, hsound, fun htidy => hfail (hstrict.2 ⟨hread, hsound, htidy⟩)⟩, hrest,
    fun hsound' => hfail' (hdefault'.2 ⟨hread', hsound'⟩)⟩

end Check
end Waymark
