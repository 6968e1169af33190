import Mathlib.Data.Finset.Card
import Waymark.Proofs.Check.Order

/-! The index of canonicals against the plain list of declarations. The index answers every question
as a search through all declarations does, and each normal form that is declared more than once has
one issue, which lists its declarations. -/
namespace Waymark
namespace Check

/-- The places at which the canonical of a token is declared, record by record; a record that
declares it twice counts twice. -/
def declaredAt (rs : List Record) (token : String) : List Location :=
  rs.flatMap fun r =>
    (r.canonicals.filter fun c => normalizeCanonical c = normalizeCanonical token).map
      fun _ => ⟨r.file, r.startLine⟩

/-- The normal forms that are declared at least twice, by first declaration. -/
def repeatedForms (rs : List Record) : List String :=
  (declaredForms rs).eraseDups.filter fun form => 2 ≤ (declaredForms rs).count form

/-- The issue stands at the first declaration of a normal form and lists all of them. -/
structure ReportsRepeated (rs : List Record) (i : Issue) (form : String) : Prop where
  rule : i.rule = .duplicateCanonical
  severity : i.severity = .error
  anchor : ∃ first, (declaredAt rs form).head? = some first ∧ i.file = first.file ∧
    i.line = some first.line
  message : i.message =
    "canonical " ++ form ++ " is declared " ++ toString (declaredAt rs form).length ++ " times: " ++
      ", ".intercalate ((declaredAt rs form).map fun l => l.file ++ ":" ++ toString l.line)

section Lookup

variable (rs : List Record) (token : String)

lemma valuesOf_declarations :
    Grouped.valuesOf (Canonical.declarations rs) (normalizeCanonical token) =
      declaredAt rs token := by
  simp only [Grouped.valuesOf, Canonical.declarations, declaredAt, Record.location,
    List.filter_flatMap, List.filter_map, List.map_flatMap, List.map_map, Function.comp_def]

lemma occurrences_eq_declaredAt :
    (Canonical.Index.build rs).occurrences token = declaredAt rs token := by
  rw [Canonical.Index.occurrences_build, valuesOf_declarations]

lemma contains_iff_declaredAt :
    (Canonical.Index.build rs).contains token = true ↔ declaredAt rs token ≠ [] := by
  rw [Canonical.Index.contains_build, ← valuesOf_declarations, ne_eq,
    Grouped.valuesOf_eq_nil_iff, not_not]

lemma size_eq_card :
    (Canonical.Index.build rs).size = (declaredForms rs).toFinset.card := by
  have hkeys : (Canonical.Index.build rs).entries.groups.map Prod.fst =
      (declaredForms rs).eraseDups := by
    rw [← keys_declarations]
    exact Grouped.keys_ofList _
  have hnodup : (declaredForms rs).eraseDups.Nodup := by
    rw [← hkeys]
    exact (Grouped.gathers_ofList _).nodup
  have hsame : (declaredForms rs).eraseDups.toFinset = (declaredForms rs).toFinset := by
    ext form
    simp
  rw [← hsame, List.toFinset_card_of_nodup hnodup, ← hkeys, List.length_map]
  rfl

end Lookup

section Repeated

variable (rs : List Record)

/-- A declared form is its own normal form. -/
lemma valuesOf_of_mem_declaredForms {form : String} (h : form ∈ declaredForms rs) :
    Grouped.valuesOf (Canonical.declarations rs) form = declaredAt rs form := by
  have hnormal : normalizeCanonical form = form := by
    rw [← keys_declarations] at h
    obtain ⟨d, hd, rfl⟩ := List.mem_map.1 h
    exact Canonical.normalizeCanonical_of_mem_declarations hd
  rw [← valuesOf_declarations, hnormal]

lemma length_declaredAt {form : String} (h : form ∈ declaredForms rs) :
    (declaredAt rs form).length = (declaredForms rs).count form := by
  rw [← valuesOf_of_mem_declaredForms rs h, Grouped.valuesOf_length, keys_declarations]

lemma duplicates_eq :
    (Canonical.Index.build rs).duplicates =
      (repeatedForms rs).map fun form => (form, declaredAt rs form) := by
  have hgroups : (Canonical.Index.build rs).entries.groups =
      (declaredForms rs).eraseDups.map fun form => (form, declaredAt rs form) := by
    rw [← keys_declarations]
    refine (Grouped.groups_ofList _).trans (List.map_congr_left fun form hform => ?_)
    rw [keys_declarations, List.mem_eraseDups] at hform
    rw [valuesOf_of_mem_declaredForms rs hform]
  rw [Canonical.Index.duplicates, hgroups, List.filter_map, repeatedForms]
  congr 1
  refine List.filter_congr fun form hform => ?_
  rw [List.mem_eraseDups] at hform
  simp only [Function.comp_apply, length_declaredAt rs hform, Nat.lt_iff_add_one_le]

lemma duplicateIssues_reports :
    List.Forall₂ (ReportsRepeated rs) (duplicateIssues (.build rs)) (repeatedForms rs) := by
  rw [duplicateIssues, duplicates_eq, List.flatMap_map]
  apply forall₂_flatMap
  intro form hform
  obtain ⟨hdeclared, hcount⟩ := List.mem_filter.1 hform
  rw [List.mem_eraseDups] at hdeclared
  rw [decide_eq_true_eq, ← length_declaredAt rs hdeclared] at hcount
  cases hplaces : declaredAt rs form with
  | nil => simp [hplaces] at hcount
  | cons first rest =>
    refine ⟨duplicateIssue form first (first :: rest), rfl, rfl, rfl, ⟨first, ?_, rfl, rfl⟩, ?_⟩
    · rw [hplaces, List.head?_cons]
    · simp only [duplicateIssue, listed, hplaces]
      rfl

end Repeated

/-- The index finds for every token the places of its declarations, it knows a token exactly when
there are any, and it has one entry for each normal form. Every normal form that is declared at
least twice has one issue, by first declaration, and there are no others. -/
theorem index_exact (rs : List Record) :
    (∀ token, (Canonical.Index.build rs).occurrences token = declaredAt rs token ∧
      ((Canonical.Index.build rs).contains token = true ↔ declaredAt rs token ≠ [])) ∧
    (Canonical.Index.build rs).size = (declaredForms rs).toFinset.card ∧
    List.Forall₂ (ReportsRepeated rs) (duplicateIssues (.build rs)) (repeatedForms rs) :=
  ⟨fun token => ⟨occurrences_eq_declaredAt rs token, contains_iff_declaredAt rs token⟩,
    size_eq_card rs, duplicateIssues_reports rs⟩

/-- The first declaration of a form counts for its place in the list, not the first repetition. -/
example :
    (duplicateIssues (.build
      [{ Record.new "a.ts" 3 "todo" with canonicals := ["#Auth", "x"] },
        { Record.new "b.ts" 1 "tldr" with canonicals := [" X ", "y", "##auth", "AUTH"] }]
      )).map Issue.message =
      ["canonical #auth is declared 3 times: a.ts:3, b.ts:1, b.ts:1",
        "canonical #x is declared 2 times: a.ts:3, b.ts:1"] := by
  decide +kernel

end Check
end Waymark
