import Mathlib.Data.List.Perm.Basic
import Waymark.Proofs.Canonical
import Waymark.Proofs.Check.Verdict

/-! The order of records does not matter. It decides where an issue is anchored and in which order
places are listed, but not which rules are broken how often. -/
namespace Waymark
namespace Check

/-- The issue says how often a canonical is declared. -/
def ReportsDuplicate (i : Issue) (d : String × Nat) : Prop :=
  ∃ first rest, i = duplicateIssue d.1 first (first :: rest) ∧ d.2 = (first :: rest).length

/-- The issue says how many summaries a file has. -/
def ReportsMultiple (i : Issue) (d : String × Nat) : Prop :=
  ∃ lines, multipleIssues d.1 lines = [i] ∧ d.2 = lines.length

/-- The canonicals with more than one declaration, in normal form, and how many each has. -/
def duplicateCounts (rs : List Record) : List (String × Nat) :=
  (Canonical.Index.build rs).entries.counts.filter fun d => 1 < d.2

/-- The files with more than one summary, and how many each has. -/
def multipleCounts (rs : List Record) : List (String × Nat) :=
  (summaries rs).counts.filter fun d => 1 < d.2

/-- The issues of one rule, in order. -/
def ofRule (rule : Rule) (issues : List Issue) : List Issue :=
  issues.filter fun i => i.rule = rule

/-- What two checks of the same records have in common, whatever the order of the records. -/
structure SameVerdict (rs rs' : List Record) (issues issues' : List Issue) : Prop where
  rules : ∀ rule, (ofRule rule issues).length = (ofRule rule issues').length
  summary : Summary.ofIssues issues = Summary.ofIssues issues'
  passed : ∀ mode,
    (Summary.ofIssues issues).passed mode = (Summary.ofIssues issues').passed mode
  same : ∀ rule ∈ [Rule.danglingRelation, .tldrPosition, .flaggedSignal],
    (ofRule rule issues).Perm (ofRule rule issues')
  duplicates : List.Forall₂ ReportsDuplicate (ofRule .duplicateCanonical issues)
      (duplicateCounts rs) ∧
    List.Forall₂ ReportsDuplicate (ofRule .duplicateCanonical issues') (duplicateCounts rs') ∧
    (duplicateCounts rs).Perm (duplicateCounts rs')
  multiples : List.Forall₂ ReportsMultiple (ofRule .multipleTldr issues) (multipleCounts rs) ∧
    List.Forall₂ ReportsMultiple (ofRule .multipleTldr issues') (multipleCounts rs') ∧
    (multipleCounts rs).Perm (multipleCounts rs')

@[simp] lemma ofRule_append (rule : Rule) (is js : List Issue) :
    ofRule rule (is ++ js) = ofRule rule is ++ ofRule rule js :=
  List.filter_append ..

lemma ofRule_flatMap {α : Type} (rule : Rule) (xs : List α) (f : α → List Issue) :
    ofRule rule (xs.flatMap f) = xs.flatMap fun x => ofRule rule (f x) :=
  List.filter_flatMap

/-- Issues that all come from one rule. -/
lemma ofRule_of_forall {issues : List Issue} {rule : Rule} (h : ∀ i ∈ issues, i.rule = rule)
    (rule' : Rule) : ofRule rule' issues = if rule = rule' then issues else [] := by
  unfold ofRule
  split
  · rename_i he
    rw [List.filter_eq_self]
    intro i hi
    simpa [← he] using h i hi
  · rename_i hne
    rw [List.filter_eq_nil_iff]
    intro i hi
    simpa [h i hi] using hne

section Passes

lemma duplicateIssues_rule (ix : Canonical.Index) :
    ∀ i ∈ duplicateIssues ix, i.rule = .duplicateCanonical := by
  intro i hi
  obtain ⟨⟨token, locations⟩, -, hi⟩ := List.mem_flatMap.1 hi
  cases locations with
  | nil => simp at hi
  | cons first rest =>
    obtain rfl := List.mem_singleton.1 hi
    rfl

lemma danglingIssues_rule (g : Canonical.Graph) :
    ∀ i ∈ danglingIssues g, i.rule = .danglingRelation := by
  intro i hi
  obtain ⟨e, -, rfl⟩ := List.mem_map.1 hi
  rfl

lemma flaggedIssues_rule (o : Options) (rs : List Record) :
    ∀ i ∈ flaggedIssues o rs, i.rule = .flaggedSignal := by
  intro i hi
  obtain ⟨r, -, rfl⟩ := List.mem_map.1 hi
  rfl

lemma multipleIssues_rule (file : String) (lines : List Nat) :
    ∀ i ∈ multipleIssues file lines, i.rule = .multipleTldr ∧ i.severity = .error := by
  match lines with
  | [] => simp [multipleIssues]
  | [_] => simp [multipleIssues]
  | _ :: _ :: _ => simp [multipleIssues]

/-- The errors for more than one summary in a file. -/
def allMultiple (rs : List Record) : List Issue :=
  (summaries rs).groups.flatMap fun (file, lines) => multipleIssues file lines

/-- The warnings for summaries too far down. -/
def allMisplaced (o : Options) (rs : List Record) : List Issue :=
  (summaries rs).groups.flatMap fun (file, lines) =>
    (lines.filter fun l => maxLine o file < l).map (positionIssue file (maxLine o file))

lemma ofRule_tldrIssues (o : Options) (rs : List Record) (rule : Rule) :
    ofRule rule (tldrIssues o rs) =
      if rule = .multipleTldr then allMultiple rs
      else if rule = .tldrPosition then allMisplaced o rs else [] := by
  have hmany : ∀ file lines, ofRule rule (multipleIssues file lines) =
      if .multipleTldr = rule then multipleIssues file lines else [] := fun file lines =>
    ofRule_of_forall (fun i hi => (multipleIssues_rule file lines i hi).1) rule
  have hplace : ∀ file limit (lines : List Nat),
      ofRule rule ((lines.filter fun l => limit < l).map (positionIssue file limit)) =
        if .tldrPosition = rule then
          (lines.filter fun l => limit < l).map (positionIssue file limit) else [] := by
    intro file limit lines
    apply ofRule_of_forall
    intro i hi
    obtain ⟨l, -, rfl⟩ := List.mem_map.1 hi
    rfl
  simp only [tldrIssues, ofRule_flatMap, ofRule_append, hmany, hplace]
  cases rule <;> simp [allMultiple, allMisplaced]

/-- The issues of a check, rule by rule. -/
lemma ofRule_ruleIssues (o : Options) (rs : List Record) (rule : Rule) :
    ofRule rule (ruleIssues o rs) =
      match rule with
      | .fileReadError | .parseError => []
      | .duplicateCanonical => duplicateIssues (.build rs)
      | .danglingRelation => danglingIssues (.build rs)
      | .multipleTldr => allMultiple rs
      | .tldrPosition => allMisplaced o rs
      | .flaggedSignal => flaggedIssues o rs := by
  simp only [ruleIssues, ofRule_append, ofRule_of_forall (duplicateIssues_rule _),
    ofRule_of_forall (danglingIssues_rule _), ofRule_tldrIssues,
    ofRule_of_forall (flaggedIssues_rule o rs)]
  cases rule <;> simp

/-- Whether the breach of a rule is an error. -/
def ruleSeverity : Rule → Severity
  | .tldrPosition | .flaggedSignal => .warning
  | _ => .error

lemma ruleIssues_severity (o : Options) (rs : List Record) :
    ∀ i ∈ ruleIssues o rs, i.severity = ruleSeverity i.rule := by
  intro i hi
  simp only [ruleIssues, List.mem_append] at hi
  rcases hi with ((hi | hi) | hi) | hi
  · rw [duplicateIssues_rule _ i hi, duplicateIssues_severity _ i hi]
    rfl
  · rw [danglingIssues_rule _ i hi, danglingIssues_severity _ i hi]
    rfl
  · obtain ⟨⟨file, lines⟩, -, hi⟩ := List.mem_flatMap.1 hi
    rcases List.mem_append.1 hi with hi | hi
    · obtain ⟨hrule, hseverity⟩ := multipleIssues_rule file lines i hi
      rw [hrule, hseverity]
      rfl
    · obtain ⟨l, -, rfl⟩ := List.mem_map.1 hi
      rfl
  · rw [flaggedIssues_rule o rs i hi, flaggedIssues_severity o rs i hi]
    rfl

/-- How often each rule is broken decides the totals. -/
lemma ofIssues_eq_of_rules {is js : List Issue}
    (hi : ∀ i ∈ is, i.severity = ruleSeverity i.rule)
    (hj : ∀ j ∈ js, j.severity = ruleSeverity j.rule)
    (h : ∀ rule, (ofRule rule is).length = (ofRule rule js).length) :
    Summary.ofIssues is = Summary.ofIssues js := by
  have hperm : (is.map Issue.rule).Perm (js.map Issue.rule) := by
    rw [List.perm_iff_count]
    intro rule
    have hcount := h rule
    simp only [ofRule, ← List.countP_eq_length_filter] at hcount
    simpa only [List.count, List.countP_map, Function.comp_def, beq_eq_decide] using hcount
  have hseverity : ∀ ks : List Issue, (∀ k ∈ ks, k.severity = ruleSeverity k.rule) → ∀ s,
      ks.countP (fun k => k.severity = s) =
        (ks.map Issue.rule).countP fun rule => ruleSeverity rule = s := by
    intro ks hk s
    rw [List.countP_map]
    refine List.countP_congr fun k hm => ?_
    simp [hk k hm]
  have htotal : is.length = js.length := by simpa using hperm.length_eq
  simp only [Summary.ofIssues, htotal, hseverity is hi, hseverity js hj, hperm.countP_eq]

end Passes

section Reports

/-- A list in which every element of another one has made a single entry. -/
lemma forall₂_flatMap {α β : Type} {R : β → α → Prop} {f : α → List β} {xs : List α}
    (h : ∀ x ∈ xs, ∃ y, f x = [y] ∧ R y x) : List.Forall₂ R (xs.flatMap f) xs := by
  induction xs with
  | nil => exact .nil
  | cons x xs ih =>
    obtain ⟨y, hy, hr⟩ := h x List.mem_cons_self
    rw [List.flatMap_cons, hy]
    exact .cons hr (ih fun x' hx => h x' (List.mem_cons_of_mem _ hx))

/-- Every repeated canonical has one issue, which gives the number of its declarations. -/
lemma duplicateIssues_report (rs : List Record) :
    List.Forall₂ ReportsDuplicate (duplicateIssues (.build rs)) (duplicateCounts rs) := by
  have hcounts : duplicateCounts rs =
      (Canonical.Index.build rs).duplicates.map fun d => (d.1, d.2.length) := by
    rw [duplicateCounts, Grouped.counts, List.filter_map]
    rfl
  rw [hcounts, List.forall₂_map_right_iff]
  apply forall₂_flatMap
  rintro ⟨token, locations⟩ hd
  have hlength : 1 < locations.length := by simpa using (List.mem_filter.1 hd).2
  cases locations with
  | nil => simp at hlength
  | cons first rest => exact ⟨_, rfl, first, rest, rfl, rfl⟩

/-- Every file with several summaries has one issue, which gives their number. -/
lemma allMultiple_report (rs : List Record) :
    List.Forall₂ ReportsMultiple (allMultiple rs) (multipleCounts rs) := by
  unfold allMultiple multipleCounts Grouped.counts
  induction (summaries rs).groups with
  | nil => exact .nil
  | cons g gs ih =>
    obtain ⟨file, lines⟩ := g
    match lines with
    | [] => simpa [multipleIssues] using ih
    | [l] => simpa [multipleIssues] using ih
    | l :: second :: rest =>
      have hhead : ReportsMultiple _ (file, (l :: second :: rest).length) :=
        ⟨l :: second :: rest, rfl, rfl⟩
      simpa [multipleIssues] using List.Forall₂.cons hhead ih

end Reports

section Permute

variable {rs rs' : List Record} (h : rs.Perm rs')
include h

lemma declarations_perm :
    (Canonical.declarations rs).Perm (Canonical.declarations rs') :=
  h.flatMap_right _

lemma duplicateCounts_perm : (duplicateCounts rs).Perm (duplicateCounts rs') :=
  (Grouped.counts_perm (declarations_perm h)).filter _

lemma multipleCounts_perm : (multipleCounts rs).Perm (multipleCounts rs') :=
  (Grouped.counts_perm ((h.filter _).map _)).filter _

/-- Neither what is declared nor how many relations point at a canonical depends on the order. -/
lemma danglingIssues_perm :
    (danglingIssues (.build rs)).Perm (danglingIssues (.build rs')) := by
  have hedges : (Canonical.Graph.build rs).edges.Perm (Canonical.Graph.build rs').edges :=
    h.flatMap_right _
  have hcontains : ∀ token, (Canonical.Graph.build rs).index.contains token =
      (Canonical.Graph.build rs').index.contains token := by
    intro token
    rw [Bool.eq_iff_iff]
    exact (Canonical.Index.contains_build rs token).trans
      (((declarations_perm h).map Prod.fst).mem_iff.trans
        (Canonical.Index.contains_build rs' token).symm)
  have hissue : danglingIssue (.build rs) = danglingIssue (.build rs') := by
    funext e
    have hlength := (hedges.filter fun e' =>
      normalizeCanonical e'.token = normalizeCanonical e.token).length_eq
    simp only [danglingIssue, Canonical.Graph.referrers, hlength]
  simp only [danglingIssues, Canonical.Graph.dangling, hcontains, hissue]
  exact (hedges.filter _).map _

lemma allMisplaced_perm (o : Options) : (allMisplaced o rs).Perm (allMisplaced o rs') := by
  -- Every summary is judged on its own, so that the groups can be taken apart.
  have hpairs : ∀ rs, allMisplaced o rs =
      ((Grouped.pairsOf (summaries rs).groups).filter fun p => maxLine o p.1 < p.2).map
        fun p => positionIssue p.1 (maxLine o p.1) p.2 := by
    intro rs
    simp only [allMisplaced, Grouped.pairsOf, List.filter_flatMap, List.map_flatMap,
      List.filter_map, List.map_map]
    rfl
  have hsummaries : (Grouped.pairsOf (summaries rs).groups).Perm
      (Grouped.pairsOf (summaries rs').groups) :=
    (Grouped.pairsOf_ofList_perm _).trans
      (((h.filter _).map _).trans (Grouped.pairsOf_ofList_perm _).symm)
  rw [hpairs, hpairs]
  exact (hsummaries.filter _).map _

lemma flaggedIssues_perm (o : Options) : (flaggedIssues o rs).Perm (flaggedIssues o rs') :=
  (h.filter _).map _

theorem sameVerdict_of_perm (o : Options) :
    SameVerdict rs rs' (ruleIssues o rs) (ruleIssues o rs') := by
  have hduplicate := duplicateCounts_perm h
  have hmultiple := multipleCounts_perm h
  have hrules : ∀ rule, (ofRule rule (ruleIssues o rs)).length =
      (ofRule rule (ruleIssues o rs')).length := by
    intro rule
    rw [ofRule_ruleIssues, ofRule_ruleIssues]
    cases rule with
    | fileReadError | parseError => rfl
    | duplicateCanonical =>
      exact (duplicateIssues_report rs).length_eq.trans
        (hduplicate.length_eq.trans (duplicateIssues_report rs').length_eq.symm)
    | danglingRelation => exact (danglingIssues_perm h).length_eq
    | multipleTldr =>
      exact (allMultiple_report rs).length_eq.trans
        (hmultiple.length_eq.trans (allMultiple_report rs').length_eq.symm)
    | tldrPosition => exact (allMisplaced_perm h o).length_eq
    | flaggedSignal => exact (flaggedIssues_perm h o).length_eq
  have hsummary : Summary.ofIssues (ruleIssues o rs) = Summary.ofIssues (ruleIssues o rs') :=
    ofIssues_eq_of_rules (ruleIssues_severity o rs) (ruleIssues_severity o rs') hrules
  refine ⟨hrules, hsummary, fun mode => by rw [hsummary], ?_, ?_, ?_⟩
  · intro rule hm
    rw [ofRule_ruleIssues, ofRule_ruleIssues]
    simp only [List.mem_cons, List.not_mem_nil, or_false] at hm
    rcases hm with rfl | rfl | rfl
    · exact danglingIssues_perm h
    · exact allMisplaced_perm h o
    · exact flaggedIssues_perm h o
  · rw [ofRule_ruleIssues, ofRule_ruleIssues]
    exact ⟨duplicateIssues_report rs, duplicateIssues_report rs', hduplicate⟩
  · rw [ofRule_ruleIssues, ofRule_ruleIssues]
    exact ⟨allMultiple_report rs, allMultiple_report rs', hmultiple⟩

end Permute

/-- A check of the same records in another order stops or does not stop as before, and otherwise
gives the same verdict. -/
theorem validate_perm {rs rs' : List Record} (h : rs.Perm rs') (o : Options) :
    ((∃ issues, validate o rs = .ok issues) ↔ ∃ issues', validate o rs' = .ok issues') ∧
      ∀ issues issues', validate o rs = .ok issues → validate o rs' = .ok issues' →
        SameVerdict rs rs' issues issues' := by
  have hspans : (∀ r ∈ rs, r.hasValidSpan = true) ↔ ∀ r ∈ rs', r.hasValidSpan = true :=
    forall_congr' fun r => imp_congr_left h.mem_iff
  simp only [validate_eq_ok_iff]
  refine ⟨?_, ?_⟩
  · simpa using hspans
  · rintro issues issues' ⟨-, rfl⟩ ⟨-, rfl⟩
    exact sameVerdict_of_perm h o

/-- A reference stands before the two declarations that it could mean, one on each summary of a
file, and the second summary points at a canonical that nobody declares. -/
def crossing : List Record :=
  [{ Record.new "a.ts" 4 "todo" with
      signals := ⟨true, false⟩, relations := [⟨.see, "#Auth"⟩, ⟨.docs, "#gone"⟩] },
    { Record.new "b.ts" 2 "tldr" with canonicals := ["#auth"] },
    { Record.new "b.ts" 30 "TLDR" with canonicals := ["AUTH"], relations := [⟨.see, "Gone"⟩] }]

theorem validate_perm_crossing :
    crossing.Perm crossing.reverse ∧
      validate .standard crossing = .ok (ruleIssues .standard crossing) ∧
      validate .standard crossing.reverse = .ok (ruleIssues .standard crossing.reverse) ∧
      ruleIssues .standard crossing ≠ ruleIssues .standard crossing.reverse ∧
      SameVerdict crossing crossing.reverse (ruleIssues .standard crossing)
        (ruleIssues .standard crossing.reverse) ∧
      duplicateCounts crossing = [("#auth", 2)] ∧ multipleCounts crossing = [("b.ts", 2)] ∧
      Summary.ofIssues (ruleIssues .standard crossing) = ⟨6, 4, 2⟩ := by
  have hperm : crossing.Perm crossing.reverse := (List.reverse_perm crossing).symm
  have hok := (validate_eq_ok_iff .standard crossing _).2 ⟨by decide +kernel, rfl⟩
  have hok' := (validate_eq_ok_iff .standard crossing.reverse _).2 ⟨by decide +kernel, rfl⟩
  exact ⟨hperm, hok, hok', by decide +kernel, (validate_perm hperm .standard).2 _ _ hok hok',
    by decide +kernel, by decide +kernel, by decide +kernel⟩

end Check
end Waymark
