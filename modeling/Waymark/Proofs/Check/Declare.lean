import Waymark.Proofs.Canonical
import Waymark.Proofs.Check.Verdict

/-! What the suggestion on a relation without a target is worth: a waymark that declares the
canonical it names settles the relations that point there, and no issue comes or goes besides. -/
namespace Waymark
namespace Check

/-- A waymark that declares one canonical and does nothing else that a check looks at. -/
structure OnlyDeclares (r : Record) (canonical : String) : Prop where
  span : r.hasValidSpan = true
  notSummary : r.isSummary = false
  unflagged : r.signals.flagged = false
  relations : r.relations = []
  canonicals : r.canonicals = [canonical]

section Concat

variable {rs : List Record} {r : Record}

lemma danglingIssue_concat (hrelations : r.relations = []) :
    danglingIssue (.build (rs ++ [r])) = danglingIssue (.build rs) := by
  funext e
  simp [danglingIssue, Canonical.Graph.referrers, Canonical.Graph.build, hrelations]

lemma tldrIssues_concat (o : Options) (h : r.isSummary = false) :
    tldrIssues o (rs ++ [r]) = tldrIssues o rs := by
  simp [tldrIssues, summaries, h]

lemma flaggedIssues_concat (o : Options) (h : r.signals.flagged = false) :
    flaggedIssues o (rs ++ [r]) = flaggedIssues o rs := by
  simp [flaggedIssues, h]

lemma duplicateIssues_concat {token : String} (hr : OnlyDeclares r (normalizeCanonical token))
    (hnew : (Canonical.Index.build rs).contains token = false) :
    duplicateIssues (.build (rs ++ [r])) = duplicateIssues (.build rs) := by
  rw [duplicateIssues, Canonical.duplicates_concat hr.canonicals hnew]
  rfl

lemma danglingIssues_concat {token : String} (hr : OnlyDeclares r (normalizeCanonical token)) :
    danglingIssues (.build (rs ++ [r])) =
      ((Canonical.Graph.build rs).dangling.filter fun e =>
        normalizeCanonical e.token ≠ normalizeCanonical token).map
          (danglingIssue (.build rs)) := by
  rw [danglingIssues, Canonical.dangling_concat hr.canonicals hr.relations,
    danglingIssue_concat hr.relations]

end Concat

/-- To follow the suggestion on a relation without a target takes away the issues of exactly the
relations with that canonical, and leaves all others as they are and in their order. The canonicals
that are listed as duplicates are found in the index as they are listed. -/
theorem validate_declare (o : Options) (rs : List Record) :
    ((∀ q ∈ rs, q.hasValidSpan = true) → ∀ e ∈ (Canonical.Graph.build rs).dangling, ∀ r : Record,
      OnlyDeclares r (normalizeCanonical e.token) →
        (danglingIssue (.build rs) e).suggestion = some ("declare " ++ normalizeCanonical e.token ++
          " on the target waymark or fix the reference") ∧
        validate o rs = .ok (duplicateIssues (.build rs) ++
          (Canonical.Graph.build rs).dangling.map (danglingIssue (.build rs)) ++
          tldrIssues o rs ++ flaggedIssues o rs) ∧
        validate o (rs ++ [r]) = .ok (duplicateIssues (.build rs) ++
          ((Canonical.Graph.build rs).dangling.filter fun e' =>
            normalizeCanonical e'.token ≠ normalizeCanonical e.token).map
              (danglingIssue (.build rs)) ++
          tldrIssues o rs ++ flaggedIssues o rs)) ∧
    ∀ token locations, (token, locations) ∈ (Canonical.Index.build rs).duplicates →
      (Canonical.Index.build rs).contains token = true ∧
        (Canonical.Index.build rs).occurrences token = locations := by
  refine ⟨?_, fun token locations => Canonical.Index.lookup_of_mem_duplicates⟩
  intro hspans e he r hr
  have hnew : (Canonical.Index.build rs).contains e.token = false := by
    have hchecked := (List.mem_filter.1 he).2
    simp only [Bool.and_eq_true, Bool.not_eq_true'] at hchecked
    exact hchecked.2
  refine ⟨rfl, (validate_eq_ok_iff o rs _).2 ⟨hspans, rfl⟩, (validate_eq_ok_iff o _ _).2 ⟨?_, ?_⟩⟩
  · intro q hq
    rcases List.mem_append.1 hq with hq | hq
    · exact hspans q hq
    · rw [List.mem_singleton.1 hq]
      exact hr.span
  · rw [ruleIssues, duplicateIssues_concat hr hnew, danglingIssues_concat hr,
      tldrIssues_concat o hr.notSummary, flaggedIssues_concat o hr.unflagged]

/-- Two relations name one undeclared canonical in different spellings, a third one names another;
the summary is flagged and declares a canonical twice. -/
def pointingAway : List Record :=
  [{ Record.new "a.ts" 3 "todo" with relations := [⟨.see, "#ΟΔΟΣ"⟩, ⟨.docs, "gone"⟩] },
    { Record.new "b.ts" 1 "tldr" with
      signals := ⟨true, false⟩, canonicals := ["#Auth", " AUTH"],
      relations := [⟨.derived, " Οδος"⟩] }]

def declaringRoad : Record :=
  { Record.new "c.ts" 9 "note" with canonicals := ["#οδος"] }

theorem validate_declare_road :
    (∀ q ∈ pointingAway, q.hasValidSpan = true) ∧
      (Canonical.Graph.build pointingAway).dangling.map Canonical.Edge.token =
        ["#ΟΔΟΣ", "gone", " Οδος"] ∧
      OnlyDeclares declaringRoad (normalizeCanonical "#ΟΔΟΣ") ∧
      validate .standard (pointingAway ++ [declaringRoad]) = .ok
        [duplicateIssue "#auth" ⟨"b.ts", 1⟩ [⟨"b.ts", 1⟩, ⟨"b.ts", 1⟩],
          danglingIssue (.build pointingAway) ⟨⟨"a.ts", 3⟩, .docs, "gone", true⟩,
          flaggedIssue .standard (pointingAway.get ⟨1, by decide⟩)] ∧
      ("#auth", [⟨"b.ts", 1⟩, ⟨"b.ts", 1⟩]) ∈ (Canonical.Index.build pointingAway).duplicates ∧
      (Canonical.Index.build pointingAway).occurrences "#auth" = [⟨"b.ts", 1⟩, ⟨"b.ts", 1⟩] := by
  obtain ⟨hdeclare, hlookup⟩ := validate_declare .standard pointingAway
  have hspans : ∀ q ∈ pointingAway, q.hasValidSpan = true := by decide +kernel
  have hedge : ⟨⟨"a.ts", 3⟩, .see, "#ΟΔΟΣ", true⟩ ∈
      (Canonical.Graph.build pointingAway).dangling := by decide +kernel
  have honly : OnlyDeclares declaringRoad (normalizeCanonical "#ΟΔΟΣ") :=
    ⟨by decide, by decide, rfl, rfl, by decide +kernel⟩
  have hduplicate : ("#auth", [⟨"b.ts", 1⟩, ⟨"b.ts", 1⟩]) ∈
      (Canonical.Index.build pointingAway).duplicates := by decide +kernel
  exact ⟨hspans, by decide +kernel, honly,
    (hdeclare hspans _ hedge _ honly).2.2.trans (by decide +kernel), hduplicate,
    (hlookup _ _ hduplicate).2⟩

end Check
end Waymark
