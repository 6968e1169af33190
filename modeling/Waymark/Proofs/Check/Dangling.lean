import Mathlib.Data.List.Forall2
import Waymark.Proofs.Canonical
import Waymark.Proofs.Check.Verdict
import Waymark.Proofs.Text.Search

/-! Relations without a target. The issues of a list of records are, one by one and in order, those
of the relations that must point at a canonical and point at none. -/
namespace Waymark

namespace Relation

/-- The token is an identifier in double brackets. -/
def NamesIdentifier (token : String) : Prop :=
  ∃ id, id ≠ [] ∧ Text.trim token.toList = "[[".toList ++ id ++ "]]".toList

/-- The token is a scheme that starts with a letter, then `://` and something behind it. -/
def NamesUrl (token : String) : Prop :=
  ∃ letter scheme rest, letter.isAlpha = true ∧
    (∀ c ∈ scheme, c.isAlphanum = true ∨ c ∈ ['+', '-', '.']) ∧ rest ≠ [] ∧
    Text.trim token.toList = letter :: scheme ++ "://".toList ++ rest

lemma isIdentifier_iff (rel : Relation) :
    rel.isIdentifier = true ↔ NamesIdentifier rel.token := by
  rw [NamesIdentifier, ← Text.exists_between_iff]
  simp only [isIdentifier, Bool.and_eq_true, decide_eq_true_eq, List.isPrefixOf_iff_prefix,
    List.isSuffixOf_iff_suffix, and_assoc]
  rfl

lemma isSchemeChar_iff (c : Char) :
    isSchemeChar c = true ↔ c.isAlphanum = true ∨ c ∈ ['+', '-', '.'] := by
  simp [isSchemeChar, or_assoc]

lemma colon_notMem_scheme {letter : Char} {scheme : List Char} (hletter : letter.isAlpha = true)
    (hscheme : ∀ c ∈ scheme, isSchemeChar c = true) : ':' ∉ letter :: scheme := by
  intro hmem
  rcases List.mem_cons.1 hmem with rfl | hmem
  · cases hletter
  · cases hscheme _ hmem

/-- No scheme has a colon in it, so the first `://` is the one behind the scheme. -/
lemma isUrl_iff (rel : Relation) : rel.isUrl = true ↔ NamesUrl rel.token := by
  simp only [NamesUrl, ← isSchemeChar_iff]
  constructor
  · intro h
    unfold isUrl at h
    split at h
    next letter scheme first rest hcut =>
      rw [Bool.and_eq_true, List.all_eq_true] at h
      exact ⟨letter, scheme, first :: rest, h.1, h.2, List.cons_ne_nil _ _,
        Text.cut_eq_some hcut⟩
    next => cases h
  · rintro ⟨letter, scheme, rest, hletter, hscheme, hne, htoken⟩
    have hcut : Text.cut "://".toList (Text.trim rel.token.toList) =
        some (letter :: scheme, rest) := by
      rw [htoken, List.append_assoc]
      exact Text.cut_append_of_notMem (colon_notMem_scheme hletter hscheme) _ _
    obtain ⟨first, rest, rfl⟩ := List.exists_cons_of_ne_nil hne
    unfold isUrl
    rw [hcut]
    simpa [hletter] using hscheme

end Relation

namespace Check

/-- The relation needs a canonical, and no record declares the one it points at. -/
structure Dangles (rs : List Record) (rel : Relation) : Prop where
  kind : rel.kind ∈ [RelationKind.derived, .replaces, .see, .docs]
  notIdentifier : ¬Relation.NamesIdentifier rel.token
  notUrl : ¬Relation.NamesUrl rel.token
  undeclared : ∀ q ∈ rs, ∀ c ∈ q.canonicals, normalizeCanonical c ≠ normalizeCanonical rel.token

lemma isChecked_iff (rel : Relation) :
    rel.isChecked = true ↔ rel.kind ∈ [RelationKind.derived, .replaces, .see, .docs] ∧
      ¬Relation.NamesIdentifier rel.token ∧ ¬Relation.NamesUrl rel.token := by
  rw [Relation.isChecked, Bool.and_eq_true, Bool.and_eq_true, Bool.not_eq_true',
    Bool.not_eq_true', ← Bool.not_eq_true, ← Bool.not_eq_true, requiresCanonical_iff,
    Relation.isIdentifier_iff, Relation.isUrl_iff, and_assoc]

lemma not_contains_iff (rs : List Record) (token : String) :
    (Canonical.Index.build rs).contains token = false ↔
      ∀ q ∈ rs, ∀ c ∈ q.canonicals, normalizeCanonical c ≠ normalizeCanonical token := by
  rw [← Bool.not_eq_true, index_contains_iff]
  simp [declaredForms]

lemma dangles_iff (rs : List Record) (rel : Relation) :
    (rel.isChecked && !(Canonical.Index.build rs).contains rel.token) = true ↔ Dangles rs rel := by
  rw [Bool.and_eq_true, Bool.not_eq_true', isChecked_iff, not_contains_iff]
  constructor
  · rintro ⟨⟨hkind, hid, hurl⟩, hundeclared⟩
    exact ⟨hkind, hid, hurl, hundeclared⟩
  · rintro ⟨hkind, hid, hurl, hundeclared⟩
    exact ⟨⟨hkind, hid, hurl⟩, hundeclared⟩

instance (rs : List Record) : DecidablePred (Dangles rs) := fun rel =>
  decidable_of_iff _ (dangles_iff rs rel)

/-- The relations without a target, each with its record: record by record, and within a record as
they stand there. -/
def danglingRelations (rs : List Record) : List (Record × Relation) :=
  rs.flatMap fun r => (r.relations.filter fun rel => Dangles rs rel).map (Prod.mk r)

/-- How many relations, of whatever kind, point at the canonical of a token. -/
def pointingAt (rs : List Record) (token : String) : Nat :=
  (rs.flatMap Record.relations).countP fun rel =>
    normalizeCanonical rel.token = normalizeCanonical token

/-- The issue stands at the record that has the relation, and says how many other relations point
at the same canonical. -/
structure ReportsDangling (rs : List Record) (i : Issue) (p : Record × Relation) : Prop where
  rule : i.rule = .danglingRelation
  severity : i.severity = .error
  file : i.file = p.1.file
  line : i.line = some p.1.startLine
  message : ∃ others, others + 1 = pointingAt rs p.2.token ∧
    i.message = p.2.kind.name ++ ":" ++ String.ofList (Text.trim p.2.token.toList) ++
      " points at undeclared canonical" ++
      if others = 0 then ""
      else " (referenced from " ++ toString others ++ " other place" ++
        (if others = 1 then "" else "s") ++ ")"

lemma othersText_eq (n : Nat) :
    othersText n = if n = 0 then ""
      else " (referenced from " ++ toString n ++ " other place" ++
        (if n = 1 then "" else "s") ++ ")" := by
  match n with
  | 0 => rfl
  | 1 => rfl
  | n + 2 => simp [othersText, String.append_assoc]

lemma length_referrers (rs : List Record) (token : String) :
    ((Canonical.Graph.build rs).referrers token).length = pointingAt rs token := by
  rw [pointingAt, Canonical.Graph.referrers, ← List.countP_eq_length_filter,
    Canonical.Graph.build, List.countP_flatMap, List.countP_flatMap]
  refine congrArg List.sum (List.map_congr_left fun r _ => ?_)
  rw [Function.comp_apply, Function.comp_apply, List.countP_map]
  refine List.countP_congr fun rel _ => ?_
  rw [Function.comp_apply, decide_eq_true_eq, decide_eq_true_eq, Canonical.Edge.ofRelation]

lemma dangling_build (rs : List Record) :
    (Canonical.Graph.build rs).dangling =
      (danglingRelations rs).map fun p => .ofRelation p.1.location p.2 := by
  simp only [Canonical.Graph.dangling, Canonical.Graph.build, danglingRelations,
    List.filter_flatMap, List.filter_map, List.map_flatMap, List.map_map]
  refine List.flatMap_congr fun r _ => congrArg _ (List.filter_congr fun rel _ => ?_)
  rw [Bool.eq_iff_iff, decide_eq_true_iff, ← dangles_iff]
  rfl

/-- A relation without a target is itself among those that point there. -/
lemma pointingAt_pos {rs : List Record} {p : Record × Relation} (h : p ∈ danglingRelations rs) :
    0 < pointingAt rs p.2.token := by
  obtain ⟨r, hr, hp⟩ := List.mem_flatMap.1 h
  obtain ⟨rel, hrel, rfl⟩ := List.mem_map.1 hp
  rw [pointingAt, List.countP_pos_iff]
  exact ⟨rel, List.mem_flatMap.2 ⟨r, hr, List.mem_of_mem_filter hrel⟩, by simp⟩

/-- One issue for every relation without a target, in the order of the relations, and no other. -/
theorem danglingIssues_exact (rs : List Record) :
    List.Forall₂ (ReportsDangling rs) (danglingIssues (.build rs)) (danglingRelations rs) := by
  rw [danglingIssues, dangling_build, List.map_map, List.forall₂_map_left_iff, List.forall₂_same]
  intro p hp
  refine ⟨rfl, rfl, rfl, rfl, pointingAt rs p.2.token - 1,
    Nat.sub_add_cancel (pointingAt_pos hp), ?_⟩
  rw [← othersText_eq, ← length_referrers]
  rfl

/-- A relation of any kind counts as another place, but only some kinds are checked. -/
example :
    (danglingIssues (.build
      [{ Record.new "a.py" 2 "todo" with relations := [⟨.see, "#gone"⟩, ⟨.see, "[[f00]]"⟩] },
        { Record.new "b.py" 8 "note" with relations := [⟨.docs, " #Gone"⟩, ⟨.needs, "gone"⟩] },
        { Record.new "b.py" 9 "note" with relations := [⟨.docs, "a+b://c"⟩, ⟨.derived, "1a://c"⟩] }]
      )).map Issue.message =
      ["see:#gone points at undeclared canonical (referenced from 2 other places)",
        "docs:#Gone points at undeclared canonical (referenced from 2 other places)",
        "from:1a://c points at undeclared canonical"] := by
  decide +kernel

end Check
end Waymark
