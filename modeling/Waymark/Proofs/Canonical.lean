import Waymark.Canonical.Graph
import Waymark.Proofs.Grouped
import Waymark.Proofs.Text.Blank
import Waymark.Proofs.Text.Lowercase

/-! Canonicals in normal form. A normal form is its own normal form, so that an index can be asked
with the keys that it holds; and declaring a new canonical answers the relations that point at it
and no others. -/
namespace Waymark

/-- The name in a token: blank space around it and `#` in front of it do not count. -/
def canonicalName (token : String) : List Char :=
  (Text.trim token.toList).dropWhile (· == '#')

lemma normalizeCanonical_eq (token : String) :
    normalizeCanonical token = String.ofList ('#' :: Text.lower (canonicalName token)) := rfl

lemma canonicalName_head (token : String) : ∀ c ∈ (canonicalName token).head?, c ≠ '#' := by
  intro c hc
  have hhead := List.head?_dropWhile_not (· == '#') (Text.trim token.toList)
  rw [← canonicalName, Option.mem_def.1 hc] at hhead
  simpa using hhead

lemma canonicalName_getLast (token : String) :
    ∀ c ∈ (canonicalName token).getLast?, Text.isBlank c = false :=
  Text.getLast?_dropWhile_trim _ _

/-- A name is read back from its written form. -/
lemma canonicalName_ofList {name : List Char} (hhead : ∀ c ∈ name.head?, c ≠ '#')
    (hlast : ∀ c ∈ name.getLast?, Text.isBlank c = false) :
    canonicalName (String.ofList ('#' :: name)) = name := by
  have htrim : Text.trim ('#' :: name) = '#' :: name := by
    rw [Text.trim, Text.trimStart_cons (by decide), Text.trimEnd_cons (by decide),
      Text.trimEnd_eq_self_iff.2 hlast]
  rw [canonicalName, String.toList_ofList, htrim]
  cases name with
  | nil => rfl
  | cons c cs =>
    have hc : c ≠ '#' := hhead c rfl
    simp [hc]

/-- Lower-casing changes neither end of the name in a way that would count. -/
theorem normalizeCanonical_idem (token : String) :
    normalizeCanonical (normalizeCanonical token) = normalizeCanonical token := by
  have hname : canonicalName (normalizeCanonical token) = Text.lower (canonicalName token) := by
    apply canonicalName_ofList
    · intro d hd
      obtain ⟨c, hc, hlowers⟩ := Text.lowers_head hd
      rcases hlowers.kept with rfl | ⟨-, hne⟩
      · exact canonicalName_head token d hc
      · exact hne
    · intro d hd
      obtain ⟨c, hc, hlowers⟩ := Text.lowers_getLast hd
      rcases hlowers.kept with rfl | ⟨hblank, -⟩
      · exact canonicalName_getLast token d hc
      · exact hblank
  rw [normalizeCanonical_eq, hname, Text.lower_lower]
  rfl

namespace Canonical

lemma normalizeCanonical_of_mem_declarations {rs : List Record} {d : String × Location}
    (h : d ∈ declarations rs) : normalizeCanonical d.1 = d.1 := by
  obtain ⟨r, -, hd⟩ := List.mem_flatMap.1 h
  obtain ⟨c, -, rfl⟩ := List.mem_map.1 hd
  exact normalizeCanonical_idem c

namespace Index

lemma contains_build (rs : List Record) (token : String) :
    (build rs).contains token = true ↔
      normalizeCanonical token ∈ (declarations rs).map Prod.fst :=
  Grouped.contains_ofList _ _

lemma occurrences_build (rs : List Record) (token : String) :
    (build rs).occurrences token =
      Grouped.valuesOf (declarations rs) (normalizeCanonical token) :=
  Grouped.get_ofList _ _

/-- The index finds a duplicate under the key by which it lists it. -/
lemma lookup_of_mem_duplicates {rs : List Record} {token : String} {locations : List Location}
    (h : (token, locations) ∈ (build rs).duplicates) :
    (build rs).contains token = true ∧ (build rs).occurrences token = locations := by
  have hgathers : Grouped.Gathers (build rs).entries.groups (declarations rs) :=
    Grouped.gathers_ofList _
  have hgroup := List.mem_of_mem_filter h
  have hkey : token ∈ (declarations rs).map Prod.fst :=
    (hgathers.mem_keys_iff token).1 (List.mem_map_of_mem hgroup)
  have hnormal : normalizeCanonical token = token := by
    obtain ⟨d, hd, rfl⟩ := List.mem_map.1 hkey
    exact normalizeCanonical_of_mem_declarations hd
  rw [contains_build, occurrences_build, hnormal]
  exact ⟨hkey, ((hgathers.mem_iff token locations).1 hgroup).1.symm⟩

end Index

section Declare

variable {rs : List Record} {r : Record} {token : String}
  (hdeclares : r.canonicals = [normalizeCanonical token])
include hdeclares

lemma declarations_concat :
    declarations (rs ++ [r]) = declarations rs ++ [(normalizeCanonical token, r.location)] := by
  simp [declarations, hdeclares, normalizeCanonical_idem]

/-- The index knows the new canonical besides those it knew. -/
lemma contains_concat (other : String) :
    (Index.build (rs ++ [r])).contains other =
      ((Index.build rs).contains other ||
        decide (normalizeCanonical other = normalizeCanonical token)) := by
  rw [Bool.eq_iff_iff, Bool.or_eq_true, decide_eq_true_eq, Index.contains_build,
    Index.contains_build, declarations_concat hdeclares]
  simp

/-- A canonical that nobody declared is no duplicate once it is declared. -/
lemma duplicates_concat (hnew : (Index.build rs).contains token = false) :
    (Index.build (rs ++ [r])).duplicates = (Index.build rs).duplicates := by
  have hkey : normalizeCanonical token ∉ (declarations rs).map Prod.fst := by
    rw [← Index.contains_build, hnew]
    simp
  simp only [Index.duplicates, Index.build, declarations_concat hdeclares,
    Grouped.groups_ofList_concat hkey, List.filter_append]
  simp

/-- Of the relations without a target, those that point elsewhere are left. -/
lemma dangling_concat (hrelations : r.relations = []) :
    (Graph.build (rs ++ [r])).dangling = (Graph.build rs).dangling.filter fun e =>
      normalizeCanonical e.token ≠ normalizeCanonical token := by
  simp only [Graph.dangling, Graph.build, List.flatMap_append, List.flatMap_singleton, hrelations,
    List.map_nil, List.append_nil, contains_concat hdeclares, List.filter_filter]
  refine List.filter_congr fun e _ => ?_
  cases e.checked <;> simp [Bool.and_comm]

end Declare
end Canonical
end Waymark
