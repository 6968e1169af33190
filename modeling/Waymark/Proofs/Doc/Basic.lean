import Mathlib.Data.List.TakeDrop
import Waymark.Doc.Basic
import Waymark.Proofs.Text.Lines

/-! Decorated lines: the content behind a marker is read back from the lines of the comment. And
comments that stand some lines further down. -/
namespace Waymark
namespace Doc

open Text Format

lemma span_of_pos {α : Type} {p : α → Bool} {xs : List α} (h : ∀ x ∈ xs, p x = true) :
    xs.span p = (xs, []) := by
  rw [List.span_eq_takeWhile_dropWhile, List.takeWhile_eq_self_iff.2 h,
    List.dropWhile_eq_nil_iff.2 h]

lemma span_of_neg {α : Type} {p : α → Bool} {xs : List α} (h : ∀ x ∈ xs, p x = false) :
    xs.span p = ([], xs) := by
  cases xs with
  | nil => rfl
  | cons x xs => simp [List.span_eq_takeWhile_dropWhile, h x List.mem_cons_self]

lemma dropSpace_isSuffix (l : List Char) : dropSpace l <:+ l := by
  unfold dropSpace
  split
  · exact List.suffix_cons _ _
  · exact List.suffix_rfl

namespace Format

/-- What can stand in front of every line of a comment. -/
structure IsMarker (m : List Char) : Prop where
  ne_nil : m ≠ []
  newline : '\n' ∉ m
  start : trimStart m = m
  last : trimEnd m = m

variable {m : List Char}

lemma decorate_of_ne_nil {l : List Char} (h : l ≠ []) : decorate m l = m ++ ' ' :: l := by
  simp [decorate, h]

lemma prefix_decorate (m l : List Char) : m <+: decorate m l := by
  by_cases h : l = []
  · simp [decorate, h]
  · simp [decorate_of_ne_nil h]

/-- Taking the marker and the space away is the inverse of decorating. -/
lemma dropSpace_decorate (m l : List Char) : dropSpace ((decorate m l).drop m.length) = l := by
  by_cases h : l = []
  · simp [decorate, h, dropSpace]
  · simp [decorate_of_ne_nil h, dropSpace]

lemma IsMarker.trimStart_decorate (hm : IsMarker m) (l : List Char) :
    trimStart (decorate m l) = decorate m l := by
  rw [trimStart_eq_self_iff]
  intro c hc
  obtain ⟨t, ht⟩ := prefix_decorate m l
  rw [← ht, List.head?_append_of_ne_nil _ hm.ne_nil] at hc
  exact trimStart_eq_self_iff.1 hm.start c hc

/-- A decorated line is one line again. -/
lemma IsMarker.decorate_plain (hm : IsMarker m) {l : List Char} (hl : '\n' ∉ l ∧ trimEnd l = l) :
    '\n' ∉ decorate m l ∧ (decorate m l).getLast? ≠ some '\r' := by
  by_cases h : l = []
  · simpa [decorate, h, hm.newline] using getLast?_ne_return hm.last
  · rw [decorate_of_ne_nil h]
    refine ⟨by simp [hm.newline, hl.1], ?_⟩
    rw [List.getLast?_append_cons, List.getLast?_cons_of_ne_nil h]
    exact getLast?_ne_return hl.2

/-- The text of a comment whose lines all carry the marker. -/
def marked (m c : List Char) : List Char :=
  joinWith '\n' ((lines c).map (decorate m))

lemma IsMarker.getLast?_map_decorate (hm : IsMarker m) (ls : List (List Char)) :
    (ls.map (decorate m)).getLast? ≠ some [] := by
  intro h
  obtain ⟨l, -, hl⟩ := List.mem_map.1 (List.mem_of_getLast? h)
  exact hm.ne_nil (List.prefix_nil.1 (hl ▸ prefix_decorate m l))

variable {c : List Char}

lemma IsMarker.lines_marked (hm : IsMarker m) (hc : IsContent c) :
    lines (marked m c) = (lines c).map (decorate m) := by
  refine lines_joinWith ?_ (hm.getLast?_map_decorate _)
  intro l hl
  obtain ⟨x, hx, rfl⟩ := List.mem_map.1 hl
  exact hm.decorate_plain (hc.normal.line x hx)

lemma IsMarker.joinRaw_marked (hm : IsMarker m) (hc : IsContent c) :
    joinRaw (rawLines (marked m c)) = marked m c := by
  refine joinRaw_rawLines (joinWith_getLast? ?_ (hm.getLast?_map_decorate _))
  intro l hl
  obtain ⟨x, hx, rfl⟩ := List.mem_map.1 hl
  exact (hm.decorate_plain (hc.normal.line x hx)).1

/-- Every line of the comment is a decorated line of the content. -/
lemma IsMarker.body_of_mem (hm : IsMarker m) (hc : IsContent c) {l : Line}
    (hl : l ∈ rawLines (marked m c)) : ∃ x ∈ lines c, l.body = decorate m x := by
  have hb : l.body ∈ lines (marked m c) := List.mem_map_of_mem hl
  rw [hm.lines_marked hc] at hb
  obtain ⟨x, hx, he⟩ := List.mem_map.1 hb
  exact ⟨x, hx, he.symm⟩

lemma IsMarker.rawLines_marked_ne_nil (hm : IsMarker m) (hc : IsContent c) (hne : c ≠ []) :
    rawLines (marked m c) ≠ [] := by
  intro hn
  have hl := hm.lines_marked hc
  rw [lines, hn] at hl
  exact hc.lines_ne_nil hne (List.map_eq_nil_iff.1 hl.symm)

/-- Undecorating the lines of the comment gives the content back. -/
lemma IsMarker.normalize_undecorate (hm : IsMarker m) (hc : IsContent c) :
    normalize ((lines (marked m c)).map fun l => dropSpace ((trimStart l).drop m.length)) = c := by
  have hu : ((lines c).map (decorate m)).map (fun l => dropSpace ((trimStart l).drop m.length)) =
      lines c := by
    rw [List.map_map, List.map_congr_left, List.map_id]
    intro l _
    simp only [Function.comp_apply, hm.trimStart_decorate, dropSpace_decorate, id_eq]
  rw [hm.lines_marked hc, hu, hc.normalize_lines]

end Format

/-- The same comment, some lines further down. -/
def Comment.shift (n : Nat) (d : Comment) : Comment :=
  { d with startLine := d.startLine + n, endLine := d.endLine + n }

end Doc
end Waymark
