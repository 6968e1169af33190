import Mathlib.Order.Bounds.Basic
import Waymark.Proofs.Doc.Place
import Waymark.Proofs.Text.Span

/-! The opening of a block comment. The search goes on behind an opening that it refuses. Two
openings never overlap, so none is passed over on the way: the search finds the first opening that
begins a comment, and the comment ends with the first closing behind it. -/
namespace Waymark
namespace Text

/-- Whether a pattern stands in a text at a byte offset. -/
def OccursAt (pat text : List Char) (offset : Nat) : Prop :=
  ∃ before after, text = before ++ pat ++ after ∧ size before = offset

/-- The occurrences behind a part of the text are those in the rest of it. -/
lemma occursAt_append_iff (pat a tail : List Char) (offset : Nat) :
    (size a ≤ offset ∧ OccursAt pat (a ++ tail) offset) ↔
      ∃ x y, tail = x ++ pat ++ y ∧ size a + size x = offset := by
  constructor
  · rintro ⟨hle, before, after, htext, rfl⟩
    have ha : a <+: a ++ tail := List.prefix_append a tail
    have hbefore : before <+: a ++ tail := ⟨pat ++ after, by rw [htext, List.append_assoc]⟩
    obtain ⟨x, rfl⟩ := prefix_of_size_le ha hbefore hle
    refine ⟨x, after, ?_, (size_append a x).symm⟩
    simpa using htext
  · rintro ⟨x, y, rfl, rfl⟩
    exact ⟨Nat.le_add_right _ _, a ++ x, y, by simp, size_append a x⟩

/-- The occurrence at which a text is cut is the first one. -/
lemma isLeast_of_cut {pat tail before after : List Char} (h : cut pat tail = some (before, after))
    (a : List Char) :
    IsLeast {offset | size a ≤ offset ∧ OccursAt pat (a ++ tail) offset}
      (size a + size before) := by
  constructor
  · exact (occursAt_append_iff pat a tail _).2 ⟨before, after, cut_eq_some h, rfl⟩
  · intro offset hoffset
    obtain ⟨x, y, rfl, rfl⟩ := (occursAt_append_iff pat a tail offset).1 hoffset
    obtain ⟨first, rest, hfirst, hle⟩ := cut_first pat x y
    rw [hfirst] at h
    obtain ⟨rfl, rfl⟩ := Prod.mk.inj (Option.some.inj h)
    have hx : x <+: x ++ pat ++ y := ⟨pat ++ y, by simp⟩
    have hbefore : first <+: x ++ pat ++ y := ⟨pat ++ rest, by simp [cut_eq_some hfirst]⟩
    obtain ⟨z, rfl⟩ := List.prefix_of_prefix_length_le hbefore hx hle
    rw [size_append]
    omega

end Text

namespace Doc
namespace Block

open Text

/-- Whether an opening between two texts begins a comment: it belongs neither to an empty comment
nor to a banner, and only blank space stands before it on its line. -/
structure Opens (before tail : List Char) : Prop where
  accepted : ∀ c ∈ tail.head?, c ≠ '/' ∧ c ≠ '*'
  indented : ∃ above indent, before = above ++ indent ∧ Whole above ∧ '\n' ∉ indent ∧
    isBlankText indent = true

/-- Whether a comment begins at a byte offset. -/
def OpensAt (text : List Char) (offset : Nat) : Prop :=
  ∃ before tail, text = before ++ opening ++ tail ∧ Opens before tail ∧ size before = offset

lemma refusesOpening_eq_false_iff (tail : List Char) :
    refusesOpening tail = false ↔ ∀ c ∈ tail.head?, c ≠ '/' ∧ c ≠ '*' := by
  cases tail with
  | nil => simp [refusesOpening]
  | cons c tail =>
    unfold refusesOpening
    split <;> simp_all

/-- The test of the search: only the part behind the last newline counts for the line. -/
lemma opens_iff (before tail : List Char) :
    Opens before tail ↔ (!refusesOpening tail && isBlankText (lastLine before)) = true := by
  rw [Bool.and_eq_true, Bool.not_eq_true', refusesOpening_eq_false_iff]
  constructor
  · rintro ⟨haccepted, above, indent, rfl, habove, hnewline, hblank⟩
    rw [lastLine_append habove, lastLine_of_notMem hnewline]
    exact ⟨haccepted, hblank⟩
  · rintro ⟨haccepted, hblank⟩
    exact ⟨haccepted, wholeLines before, lastLine before, (wholeLines_append_lastLine before).symm,
      whole_wholeLines before, newline_notMem_lastLine before, hblank⟩

/-- Two openings in one text are the same or lie apart. -/
lemma opening_apart {x y tail : List Char} (h : x ++ opening ++ y = opening ++ tail) :
    (x = [] ∧ y = tail) ∨ ∃ z, x = opening ++ z ∧ tail = z ++ opening ++ y := by
  have hopening : opening = ['/', '*', '*'] := rfl
  match x with
  | [] => exact .inl ⟨rfl, List.append_cancel_left h⟩
  | [a] => simp [hopening] at h
  | [a, b] => simp [hopening] at h
  | a :: b :: c :: z =>
    simp only [hopening, List.cons_append, List.nil_append, List.cons.injEq] at h
    obtain ⟨rfl, rfl, rfl, htail⟩ := h
    exact .inr ⟨z, rfl, htail.symm⟩

/-- Every opening is the first one or lies behind it. -/
lemma cut_opening_cases {rest skipped tail x y : List Char}
    (hc : cut opening rest = some (skipped, tail)) (h : rest = x ++ opening ++ y) :
    (x = skipped ∧ y = tail) ∨ ∃ z, x = skipped ++ opening ++ z ∧ tail = z ++ opening ++ y := by
  obtain ⟨first, after, hfirst, hle⟩ := cut_first opening x y
  rw [← h, hc] at hfirst
  obtain ⟨rfl, rfl⟩ := Prod.mk.inj (Option.some.inj hfirst)
  have hrest := cut_eq_some hc
  have hx : x <+: rest := ⟨opening ++ y, by rw [h, List.append_assoc]⟩
  have hskipped : skipped <+: rest := ⟨opening ++ tail, by rw [hrest, List.append_assoc]⟩
  obtain ⟨z, rfl⟩ := List.prefix_of_prefix_length_le hskipped hx hle
  have hbehind : z ++ opening ++ y = opening ++ tail := by
    rw [hrest] at h
    simpa using h.symm
  rcases opening_apart hbehind with ⟨rfl, rfl⟩ | ⟨z, rfl, htail⟩
  · exact .inl ⟨List.append_nil skipped, rfl⟩
  · exact .inr ⟨z, by simp, htail⟩

/-- What is found begins a comment. -/
lemma opens_of_findOpenFrom {before rest lead tail : List Char}
    (h : findOpenFrom before rest = some (lead, tail)) : Opens lead tail := by
  induction hn : rest.length using Nat.strong_induction_on generalizing before rest with
  | _ n ih =>
    cases hc : cut opening rest with
    | none => simp [findOpenFrom_of_none _ hc] at h
    | some r =>
      obtain ⟨skipped, next⟩ := r
      have hlt : next.length < n := hn ▸ cut_length_lt (by decide) hc
      rw [findOpenFrom_of_some _ hc] at h
      split at h
      · rename_i haccepted
        obtain ⟨rfl, rfl⟩ := Prod.mk.inj (Option.some.inj h)
        exact (opens_iff _ _).2 haccepted
      · exact ih _ hlt h rfl

/-- An opening that begins a comment is found, unless one before it is. -/
lemma findOpenFrom_of_opens (before : List Char) {rest x y : List Char}
    (h : rest = x ++ opening ++ y) (hopens : Opens (before ++ x) y) :
    ∃ lead tail, findOpenFrom before rest = some (lead, tail) ∧ lead <+: before ++ x := by
  induction hn : rest.length using Nat.strong_induction_on generalizing before rest x with
  | _ n ih =>
    cases hc : cut opening rest with
    | none =>
      refine absurd ?_ (cut_eq_none_iff.1 hc)
      exact ⟨x, y, h.symm⟩
    | some r =>
      obtain ⟨skipped, next⟩ := r
      have hlt : next.length < n := hn ▸ cut_length_lt (by decide) hc
      rw [findOpenFrom_of_some _ hc]
      rcases cut_opening_cases hc h with ⟨rfl, rfl⟩ | ⟨z, rfl, hnext⟩
      · rw [if_pos ((opens_iff _ _).1 hopens)]
        exact ⟨_, _, rfl, List.prefix_rfl⟩
      · split
        · exact ⟨_, _, rfl, by simp⟩
        · -- The other opening lies behind the refused one, where the search goes on.
          have hlead : before ++ (skipped ++ opening ++ z) = before ++ skipped ++ opening ++ z := by
            simp
          rw [hlead] at hopens ⊢
          exact ih _ hlt _ hnext hopens rfl

variable {text : List Char}

lemma opensAt_of_findOpen {before tail : List Char} (h : findOpen text = some (before, tail)) :
    OpensAt text (size before) :=
  ⟨before, tail, findOpenFrom_eq h, opens_of_findOpenFrom h, rfl⟩

lemma findOpen_of_opensAt {offset : Nat} (h : OpensAt text offset) :
    ∃ before tail, findOpen text = some (before, tail) ∧ size before ≤ offset := by
  obtain ⟨x, y, htext, hopens, rfl⟩ := h
  obtain ⟨before, tail, hfind, z, rfl⟩ := findOpenFrom_of_opens [] htext hopens
  exact ⟨before, tail, hfind, by rw [size_append]; omega⟩

/-- The search finds the least offset at which a comment begins. -/
lemma findOpen_eq_some_iff (offset : Nat) :
    (findOpen text).map (fun found => size found.1) = some offset ↔
      IsLeast {offset | OpensAt text offset} offset := by
  constructor
  · intro h
    obtain ⟨⟨before, tail⟩, hfind, rfl⟩ := Option.map_eq_some_iff.1 h
    refine ⟨opensAt_of_findOpen hfind, ?_⟩
    intro other hother
    obtain ⟨before', tail', hfind', hle⟩ := findOpen_of_opensAt hother
    rw [hfind] at hfind'
    obtain ⟨rfl, -⟩ := Prod.mk.inj (Option.some.inj hfind')
    exact hle
  · rintro ⟨hopens, hleast⟩
    obtain ⟨before, tail, hfind, hle⟩ := findOpen_of_opensAt hopens
    rw [hfind, Option.map_some, Option.some.injEq]
    exact Nat.le_antisymm hle (hleast (opensAt_of_findOpen hfind))

lemma findOpen_eq_none_iff : findOpen text = none ↔ ∀ offset, ¬OpensAt text offset := by
  constructor
  · intro h offset hopens
    obtain ⟨before, tail, hfind, -⟩ := findOpen_of_opensAt hopens
    rw [h] at hfind
    cases hfind
  · intro h
    cases hfind : findOpen text with
    | none => rfl
    | some found => exact absurd (opensAt_of_findOpen hfind) (h _)

section Offsets

variable (before inner after : List Char)

lemma size_append_opening : size (before ++ opening) = size before + 3 :=
  size_append before opening

lemma slice_enclosed :
    slice (before ++ (opening ++ inner ++ closing) ++ after) (size before)
      (size before + 3 + size inner + 2) = some (opening ++ inner ++ closing) := by
  have hraw : size (opening ++ inner ++ closing) = 3 + size inner + 2 := by
    rw [size_append, size_append]
    rfl
  have hslice := slice_append before (opening ++ inner ++ closing) after
  rwa [hraw, ← Nat.add_assoc, ← Nat.add_assoc] at hslice

lemma lineAt_closing :
    lineAt (before ++ (opening ++ inner ++ closing) ++ after) (size before + 3 + size inner) =
      newlines before + 1 + newlines inner := by
  have hnone : newlines opening = 0 := rfl
  have htext : before ++ (opening ++ inner ++ closing) ++ after =
      before ++ opening ++ inner ++ (closing ++ after) := by simp
  rw [htext, ← size_append_opening, ← size_append, lineAt_append, newlines_append, newlines_append,
    hnone]
  omega

end Offsets

/-- A comment spans the text from the first offset at which one begins to the first closing behind
the three characters of its opening. -/
structure Spans (text : List Char) (d : Comment) (start stop : Nat) : Prop where
  opens : IsLeast {offset | OpensAt text offset} start
  closes : IsLeast {offset | start + 3 ≤ offset ∧ OccursAt closing text offset} stop
  raw : slice text start (stop + 2) = some d.raw
  startLine : d.startLine = lineAt text start
  endLine : d.endLine = lineAt text stop

lemma exists_spans {language : Language} {d : Comment} (h : extract language text = some d) :
    ∃ start stop, Spans text d start stop := by
  unfold extract at h
  split at h
  · cases h
  · rename_i before tail hopen
    split at h
    · cases h
    · rename_i inner after hclose
      obtain rfl := Option.some.inj h
      have htext := eq_of_findOpen hopen hclose
      refine ⟨size before, size before + 3 + size inner, ?_, ?_, ?_, ?_, ?_⟩
      · exact (findOpen_eq_some_iff _).1 (by rw [hopen, Option.map_some])
      · have hleast := isLeast_of_cut hclose (before ++ opening)
        rwa [← findOpenFrom_eq hopen, size_append_opening] at hleast
      · rw [htext, slice_enclosed]
      · rw [htext, List.append_assoc before, lineAt_append]
      · rw [htext, lineAt_closing]

lemma exists_extract (language : Language) {start stop : Nat}
    (hstart : IsLeast {offset | OpensAt text offset} start) (hle : start + 3 ≤ stop)
    (hstop : OccursAt closing text stop) : ∃ d, extract language text = some d := by
  obtain ⟨⟨before, tail⟩, hopen, rfl⟩ :=
    Option.map_eq_some_iff.1 ((findOpen_eq_some_iff start).2 hstart)
  have htext : text = before ++ opening ++ tail := findOpenFrom_eq hopen
  rw [htext] at hstop
  rw [← size_append_opening] at hle
  obtain ⟨x, y, rfl, -⟩ := (occursAt_append_iff closing _ tail stop).1 ⟨hle, hstop⟩
  obtain ⟨inner, after, hclose, -⟩ := cut_first closing x y
  rw [extract, hopen]
  dsimp only
  rw [hclose]
  exact ⟨_, rfl⟩

/-- The search finds the least offset at which a comment begins, if there is one. The comment is
there exactly when a closing stands behind its opening, and it reaches to the first one. -/
theorem findOpen_extract_isLeast (language : Language) (text : List Char) :
    (∀ offset, (findOpen text).map (fun found => size found.1) = some offset ↔
      IsLeast {offset | OpensAt text offset} offset) ∧
    (findOpen text = none ↔ ∀ offset, ¬OpensAt text offset) ∧
    ((∃ d, extract language text = some d) ↔
      ∃ start stop, IsLeast {offset | OpensAt text offset} start ∧ start + 3 ≤ stop ∧
        OccursAt closing text stop) ∧
    ∀ d, extract language text = some d → ∃ start stop, Spans text d start stop := by
  refine ⟨findOpen_eq_some_iff, findOpen_eq_none_iff, ⟨?_, ?_⟩, fun d h => exists_spans h⟩
  · rintro ⟨d, h⟩
    obtain ⟨start, stop, hspans⟩ := exists_spans h
    exact ⟨start, stop, hspans.opens, hspans.closes.1⟩
  · rintro ⟨start, stop, hstart, hle, hstop⟩
    exact exists_extract language hstart hle hstop

/-- An empty comment and an opening behind other text are passed over; the comment below them ends
with the first of two closings. -/
theorem findOpen_extract_isLeast_refused :
    let text := "/**/** a\n\t/** é */ */".toList
    let d : Comment := ⟨.javascript, .function, .jsdoc, "/** é */".toList, "é".toList, 2, 2⟩
    IsLeast {offset | OpensAt text offset} 10 ∧ extract .javascript text = some d ∧
      ∃ start stop, Spans text d start stop := by
  intro text d
  have hfind : (findOpen text).map (fun found => size found.1) = some 10 := by decide +kernel
  have hextract : extract .javascript text = some d := by decide +kernel
  obtain ⟨hleast, -, -, hspans⟩ := findOpen_extract_isLeast .javascript text
  exact ⟨(hleast 10).1 hfind, hextract, hspans d hextract⟩

end Block
end Doc
end Waymark
