import Waymark.Proofs.Text.Offset

/-! Spans of lines in bytes. The spans that one scan of the text finds are those of its lines, and
every place on a line, from its first character up to its newline, has the number, the start and the
end of that line. -/
namespace Waymark
namespace Text

/-- The spans of lines that follow each other, the first of which begins at `start`. -/
def spansOf : Nat → List Line → List (Nat × Nat)
  | _, [] => []
  | start, l :: ls => (start, start + size l.body) :: spansOf (start + size l.full) ls

section Scan

/-- Inside a line the scan only moves on and remembers whether the last character is a return. -/
lemma spansFrom_append {l : List Char} (hl : '\n' ∉ l) (start pos : Nat) (cr : Bool)
    (rest : List Char) :
    spansFrom start pos cr (l ++ rest) =
      spansFrom start (pos + size l) (l.getLast?.elim cr (· == '\r')) rest := by
  induction l generalizing pos cr with
  | nil => simp [size]
  | cons c l ih =>
    obtain ⟨hc, hl⟩ := not_or.1 fun h => hl (List.mem_cons.2 h)
    have hlast : (c :: l).getLast?.elim cr (· == '\r') =
        l.getLast?.elim (decide (c = '\r')) (· == '\r') := by
      cases l with
      | nil => simp [beq_eq_decide]
      | cons d l =>
        rw [List.getLast?_cons_cons]
        cases h : (d :: l).getLast? <;> simp_all
    rw [List.cons_append, spansFrom, if_neg (Ne.symm hc), ih hl, hlast, size, Nat.add_assoc]

/-- A newline closes the span of a line, in front of a return that belongs to the line. -/
lemma spansFrom_newline {l : List Char} (hl : '\n' ∉ l) (start : Nat) (rest : List Char) :
    spansFrom start start false (l ++ '\n' :: rest) =
      (start, start + size (ended l).body) ::
        spansFrom (start + size (ended l).full) (start + size (ended l).full) false rest := by
  have hone : size ['\n'] = 1 := rfl
  have hreturn : size ['\r'] = 1 := rfl
  rw [spansFrom_append hl, spansFrom, if_pos rfl, ended_full, size_append, hone, Nat.add_assoc]
  by_cases hcr : l.getLast? = some '\r'
  · obtain ⟨x, rfl⟩ := List.getLast?_eq_some_iff.1 hcr
    simp [ended_concat_return, size_append, hreturn]
  · have hflag : l.getLast?.elim false (· == '\r') = false := by
      cases h : l.getLast? <;> simp_all
    simp [ended_of_ne hcr, hflag]

lemma spansFrom_last {l : List Char} (hl : '\n' ∉ l) (start : Nat) :
    spansFrom start start false l = if l = [] then [] else [(start, start + size l)] := by
  have happ := spansFrom_append hl start start false []
  rw [List.append_nil] at happ
  rw [happ, spansFrom]
  cases l with
  | nil => simp [size]
  | cons c l =>
    have hpos := c.utf8Size_pos
    have hlt : start < start + size (c :: l) := by
      rw [size]
      omega
    simp [hlt]

theorem spansFrom_eq_spansOf (text : List Char) (start : Nat) :
    spansFrom start start false text = spansOf start (rawLines text) := by
  induction text using lineInduction generalizing start with
  | last l hl =>
    rw [spansFrom_last hl, rawLines_of_notMem hl]
    split <;> rfl
  | line l rest hl ih => rw [spansFrom_newline hl, ih, rawLines_newline hl, spansOf]

lemma lineSpans_eq_spansOf (text : List Char) : lineSpans text = spansOf 0 (rawLines text) :=
  spansFrom_eq_spansOf text 0

/-- A line begins behind all that stands above it. -/
lemma getElem?_spansOf (start : Nat) (ls : List Line) (i : Nat) :
    (spansOf start ls)[i]? = ls[i]?.map fun l =>
      (start + size (concat (ls.take i)), start + size (concat (ls.take i)) + size l.body) := by
  induction ls generalizing start i with
  | nil => simp [spansOf]
  | cons l ls ih =>
    cases i with
    | zero => simp [spansOf, size]
    | succ i => simp [spansOf, ih, size_append, Nat.add_assoc]

end Scan

section Row

/-- A line of a text up to its newline: what stands above it, the line, and what follows it, which
begins with the newline unless the text is at its end. -/
structure IsRow (text above line below : List Char) : Prop where
  eq : text = above ++ line ++ below
  above : Whole above
  line : '\n' ∉ line
  below : ∀ c ∈ below.head?, c = '\n'

variable {text above line below : List Char}

namespace IsRow

variable (h : IsRow text above line below) {x : List Char} (hx : x <+: line)
include h hx

lemma newline_notMem : '\n' ∉ x := fun hmem => h.line (hx.subset hmem)

lemma splitAt_eq : ∃ y, line = x ++ y ∧
    splitAt text (size above + size x) = some (above ++ x, y ++ below) := by
  obtain ⟨y, rfl⟩ := hx
  refine ⟨y, rfl, ?_⟩
  rw [h.eq, ← size_append, ← splitAt_size]
  simp

lemma lineAt_eq : lineAt text (size above + size x) = newlines above + 1 := by
  have hnone := newlines_of_notMem (h.newline_notMem hx)
  obtain ⟨y, rfl⟩ := hx
  have htext : text = above ++ x ++ (y ++ below) := by
    rw [h.eq]
    simp
  rw [htext, ← size_append, lineAt_append, newlines_append, hnone, Nat.add_zero]

lemma lineStart_eq : lineStart text (size above + size x) = some (size above) := by
  have hnone := wholeLines_of_notMem (h.newline_notMem hx)
  obtain ⟨y, rfl, hsplit⟩ := h.splitAt_eq hx
  rw [lineStart, hsplit, Option.map_some]
  dsimp only
  rw [wholeLines_append h.above, hnone, List.append_nil]

lemma lineEnd_eq : lineEnd text (size above + size x) = some (size above + size line) := by
  obtain ⟨y, rfl, hsplit⟩ := h.splitAt_eq hx
  have hy : ∀ c ∈ y, decide (c ≠ '\n') = true := by
    intro c hc
    have hne : c ≠ '\n' := by
      rintro rfl
      exact h.line (by simp [hc])
    simpa using hne
  rw [lineEnd, hsplit, Option.map_some]
  dsimp only
  cases below with
  | nil =>
    have hmem : '\n' ∉ y ++ [] := fun hmem => by simpa using hy '\n' (by simpa using hmem)
    rw [if_neg hmem, h.eq]
    simp [size_append]
  | cons c below =>
    obtain rfl := h.below c rfl
    rw [if_pos (by simp), List.takeWhile_append_of_pos hy]
    simp [size_append, Nat.add_assoc]

end IsRow

/-- Every line that is read from a text has its row, and nothing but a return before the newline is
missing from its body. -/
lemma exists_isRow {text : List Char} {i : Nat} {l : Line} (h : (rawLines text)[i]? = some l) :
    ∃ above line below, IsRow text above line below ∧ newlines above = i ∧
      above = concat ((rawLines text).take i) ∧
      l = if below = [] then ⟨line, []⟩ else ended line := by
  induction text using lineInduction generalizing i with
  | last m hm =>
    rw [rawLines_of_notMem hm] at h ⊢
    split at h
    · simp at h
    · rename_i hne
      rw [List.getElem?_singleton, Option.ite_none_right_eq_some] at h
      obtain ⟨rfl, hl⟩ := h
      obtain rfl := Option.some.inj hl
      exact ⟨[], m, [], ⟨by simp, whole_nil, hm, by simp⟩, rfl, by simp, rfl⟩
  | line m rest hm ih =>
    rw [rawLines_newline hm] at h ⊢
    cases i with
    | zero =>
      obtain rfl := Option.some.inj h
      exact ⟨[], m, '\n' :: rest, ⟨by simp, whole_nil, hm, by simp⟩, rfl, by simp, rfl⟩
    | succ i =>
      obtain ⟨above, line, below, hrow, hcount, habove, hl⟩ := ih h
      refine ⟨m ++ '\n' :: above, line, below, ⟨?_, ?_, hrow.line, hrow.below⟩, ?_, ?_, hl⟩
      · rw [hrow.eq]
        simp
      · exact (whole_newline_iff m above).2 hrow.above
      · rw [newlines_append, newlines_of_notMem hm, newlines, List.count_cons_self, ← newlines,
          hcount, Nat.zero_add]
      · rw [List.take_succ_cons, concat_cons, ended_full, ← habove]
        simp

end Row

lemma size_ended (l : List Char) :
    size l = if l.getLast? = some '\r' then size (ended l).body + 1 else size (ended l).body := by
  split
  · rename_i h
    obtain ⟨x, rfl⟩ := List.getLast?_eq_some_iff.1 h
    rw [ended_concat_return, size_append]
    rfl
  · rename_i h
    rw [ended_of_ne h]

/-- A line that is found by its span, and its row. -/
lemma exists_isRow_of_span {text : List Char} {i first last : Nat}
    (h : (lineSpans text)[i]? = some (first, last)) :
    ∃ above line below, IsRow text above line below ∧ newlines above = i ∧ size above = first ∧
      first + size line =
        if line.getLast? = some '\r' ∧ below ≠ [] then last + 1 else last := by
  rw [lineSpans_eq_spansOf, getElem?_spansOf, Option.map_eq_some_iff] at h
  obtain ⟨l, hl, hspan⟩ := h
  obtain ⟨above, line, below, hrow, hcount, habove, rfl⟩ := exists_isRow hl
  rw [← habove, Nat.zero_add] at hspan
  obtain ⟨rfl, rfl⟩ := Prod.mk.inj hspan
  refine ⟨above, line, below, hrow, hcount, rfl, ?_⟩
  by_cases hbelow : below = []
  · simp [hbelow]
  · simp only [hbelow, if_false, ne_eq, not_false_eq_true, and_true]
    rw [size_ended line]
    split <;> omega

lemma slice_append (a b c : List Char) :
    slice (a ++ b ++ c) (size a) (size a + size b) = some b := by
  rw [slice, List.append_assoc, splitAt_size]
  simp [splitAt_size]

/-- What stands between the ends of a span is the line. -/
theorem map_slice_lineSpans (text : List Char) :
    (lineSpans text).map (fun span => slice text span.1 span.2) = (lines text).map some := by
  apply List.ext_getElem?
  intro i
  rw [lineSpans_eq_spansOf, lines, List.getElem?_map, List.getElem?_map, List.getElem?_map,
    getElem?_spansOf]
  cases hl : (rawLines text)[i]? with
  | none => rfl
  | some l =>
    obtain ⟨above, line, below, hrow, -, habove, hline⟩ := exists_isRow hl
    obtain ⟨y, rfl⟩ : l.body <+: line := by
      rw [hline]
      split
      · exact List.prefix_rfl
      · exact ended_body_isPrefix line
    have hslice := slice_append above l.body (y ++ below)
    have htext : above ++ l.body ++ (y ++ below) = text := by
      rw [hrow.eq]
      simp
    rw [htext] at hslice
    rw [← habove, Option.map_some, Option.map_some, Option.map_some, Nat.zero_add]
    exact congrArg some hslice

/-- Whether an offset lies between two characters of a text or at one of its ends. -/
def IsBoundary (text : List Char) (offset : Nat) : Prop :=
  ∃ x, x <+: text ∧ size x = offset

/-- The spans are those of the lines, in order. Every place on a line, from its start up to its
newline or the end of the text, has the number of that line, its start, and that newline as its end,
which is the end of the span but for a return between them. -/
theorem lineSpans_agree (text : List Char) :
    (lineSpans text).map (fun span => slice text span.1 span.2) = (lines text).map some ∧
    ∀ i first last, (lineSpans text)[i]? = some (first, last) →
      ∃ above line below, IsRow text above line below ∧ size above = first ∧
        first + size line = (if line.getLast? = some '\r' ∧ below ≠ [] then last + 1 else last) ∧
        ∀ offset, IsBoundary text offset → first ≤ offset → offset ≤ first + size line →
          lineAt text offset = i + 1 ∧ lineStart text offset = some first ∧
            lineEnd text offset = some (first + size line) := by
  refine ⟨map_slice_lineSpans text, ?_⟩
  intro i first last h
  obtain ⟨above, line, below, hrow, hcount, rfl, hstop⟩ := exists_isRow_of_span h
  refine ⟨above, line, below, hrow, rfl, hstop, ?_⟩
  rintro offset ⟨x, hx, rfl⟩ hfirst hlast
  have habove : above <+: text := ⟨line ++ below, by rw [hrow.eq, List.append_assoc]⟩
  have hline : above ++ line <+: text := ⟨below, hrow.eq.symm⟩
  -- The place lies behind a part of the line, since it lies between two beginnings of the text.
  obtain ⟨y, rfl⟩ := prefix_of_size_le habove hx hfirst
  rw [← size_append] at hlast
  have hy : y <+: line := (List.prefix_append_right_inj above).1 (prefix_of_size_le hx hline hlast)
  rw [size_append, ← hcount]
  exact ⟨hrow.lineAt_eq hy, hrow.lineStart_eq hy, hrow.lineEnd_eq hy⟩

/-- A line of one wide character with a return before its newline, and empty lines below it. -/
theorem lineSpans_agree_wide :
    let text := "é\r\n\r\n\nx\r".toList
    (lineSpans text)[0]? = some (0, 2) ∧ IsBoundary text 2 ∧ lineAt text 2 = 1 ∧
      lineStart text 2 = some 0 ∧ ∃ stop, lineEnd text 2 = some stop ∧ (stop = 2 ∨ stop = 3) := by
  intro text
  have hspan : (lineSpans text)[0]? = some (0, 2) := by decide
  have hboundary : IsBoundary text 2 := ⟨['é'], by decide, by decide⟩
  obtain ⟨above, line, below, -, -, hstop, hplace⟩ := (lineSpans_agree text).2 0 0 2 hspan
  have hlast : 2 ≤ 0 + size line ∧ (0 + size line = 2 ∨ 0 + size line = 3) := by
    split at hstop <;> omega
  obtain ⟨hnumber, hstart, hend⟩ := hplace 2 hboundary (Nat.zero_le 2) hlast.1
  exact ⟨hspan, hboundary, hnumber, hstart, _, hend, hlast.2⟩

example : lineSpans "é\r\n\r\n\nx\r".toList = [(0, 2), (4, 4), (6, 6), (7, 9)] := by decide

end Text
end Waymark
