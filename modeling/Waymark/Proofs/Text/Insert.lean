import Waymark.Proofs.Text.Lines

/-! A line put into a text. The lines of the new text are those of the old one and the new line,
up to blank space at their ends: a carriage return at the very end of a text belongs to its last
line, but to the ending of that line once a newline follows. -/
namespace Waymark
namespace Text

/-- The text with a newline at its end, unless it is empty or has one. -/
def terminated (text : List Char) : List Char :=
  if text.getLast?.all (· == '\n') then text else text ++ ['\n']

lemma terminated_of_whole {text : List Char} (h : Whole text) : terminated text = text := by
  rw [terminated, if_pos]
  simpa [Whole, Option.all_eq_true] using h

lemma terminated_of_not_whole {text : List Char} (h : ¬Whole text) :
    terminated text = text ++ ['\n'] := by
  rw [terminated, if_neg]
  simpa [Whole, Option.all_eq_true] using h

lemma whole_terminated (text : List Char) : Whole (terminated text) := by
  by_cases h : Whole text
  · rwa [terminated_of_whole h]
  · rw [terminated_of_not_whole h]
    exact whole_concat_newline text

lemma terminated_newline (l rest : List Char) :
    terminated (l ++ '\n' :: rest) = l ++ '\n' :: terminated rest := by
  by_cases h : Whole rest
  · rw [terminated_of_whole h, terminated_of_whole ((whole_newline_iff l rest).2 h)]
  · rw [terminated_of_not_whole h, terminated_of_not_whole (mt (whole_newline_iff l rest).1 h)]
    simp

lemma trimEnd_ended (l : List Char) : trimEnd (ended l).body = trimEnd l := by
  by_cases h : l.getLast? = some '\r'
  · obtain ⟨x, rfl⟩ := List.getLast?_eq_some_iff.1 h
    rw [ended_concat_return]
    exact (dropEndWhile_append_of_pos x (List.forall_mem_singleton.2 (by decide))).symm
  · rw [ended_of_ne h]

lemma trim_ended (l : List Char) : trim (ended l).body = trim l := by
  rw [← trim_trimEnd, trimEnd_ended, trim_trimEnd]

lemma map_trimEnd_terminated (text : List Char) :
    (lines (terminated text)).map trimEnd = (lines text).map trimEnd := by
  induction text using lineInduction with
  | last l h =>
    by_cases hl : l = []
    · subst hl
      rfl
    · rw [terminated_of_not_whole fun hw => hl (eq_nil_of_whole hw h), lines_newline h,
        lines_of_notMem h, if_neg hl]
      simp [trimEnd_ended]
  | line l rest h ih =>
    rw [terminated_newline, lines_newline h, lines_newline h, List.map_cons, List.map_cons, ih]

/-- Lines behind a newline follow the lines of the text before it, apart from an empty one that the
newline makes behind a whole line. -/
lemma map_trim_lines_newline (c x : List Char) :
    ∃ y, (y = x ∨ y = '\n' :: x) ∧
      (lines (c ++ '\n' :: x)).map trim = (lines c).map trim ++ (lines y).map trim := by
  by_cases hc : Whole c
  · exact ⟨'\n' :: x, .inr rfl, by rw [lines_append hc, List.map_append]⟩
  · refine ⟨x, .inl rfl, ?_⟩
    have htrim : trim ∘ trimEnd = trim := funext trim_trimEnd
    have hlines : (lines (c ++ ['\n'])).map trim = (lines c).map trim := by
      rw [← terminated_of_not_whole hc, ← htrim, ← List.map_map, map_trimEnd_terminated,
        List.map_map]
    rw [List.append_cons, lines_append (whole_concat_newline c), List.map_append, hlines]

/-- The lines that a text put together from lines has: an empty last one does not show. -/
def shown (ls : List (List Char)) : List (List Char) :=
  if ls.getLast? = some [] then ls.dropLast else ls

/-- Whether the place between two texts is one between lines. -/
def Divides (a b : List Char) : Prop :=
  Whole a ∨ b = []

lemma Divides.rawLines_append {a b : List Char} (h : Divides a b) :
    rawLines (a ++ b) = rawLines a ++ rawLines b := by
  rcases h with h | rfl
  · exact Text.rawLines_append h b
  · simp

lemma Divides.lines_append {a b : List Char} (h : Divides a b) :
    lines (a ++ b) = lines a ++ lines b := by
  simp [lines, h.rawLines_append]

/-- Every text can be divided after any number of its lines. -/
theorem exists_divides (text : List Char) (k : Nat) :
    ∃ a b, text = a ++ b ∧ Divides a b ∧ rawLines a = (rawLines text).take k ∧
      rawLines b = (rawLines text).drop k := by
  induction text using lineInduction generalizing k with
  | last l h =>
    cases k with
    | zero => exact ⟨[], l, rfl, .inl whole_nil, rfl, rfl⟩
    | succ k =>
      refine ⟨l, [], by simp, .inr rfl, ?_, ?_⟩ <;>
        by_cases hl : l = [] <;> simp [rawLines_of_notMem h, hl]
  | line l rest h ih =>
    cases k with
    | zero => exact ⟨[], l ++ '\n' :: rest, rfl, .inl whole_nil, rfl, rfl⟩
    | succ k =>
      obtain ⟨a, b, rfl, hab, ha, hb⟩ := ih k
      refine ⟨l ++ '\n' :: a, b, by simp, ?_, ?_, ?_⟩
      · exact hab.imp_left (whole_newline_iff l a).2
      · rw [rawLines_newline h, rawLines_newline h, List.take_succ_cons, ha]
      · rw [rawLines_newline h, List.drop_succ_cons, hb]

/-- Puts a line before the line with index `k`, or at the end of the text. -/
def insertLine (k : Nat) (line ending text : List Char) : List Char :=
  terminated (concat ((rawLines text).take k)) ++ (line ++ ending) ++
    concat ((rawLines text).drop k)

/-- What can end a line that is put into a text: only at the end no newline is needed. -/
def CanEnd (k : Nat) (text ending : List Char) : Prop :=
  ending = ['\n'] ∨ ending = [] ∧ k = (lines text).length

variable {k : Nat} {line ending text : List Char}

/-- The new line and those before it, read apart from those after it. -/
theorem insertLine_eq (hn : '\n' ∉ line) (hne : line ≠ []) (he : CanEnd k text ending) :
    ∃ a a' b, text = a ++ b ∧ insertLine k line ending text = a' ++ b ∧ Divides a b ∧
      Divides a' b ∧ lines a = (lines text).take k ∧ lines b = (lines text).drop k ∧
      (lines a').map trimEnd = ((lines text).take k ++ [line]).map trimEnd := by
  obtain ⟨a, b, hab, hd, ha, hb⟩ := exists_divides text k
  have hla : lines a = (lines text).take k := by rw [lines, ha, lines, List.map_take]
  have hlb : lines b = (lines text).drop k := by rw [lines, hb, lines, List.map_drop]
  have hnew : (lines (line ++ ending)).map trimEnd = [trimEnd line] := by
    rcases he with rfl | ⟨rfl, -⟩
    · simp [lines_newline hn, trimEnd_ended]
    · simp [lines_of_notMem hn, hne]
  refine ⟨a, terminated a ++ (line ++ ending), b, hab, ?_, hd, ?_, hla, hlb, ?_⟩
  · rw [insertLine, ← ha, ← hb, concat_rawLines, concat_rawLines]
  · rcases he with rfl | ⟨-, hk⟩
    · left
      rw [← List.append_assoc]
      exact whole_concat_newline _
    · right
      have : lines b = [] := by rw [hlb, hk, List.drop_length]
      rw [← concat_rawLines b, List.map_eq_nil_iff.1 this]
      rfl
  · rw [Text.lines_append (whole_terminated a), List.map_append, map_trimEnd_terminated, hla, hnew,
      List.map_append, List.map_singleton]

end Text
end Waymark
