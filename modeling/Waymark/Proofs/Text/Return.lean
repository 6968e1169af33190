import Waymark.Proofs.Text.Lines
import Waymark.Proofs.Text.Search

/-! A text whose newlines all get a carriage return. Its lines are the same, only their endings
are longer, and a pattern without either character is found at the same place. -/
namespace Waymark
namespace Text

/-- The text with a carriage return put before every newline. -/
def withReturns (text : List Char) : List Char :=
  text.flatMap fun c => if c = '\n' then ['\r', '\n'] else [c]

@[simp] lemma withReturns_nil : withReturns [] = [] := rfl

@[simp] lemma withReturns_append (a b : List Char) :
    withReturns (a ++ b) = withReturns a ++ withReturns b := by
  simp [withReturns]

@[simp] lemma withReturns_newline_cons (cs : List Char) :
    withReturns ('\n' :: cs) = '\r' :: '\n' :: withReturns cs := rfl

lemma withReturns_cons_of_ne {c : Char} (h : c ≠ '\n') (cs : List Char) :
    withReturns (c :: cs) = c :: withReturns cs := by
  simp [withReturns, h]

lemma withReturns_of_notMem {l : List Char} (h : '\n' ∉ l) : withReturns l = l := by
  induction l with
  | nil => rfl
  | cons c l ih =>
    obtain ⟨hc, hl⟩ := not_or.1 fun hm => h (List.mem_cons.2 hm)
    rw [withReturns_cons_of_ne (Ne.symm hc), ih hl]

@[simp] lemma newlines_withReturns (text : List Char) :
    newlines (withReturns text) = newlines text := by
  unfold newlines
  induction text with
  | nil => rfl
  | cons c cs ih =>
    by_cases hc : c = '\n'
    · simp [hc, ih]
    · simp [withReturns_cons_of_ne hc, hc, ih]

namespace Line

/-- The same line, with a carriage return before its newline. -/
def withReturn (l : Line) : Line :=
  ⟨l.body, withReturns l.ending⟩

@[simp] lemma withReturn_body (l : Line) : l.withReturn.body = l.body := rfl

@[simp] lemma withReturn_ending (l : Line) : l.withReturn.ending = withReturns l.ending := rfl

lemma withReturn_full {l : Line} (h : '\n' ∉ l.body) : l.withReturn.full = withReturns l.full := by
  rw [full, full, withReturns_append, withReturns_of_notMem h]
  rfl

end Line

theorem rawLines_withReturns {text : List Char} (h : '\r' ∉ text) :
    rawLines (withReturns text) = (rawLines text).map Line.withReturn := by
  induction text using lineInduction with
  | last l hl =>
    rw [withReturns_of_notMem hl, rawLines_of_notMem hl]
    by_cases hn : l = [] <;> simp [hn, Line.withReturn]
  | line l rest hl ih =>
    have hreturn : '\r' ∉ l ∧ '\r' ∉ rest := by simpa using h
    have hlast : l.getLast? ≠ some '\r' := fun hc => hreturn.1 (List.mem_of_getLast? hc)
    have hn : '\n' ∉ l ++ ['\r'] := by simpa using hl
    rw [withReturns_append, withReturns_newline_cons, withReturns_of_notMem hl,
      List.append_cons l '\r', rawLines_newline hn, rawLines_newline hl, ended_concat_return,
      ended_of_ne hlast, ih hreturn.2]
    rfl

theorem lines_withReturns {text : List Char} (h : '\r' ∉ text) :
    lines (withReturns text) = lines text := by
  simp [lines, rawLines_withReturns h, Function.comp_def]

lemma newline_notMem_body {text : List Char} {l : Line} (h : l ∈ rawLines text) :
    '\n' ∉ l.body :=
  newline_notMem_of_mem_lines (List.mem_map_of_mem h)

section Lines

variable {ls : List Line} (h : ∀ l ∈ ls, '\n' ∉ l.body)
include h

lemma concat_map_withReturn : concat (ls.map Line.withReturn) = withReturns (concat ls) := by
  induction ls with
  | nil => rfl
  | cons l ls ih =>
    rw [List.map_cons, concat_cons, concat_cons, withReturns_append,
      Line.withReturn_full (h l List.mem_cons_self), ih fun m hm => h m (List.mem_cons_of_mem _ hm)]

lemma joinRaw_map_withReturn : joinRaw (ls.map Line.withReturn) = withReturns (joinRaw ls) := by
  induction ls with
  | nil => rfl
  | cons l ls ih =>
    have hl := h l List.mem_cons_self
    cases ls with
    | nil => exact (withReturns_of_notMem hl).symm
    | cons m ls =>
      have hrest := ih fun n hn => h n (List.mem_cons_of_mem _ hn)
      change l.withReturn.full ++ joinRaw ((m :: ls).map Line.withReturn) =
        withReturns (l.full ++ joinRaw (m :: ls))
      rw [hrest, Line.withReturn_full hl, withReturns_append]

end Lines

lemma newline_notMem_lastLine (text : List Char) : '\n' ∉ lastLine text := by
  intro h
  have := List.mem_takeWhile_imp (List.mem_reverse.1 h)
  simp at this

lemma whole_wholeLines (text : List Char) : Whole (wholeLines text) := by
  intro c hc
  simpa using getLast?_dropEndWhile _ _ c hc

lemma whole_withReturns {text : List Char} (h : Whole text) : Whole (withReturns text) := by
  rcases List.eq_nil_or_concat text with rfl | ⟨x, c, rfl⟩
  · exact whole_nil
  · obtain rfl : c = '\n' := h c (by simp)
    simp [Whole]

/-- The last line has no newline and so keeps its characters. -/
lemma withReturns_eq_append (text : List Char) :
    withReturns text = withReturns (wholeLines text) ++ lastLine text := by
  conv_lhs => rw [← wholeLines_append_lastLine text]
  rw [withReturns_append, withReturns_of_notMem (newline_notMem_lastLine text)]

lemma lastLine_withReturns (text : List Char) : lastLine (withReturns text) = lastLine text := by
  rw [withReturns_eq_append, lastLine_append (whole_withReturns (whole_wholeLines text)),
    lastLine_of_notMem (newline_notMem_lastLine text)]

lemma wholeLines_withReturns (text : List Char) :
    wholeLines (withReturns text) = withReturns (wholeLines text) := by
  rw [withReturns_eq_append, wholeLines_append (whole_withReturns (whole_wholeLines text)),
    wholeLines_of_notMem (newline_notMem_lastLine text), List.append_nil]

section Search

variable {pat : List Char} (hr : '\r' ∉ pat) (hn : '\n' ∉ pat)
include hr hn

lemma isPrefix_withReturns_iff (text : List Char) : pat <+: withReturns text ↔ pat <+: text := by
  induction pat generalizing text with
  | nil => simp
  | cons p pat ih =>
    obtain ⟨hpr, hr⟩ := not_or.1 fun hm => hr (List.mem_cons.2 hm)
    obtain ⟨hpn, hn⟩ := not_or.1 fun hm => hn (List.mem_cons.2 hm)
    cases text with
    | nil => rfl
    | cons c cs =>
      by_cases hc : c = '\n'
      · simp [hc, List.cons_prefix_cons, Ne.symm hpr, Ne.symm hpn]
      · rw [withReturns_cons_of_ne hc, List.cons_prefix_cons, List.cons_prefix_cons, ih hr hn]

/-- A pattern is found at the same place, and what stands before and after it gets its carriage
returns. -/
theorem cut_withReturns (text : List Char) :
    cut pat (withReturns text) =
      (cut pat text).map fun (before, after) => (withReturns before, withReturns after) := by
  induction text with
  | nil =>
    simp only [withReturns_nil, cut]
    split <;> rfl
  | cons c cs ih =>
    by_cases hp : pat <+: c :: cs
    · obtain ⟨t, ht⟩ := hp
      rw [← ht, withReturns_append, withReturns_of_notMem hn, cut_append_self, cut_append_self]
      rfl
    · have hp' := mt (isPrefix_withReturns_iff hr hn (c :: cs)).1 hp
      rw [cut_cons_of_not_isPrefix hp]
      by_cases hc : c = '\n'
      · subst hc
        have hnew : ¬pat <+: '\n' :: withReturns cs := by
          intro h
          cases pat with
          | nil => exact hp List.nil_prefix
          | cons p pat => exact hn (by simp [(List.cons_prefix_cons.1 h).1])
        rw [withReturns_newline_cons] at hp' ⊢
        rw [cut_cons_of_not_isPrefix hp', cut_cons_of_not_isPrefix hnew, ih]
        simp [Option.map_map, Function.comp_def]
      · rw [withReturns_cons_of_ne hc] at hp' ⊢
        rw [cut_cons_of_not_isPrefix hp', ih, Option.map_map, Option.map_map]
        simp [Function.comp_def, withReturns_cons_of_ne hc]

end Search

end Text
end Waymark
