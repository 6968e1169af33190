import Mathlib.Data.List.Infix
import Mathlib.Tactic.Common
import Waymark.Text.Search

/-! The first occurrence of a pattern, in a text that is put together from parts. -/
namespace Waymark
namespace Text

/-- A pattern does not reach over a character that it lacks. -/
lemma prefix_append_cons_iff {pat : List Char} {s : Char} (hs : s ∉ pat) (x rest : List Char) :
    pat <+: x ++ s :: rest ↔ pat <+: x := by
  constructor
  · rintro ⟨t, ht⟩
    rcases List.append_eq_append_iff.1 ht with ⟨a, rfl, -⟩ | ⟨c, rfl, hc⟩
    · exact List.prefix_append pat a
    · cases c with
      | nil => simp
      | cons d c =>
        obtain ⟨rfl, -⟩ := List.cons.inj hc
        simp at hs
  · intro h
    exact h.trans (List.prefix_append _ _)

lemma cut_cons_of_not_isPrefix {pat : List Char} {c : Char} {cs : List Char}
    (h : ¬pat <+: c :: cs) :
    cut pat (c :: cs) = (cut pat cs).map fun (before, after) => (c :: before, after) := by
  rw [cut, if_neg (fun hp => h (List.isPrefixOf_iff_prefix.1 hp))]

lemma cut_append_self (pat after : List Char) : cut pat (pat ++ after) = some ([], after) := by
  cases h : pat ++ after with
  | nil => simp_all [cut]
  | cons c cs =>
    have hp : pat.isPrefixOf (c :: cs) = true :=
      List.isPrefixOf_iff_prefix.2 (h ▸ List.prefix_append _ _)
    rw [cut, if_pos hp, ← h, List.drop_left]

theorem cut_eq_none_iff {pat cs : List Char} : cut pat cs = none ↔ ¬pat <:+: cs := by
  induction cs with
  | nil => simp [cut]
  | cons c cs ih =>
    by_cases hp : pat <+: c :: cs
    · simp [cut, List.isPrefixOf_iff_prefix.2 hp, hp.isInfix]
    · simp [cut_cons_of_not_isPrefix hp, ih, List.infix_cons_iff, hp]

lemma contains_iff {pat cs : List Char} : contains pat cs = true ↔ pat <:+: cs := by
  rw [contains, ← not_iff_not, ← cut_eq_none_iff]
  simp

lemma contains_eq_false_iff {pat cs : List Char} : contains pat cs = false ↔ cut pat cs = none := by
  simp [contains]

/-- The occurrence that is found comes before every other one. -/
theorem cut_first (pat x y : List Char) :
    ∃ before after, cut pat (x ++ pat ++ y) = some (before, after) ∧ before.length ≤ x.length := by
  induction x with
  | nil => exact ⟨[], y, by simpa using cut_append_self pat y, by simp⟩
  | cons c x ih =>
    by_cases hp : pat <+: c :: x ++ pat ++ y
    · obtain ⟨t, ht⟩ := hp
      exact ⟨[], t, by rw [← ht, cut_append_self], by simp⟩
    · obtain ⟨before, after, hc, hl⟩ := ih
      refine ⟨c :: before, after, ?_, by simpa using hl⟩
      simp only [List.cons_append] at hp ⊢
      rw [cut_cons_of_not_isPrefix hp, hc]
      rfl

/-- Text that is added at the end does not change what is found. -/
lemma cut_append_of_some {pat x before after : List Char} (h : cut pat x = some (before, after))
    (y : List Char) : cut pat (x ++ y) = some (before, after ++ y) := by
  induction x generalizing before with
  | nil =>
    have hx := cut_eq_some h
    simp only [List.nil_eq, List.append_eq_nil_iff] at hx
    obtain ⟨⟨rfl, rfl⟩, rfl⟩ := hx
    simpa using cut_append_self [] y
  | cons c x ih =>
    by_cases hp : pat <+: c :: x
    · obtain ⟨t, ht⟩ := hp
      rw [← ht, cut_append_self] at h
      obtain ⟨rfl, rfl⟩ := Prod.mk.inj (Option.some.inj h)
      rw [← ht, List.append_assoc, cut_append_self]
    · rw [cut_cons_of_not_isPrefix hp] at h
      obtain ⟨⟨b, a⟩, hb, he⟩ := Option.map_eq_some_iff.1 h
      obtain ⟨rfl, rfl⟩ := Prod.mk.inj he
      have hl := congrArg List.length (cut_eq_some hb)
      have hp' : ¬pat <+: c :: (x ++ y) := by
        intro hc
        refine hp (List.prefix_of_prefix_length_le hc (List.prefix_append (c :: x) y) ?_)
        simp only [List.length_append, List.length_cons] at hl ⊢
        omega
      rw [List.cons_append, cut_cons_of_not_isPrefix hp', ih hb]
      rfl

/-- No occurrence begins in a part that lacks the first character of the pattern. -/
lemma cut_append_of_head_notMem {p : Char} {x : List Char} (hx : p ∉ x) (pat y : List Char) :
    cut (p :: pat) (x ++ y) =
      (cut (p :: pat) y).map fun (before, after) => (x ++ before, after) := by
  induction x with
  | nil => simp
  | cons c x ih =>
    obtain ⟨hc, hx⟩ := not_or.1 fun h => hx (List.mem_cons.2 h)
    have hp : ¬p :: pat <+: c :: (x ++ y) := by
      intro h
      exact hc (List.cons_prefix_cons.1 h).1
    rw [List.cons_append, cut_cons_of_not_isPrefix hp, ih hx, Option.map_map]
    rfl

/-- Nothing before an occurrence can begin one. -/
lemma cut_append_of_notMem {p : Char} {x : List Char} (hx : p ∉ x) (pat y : List Char) :
    cut (p :: pat) (x ++ p :: (pat ++ y)) = some (x, y) := by
  rw [cut_append_of_head_notMem hx, ← List.cons_append, cut_append_self]
  simp

/-- What stands before the first occurrence holds none. -/
lemma cut_before {pat cs before after : List Char} (hp : pat ≠ [])
    (h : cut pat cs = some (before, after)) : cut pat before = none := by
  cases hb : cut pat before with
  | none => rfl
  | some r =>
    obtain ⟨x, y⟩ := r
    have he := h
    rw [cut_eq_some h, List.append_assoc, cut_append_of_some hb] at he
    obtain ⟨rfl, -⟩ := Prod.mk.inj (Option.some.inj he)
    have hl := congrArg List.length (cut_eq_some hb)
    have := List.length_pos_iff.2 hp
    simp only [List.length_append] at hl
    omega

/-- Nothing is found in the first part, and the pattern cannot reach into the second. -/
lemma cut_append_cons {pat x : List Char} (h : cut pat x = none) {s : Char} (hs : s ∉ pat)
    (rest : List Char) :
    cut pat (x ++ s :: rest) =
      (cut pat rest).map fun (before, after) => (x ++ s :: before, after) := by
  have hne : pat ≠ [] := by
    rintro rfl
    exact cut_eq_none_iff.1 h (List.nil_infix)
  induction x with
  | nil =>
    have hp : ¬pat <+: s :: rest := by
      rw [← List.nil_append (s :: rest), prefix_append_cons_iff hs]
      simpa using hne
    rw [List.nil_append, cut_cons_of_not_isPrefix hp]
    rfl
  | cons c x ih =>
    rw [cut_eq_none_iff, List.infix_cons_iff, not_or] at h
    have hp : ¬pat <+: c :: (x ++ s :: rest) := by
      rw [← List.cons_append, prefix_append_cons_iff hs]
      exact h.1
    rw [List.cons_append, cut_cons_of_not_isPrefix hp, ih (cut_eq_none_iff.2 h.2), Option.map_map]
    rfl

/-- A text that is longer than its beginning and its end together has something between them. -/
lemma exists_between_iff (x y t : List Char) :
    (x.length + y.length < t.length ∧ x <+: t ∧ y <:+ t) ↔
      ∃ between, between ≠ [] ∧ t = x ++ between ++ y := by
  constructor
  · rintro ⟨hlength, ⟨u, rfl⟩, ⟨v, hv⟩⟩
    rcases List.append_eq_append_iff.1 hv with ⟨a, -, rfl⟩ | ⟨between, rfl, rfl⟩
    · simp only [List.length_append] at hlength
      omega
    · refine ⟨between, ?_, by simp⟩
      rintro rfl
      simp at hlength
  · rintro ⟨between, hne, rfl⟩
    have hpos := List.length_pos_iff.2 hne
    refine ⟨?_, ⟨between ++ y, by simp⟩, ⟨x ++ between, by simp⟩⟩
    simp only [List.length_append]
    omega

end Text
end Waymark
