/-! Fixed patterns inside a text: the first occurrence, and what stands before and after it. -/
namespace Waymark
namespace Text

/-- Divides a text at the first occurrence of `pat` into what stands before and after it. -/
def cut (pat : List Char) : List Char → Option (List Char × List Char)
  | [] => if pat.isEmpty then some ([], []) else none
  | c :: cs =>
    if pat.isPrefixOf (c :: cs) then some ([], (c :: cs).drop pat.length)
    else (cut pat cs).map fun (before, after) => (c :: before, after)

/-- A text is what stands before the first occurrence, the occurrence, and what stands after. -/
theorem cut_eq_some {pat cs before after : List Char} (h : cut pat cs = some (before, after)) :
    cs = before ++ pat ++ after := by
  induction cs generalizing before with
  | nil =>
    simp only [cut] at h
    split at h
    · rename_i hp
      simp_all
    · simp at h
  | cons c cs ih =>
    simp only [cut] at h
    split at h
    · rename_i hp
      obtain ⟨rest, hrest⟩ := List.isPrefixOf_iff_prefix.1 hp
      simp only [Option.some.injEq, Prod.mk.injEq] at h
      obtain ⟨rfl, rfl⟩ := h
      simp [← hrest]
    · obtain ⟨⟨b, a⟩, hb, he⟩ := Option.map_eq_some_iff.1 h
      simp only [Prod.mk.injEq] at he
      obtain ⟨rfl, rfl⟩ := he
      simp [ih hb]

/-- What stands after an occurrence is shorter than the text. -/
theorem cut_length_lt {pat cs before after : List Char} (hp : pat ≠ [])
    (h : cut pat cs = some (before, after)) : after.length < cs.length := by
  have hl := congrArg List.length (cut_eq_some h)
  have := List.length_pos_iff.2 hp
  simp only [List.length_append] at hl
  omega

/-- Whether `pat` occurs in the text. -/
def contains (pat cs : List Char) : Bool :=
  (cut pat cs).isSome

/-- What follows `pat` at the head of the text. -/
def after? : List Char → List Char → Option (List Char)
  | [], cs => some cs
  | _ :: _, [] => none
  | p :: pat, c :: cs => if p = c then after? pat cs else none

theorem after?_eq_some_iff {pat cs rest : List Char} :
    after? pat cs = some rest ↔ cs = pat ++ rest := by
  induction pat generalizing cs with
  | nil => simp [after?]
  | cons p pat ih =>
    cases cs with
    | nil => simp [after?]
    | cons c cs =>
      by_cases hc : p = c
      · simp [after?, hc, ih]
      · simp [after?, hc, Ne.symm hc]

/-- The text without `pat` at its end, however often it stands there. -/
def dropSuffixes (pat cs : List Char) : List Char :=
  go cs.length cs.reverse
where
  /-- Works on the reversed text; every step removes at least one character. -/
  go : Nat → List Char → List Char
    | 0, rev => rev.reverse
    | n + 1, rev =>
      match after? pat.reverse rev with
      | some rest => go n rest
      | none => rev.reverse

end Text
end Waymark
