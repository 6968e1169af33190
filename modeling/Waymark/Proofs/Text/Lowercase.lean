import Mathlib.Data.List.Basic
import Waymark.Text.Blank
import Waymark.Text.Lowercase

/-! Lower-casing twice is lower-casing once. Every letter that the tables lead to is a lower-case
letter by the same tables, and none of them is a capital sigma, so that the place of a letter in
its word no longer matters the second time. -/
namespace Waymark
namespace Text

/-- The code point of the lower-case letter. -/
def CaseRow.target (row : CaseRow) (n : Nat) : Nat :=
  Int.toNat (n + row.shift)

/-- Whether no letter of `row` has its lower-case letter in `other`: these lie before or behind it,
or fall on the code points that it leaves out. -/
def CaseRow.avoids (row other : CaseRow) : Bool :=
  (row.target row.last).blt other.first || other.last.blt (row.target row.first) ||
    other.step.beq 2 && (row.step.beq 2 || row.first.beq row.last) &&
      ((row.target row.first + other.first) % 2).beq 1

/-- What no lower-case letter may be: blank space, `#`, the dotted capital I, which has a
lower-case form of two characters, and the code points that are no characters. -/
def reservedRows : List CaseRow :=
  [⟨9, 13, 1, 0⟩, ⟨0x20, 0x20, 1, 0⟩, ⟨0x23, 0x23, 1, 0⟩, ⟨0x85, 0x85, 1, 0⟩, ⟨0xA0, 0xA0, 1, 0⟩,
    ⟨0x130, 0x130, 1, 0⟩, ⟨0x1680, 0x1680, 1, 0⟩, ⟨0x2000, 0x200A, 1, 0⟩,
    ⟨0x2028, 0x2029, 1, 0⟩, ⟨0x202F, 0x202F, 1, 0⟩, ⟨0x205F, 0x205F, 1, 0⟩,
    ⟨0x3000, 0x3000, 1, 0⟩, ⟨0xD800, 0xDFFF, 1, 0⟩]

lemma caseRows_bounds :
    ∀ row ∈ caseRows, 0 ≤ row.first + row.shift ∧ row.last + row.shift < 0x110000 := by
  decide +kernel

/-- No row leads to a reserved code point or to a letter of any row. -/
lemma caseRows_avoid :
    (caseRows.all fun row => (reservedRows ++ caseRows).all row.avoids) = true := by
  decide +kernel

lemma cast_target {row : CaseRow} (hrow : row ∈ caseRows) {n : Nat} (hn : row.first ≤ n) :
    (row.target n : Int) = n + row.shift := by
  have hbound := (caseRows_bounds row hrow).1
  rw [CaseRow.target]
  omega

lemma not_holds_target {row other : CaseRow} (hrow : row ∈ caseRows)
    (h : row.avoids other = true) {n : Nat} (hn : row.holds n = true) :
    other.holds (row.target n) = false := by
  rw [Bool.eq_false_iff]
  intro ht
  simp only [CaseRow.avoids, Bool.or_eq_true, Bool.and_eq_true, Nat.blt_eq, Nat.beq_eq] at h
  simp only [CaseRow.holds, Bool.and_eq_true, decide_eq_true_eq, beq_iff_eq] at hn ht
  obtain ⟨⟨hfirst, hlast⟩, hstep⟩ := hn
  obtain ⟨⟨hfirst', hlast'⟩, hstep'⟩ := ht
  have htarget := cast_target hrow hfirst
  have hlow := cast_target hrow (Nat.le_refl row.first)
  have hhigh := cast_target hrow (Nat.le_trans hfirst hlast)
  rcases h with (h | h) | ⟨⟨htwo, h⟩, hodd⟩
  · omega
  · omega
  · -- The other row has every second code point, and the letters of this one keep in step with it.
    rw [htwo] at hstep'
    rcases h with h | h
    · rw [h] at hstep
      omega
    · omega

section Target

variable {row : CaseRow} (hrow : row ∈ caseRows) {n : Nat} (hn : row.holds n = true)
include hrow hn

lemma target_free : ∀ other ∈ reservedRows ++ caseRows, other.holds (row.target n) = false := by
  intro other ho
  have havoid := List.all_eq_true.1 (List.all_eq_true.1 caseRows_avoid row hrow) other ho
  exact not_holds_target hrow havoid hn

lemma target_isValidChar : (row.target n).isValidChar := by
  have hsurrogate := target_free hrow hn ⟨0xD800, 0xDFFF, 1, 0⟩ (by simp [reservedRows])
  have hbounds := caseRows_bounds row hrow
  simp only [CaseRow.holds, Bool.and_eq_true, decide_eq_true_eq, beq_iff_eq] at hn
  simp only [CaseRow.holds, Bool.and_eq_false_iff, decide_eq_false_iff_not, Nat.mod_one,
    beq_self_eq_true, Bool.true_eq_false, or_false] at hsurrogate
  have htarget := cast_target hrow hn.1.1
  simp only [Nat.isValidChar]
  omega

lemma toNat_target : (Char.ofNat (row.target n)).toNat = row.target n := by
  rw [Char.ofNat, dif_pos (target_isValidChar hrow hn)]
  rfl

end Target

/-- The character is its own lower-case form. -/
def IsLower (c : Char) : Prop :=
  lowerChar c = [c]

instance (c : Char) : Decidable (IsLower c) :=
  inferInstanceAs (Decidable (lowerChar c = [c]))

lemma isLower_of_free {c : Char}
    (h : ∀ row ∈ reservedRows ++ caseRows, row.holds c.toNat = false) : IsLower c := by
  have hdotted := h ⟨0x130, 0x130, 1, 0⟩ (by simp [reservedRows])
  have hne : c.toNat ≠ 0x130 := by
    rintro he
    simp [CaseRow.holds, he] at hdotted
  have hnone : caseRows.find? (·.holds c.toNat) = none := by
    rw [List.find?_eq_none]
    intro row hrow
    simp [h row (List.mem_append_right _ hrow)]
  simp [IsLower, lowerChar, hne, hnone]

lemma IsLower.ne_capitalSigma {c : Char} (h : IsLower c) : c ≠ capitalSigma := by
  rintro rfl
  exact absurd h (by decide +kernel)

lemma not_isBlank_of_free {c : Char} (h : ∀ row ∈ reservedRows, row.holds c.toNat = false) :
    isBlank c = false ∧ c ≠ '#' := by
  simp only [reservedRows, List.forall_mem_cons, CaseRow.holds, Bool.and_eq_false_iff,
    decide_eq_false_iff_not, Nat.mod_one, beq_self_eq_true, Bool.true_eq_false, or_false] at h
  constructor
  · simp only [isBlank, Bool.or_eq_false_iff, Bool.and_eq_false_iff, decide_eq_false_iff_not,
      beq_eq_false_iff_ne]
    omega
  · rintro rfl
    simp at h

/-- The second character may stand in the lower-case form of the first one: it is lower case, and
neither blank space nor `#` comes in where it was not. -/
structure Lowers (c d : Char) : Prop where
  isLower : IsLower d
  kept : d = c ∨ isBlank d = false ∧ d ≠ '#'

instance (c d : Char) : Decidable (Lowers c d) :=
  decidable_of_iff (IsLower d ∧ (d = c ∨ isBlank d = false ∧ d ≠ '#'))
    ⟨fun h => ⟨h.1, h.2⟩, fun h => ⟨h.1, h.2⟩⟩

lemma lowers_of_mem_lowerChar {c d : Char} (h : d ∈ lowerChar c) : Lowers c d := by
  unfold lowerChar at h
  split at h
  · simp only [List.mem_cons, List.not_mem_nil, or_false] at h
    rcases h with rfl | rfl
    · exact ⟨by decide +kernel, Or.inr (by decide)⟩
    · exact ⟨by decide +kernel, Or.inr (by decide)⟩
  · rename_i hdotted
    split at h
    · rename_i row hfind
      obtain rfl := List.mem_singleton.1 h
      have hrow := List.mem_of_find?_eq_some hfind
      have hn := List.find?_some hfind
      have hfree := target_free hrow hn
      rw [← toNat_target hrow hn] at hfree
      refine ⟨isLower_of_free hfree, Or.inr (not_isBlank_of_free fun other ho => ?_)⟩
      exact hfree other (List.mem_append_left _ ho)
    · rename_i hnone
      obtain rfl := List.mem_singleton.1 h
      exact ⟨by simpa [IsLower, lowerChar, hnone] using hdotted, Or.inl rfl⟩

lemma lowerChar_ne_nil (c : Char) : lowerChar c ≠ [] := by
  unfold lowerChar
  split
  · simp
  · split <;> simp

/-- The lower-case form of a character between two texts, the first one reversed. -/
def lowerAt (before : List Char) (c : Char) (after : List Char) : List Char :=
  if c = capitalSigma then
    [Char.ofNat (if isFinalSigma before after then 0x3C2 else 0x3C3)]
  else lowerChar c

lemma lowerFrom_cons (before : List Char) (c : Char) (cs : List Char) :
    lowerFrom before (c :: cs) = lowerAt before c cs ++ lowerFrom (c :: before) cs := rfl

lemma lowerAt_ne_nil (before : List Char) (c : Char) (after : List Char) :
    lowerAt before c after ≠ [] := by
  unfold lowerAt
  split
  · simp
  · exact lowerChar_ne_nil c

lemma lowers_of_mem_lowerAt {before : List Char} {c : Char} {after : List Char} {d : Char}
    (h : d ∈ lowerAt before c after) : Lowers c d := by
  unfold lowerAt at h
  split at h
  · rename_i hc
    obtain rfl := List.mem_singleton.1 h
    rw [hc]
    cases isFinalSigma before after <;> decide +kernel
  · exact lowers_of_mem_lowerChar h

lemma lowerAt_of_isLower (before : List Char) {c : Char} (h : IsLower c) (after : List Char) :
    lowerAt before c after = [c] := by
  rw [lowerAt, if_neg h.ne_capitalSigma, h]

lemma isLower_of_mem_lowerFrom {before cs : List Char} :
    ∀ d ∈ lowerFrom before cs, IsLower d := by
  induction cs generalizing before with
  | nil => simp [lowerFrom]
  | cons c cs ih =>
    intro d hd
    rw [lowerFrom_cons, List.mem_append] at hd
    rcases hd with hd | hd
    · exact (lowers_of_mem_lowerAt hd).isLower
    · exact ih d hd

lemma lowerFrom_eq_self {before cs : List Char} (h : ∀ c ∈ cs, IsLower c) :
    lowerFrom before cs = cs := by
  induction cs generalizing before with
  | nil => rfl
  | cons c cs ih =>
    rw [List.forall_mem_cons] at h
    rw [lowerFrom_cons, lowerAt_of_isLower before h.1, ih h.2]
    rfl

@[simp] theorem lower_lower (cs : List Char) : lower (lower cs) = lower cs :=
  lowerFrom_eq_self isLower_of_mem_lowerFrom

lemma lowerFrom_eq_nil_iff {before cs : List Char} : lowerFrom before cs = [] ↔ cs = [] := by
  cases cs with
  | nil => simp [lowerFrom]
  | cons c cs => simp [lowerFrom_cons, lowerAt_ne_nil]

/-- The text begins with a form of its first character. -/
lemma lowers_head {cs : List Char} {d : Char} (h : d ∈ (lower cs).head?) :
    ∃ c ∈ cs.head?, Lowers c d := by
  cases cs with
  | nil => simp [lower, lowerFrom] at h
  | cons c cs =>
    rw [lower, lowerFrom_cons, List.head?_append_of_ne_nil _ (lowerAt_ne_nil _ _ _)] at h
    exact ⟨c, rfl, lowers_of_mem_lowerAt (List.mem_of_mem_head? h)⟩

/-- The text ends with a form of its last character. -/
lemma lowers_getLast {before cs : List Char} {d : Char} (h : d ∈ (lowerFrom before cs).getLast?) :
    ∃ c ∈ cs.getLast?, Lowers c d := by
  induction cs generalizing before with
  | nil => simp [lowerFrom] at h
  | cons c cs ih =>
    rw [lowerFrom_cons] at h
    by_cases hcs : cs = []
    · subst hcs
      rw [lowerFrom, List.append_nil] at h
      exact ⟨c, rfl, lowers_of_mem_lowerAt (List.mem_of_mem_getLast? h)⟩
    · rw [List.getLast?_append_of_ne_nil _ (mt lowerFrom_eq_nil_iff.1 hcs)] at h
      rw [List.getLast?_cons_of_ne_nil hcs]
      exact ih h

end Text
end Waymark
