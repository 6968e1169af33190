import Mathlib.Data.List.DropRight
import Waymark.Text.Blank

/-! Trimming: what is left at both ends, and how it goes over an append. -/
namespace Waymark
namespace Text

variable {α : Type} {p : α → Bool}

lemma dropEndWhile_eq_rdropWhile (p : α → Bool) (xs : List α) :
    dropEndWhile p xs = xs.rdropWhile p := rfl

lemma dropEndWhile_isPrefix (p : α → Bool) (xs : List α) : dropEndWhile p xs <+: xs :=
  List.rdropWhile_prefix p xs

lemma dropEndWhile_append_of_pos (xs : List α) {ys : List α} (h : ∀ y ∈ ys, p y = true) :
    dropEndWhile p (xs ++ ys) = dropEndWhile p xs := by
  rw [dropEndWhile, List.reverse_append, List.dropWhile_append_of_pos (by simpa using h)]
  rfl

lemma dropEndWhile_append_of_neg (xs : List α) {ys : List α} (h : ∃ y ∈ ys, p y = false) :
    dropEndWhile p (xs ++ ys) = xs ++ dropEndWhile p ys := by
  have hne : ys.reverse.dropWhile p ≠ [] := by
    obtain ⟨y, hy, hp⟩ := h
    intro hc
    have := List.dropWhile_eq_nil_iff.1 hc y (List.mem_reverse.2 hy)
    simp [hp] at this
  rw [dropEndWhile, List.reverse_append, List.dropWhile_append, if_neg (by simpa using hne)]
  simp [dropEndWhile]

lemma dropEndWhile_eq_self_iff {xs : List α} :
    dropEndWhile p xs = xs ↔ ∀ x ∈ xs.getLast?, p x = false := by
  rw [dropEndWhile_eq_rdropWhile, List.rdropWhile_eq_self_iff]
  constructor
  · intro h x hx
    obtain ⟨hne, rfl⟩ := List.mem_getLast?_eq_getLast hx
    simpa using h hne
  · intro h hne
    simpa using h _ (List.getLast_mem_getLast? hne)

lemma getLast?_dropEndWhile (p : α → Bool) (xs : List α) :
    ∀ x ∈ (dropEndWhile p xs).getLast?, p x = false := by
  rw [← dropEndWhile_eq_self_iff]
  exact List.rdropWhile_idempotent p xs

lemma mem_of_mem_dropEndWhile {xs : List α} {x : α} (h : x ∈ dropEndWhile p xs) : x ∈ xs :=
  (dropEndWhile_isPrefix p xs).subset h

/-- A run stops at an element that does not belong to it. -/
lemma takeWhile_append_cons_of_neg (p : α → Bool) {y : α} (hy : p y = false) (xs ys : List α) :
    (xs ++ y :: ys).takeWhile p = xs.takeWhile p := by
  induction xs with
  | nil => simp [hy]
  | cons x xs ih => simp [List.takeWhile_cons, ih]

@[simp] lemma trimEnd_trimEnd (l : List Char) : trimEnd (trimEnd l) = trimEnd l :=
  List.rdropWhile_idempotent isBlank l

lemma trimEnd_isPrefix (l : List Char) : trimEnd l <+: l :=
  dropEndWhile_isPrefix isBlank l

lemma trimEnd_eq_self_iff {l : List Char} :
    trimEnd l = l ↔ ∀ c ∈ l.getLast?, isBlank c = false :=
  dropEndWhile_eq_self_iff

lemma trimEnd_eq_nil_iff {l : List Char} : trimEnd l = [] ↔ isBlankText l = true := by
  simp [trimEnd, dropEndWhile_eq_rdropWhile, isBlankText]

lemma trimEnd_cons {c : Char} (h : isBlank c = false) (cs : List Char) :
    trimEnd (c :: cs) = c :: trimEnd cs := by
  by_cases hcs : isBlankText cs = true
  · rw [trimEnd_eq_nil_iff.2 hcs]
    have hall : ∀ y ∈ cs, isBlank y = true := by simpa [isBlankText] using hcs
    exact (dropEndWhile_append_of_pos [c] hall).trans
      (dropEndWhile_eq_self_iff.2 (by simpa using h))
  · have hex : ∃ y ∈ cs, isBlank y = false := by simpa [isBlankText] using hcs
    exact dropEndWhile_append_of_neg [c] hex

/-- A line without blank space at its end does not end in a carriage return. -/
lemma getLast?_ne_return {l : List Char} (h : trimEnd l = l) : l.getLast? ≠ some '\r' := by
  intro hc
  exact absurd (trimEnd_eq_self_iff.1 h _ hc) (by decide)

/-- Text in front of trimmed text that is not empty stays. -/
lemma trimEnd_append_of_trimmed (x : List Char) {l : List Char} (hne : l ≠ [])
    (h : trimEnd l = l) : trimEnd (x ++ l) = x ++ l := by
  rw [trimEnd_eq_self_iff] at h ⊢
  intro c hc
  rw [List.getLast?_append_of_ne_nil _ hne] at hc
  exact h c hc

lemma trimStart_append_of_blank {x : List Char} (h : isBlankText x = true) (y : List Char) :
    trimStart (x ++ y) = trimStart y :=
  List.dropWhile_append_of_pos (by simpa [isBlankText] using h)

lemma trimStart_cons {c : Char} (h : isBlank c = false) (cs : List Char) :
    trimStart (c :: cs) = c :: cs := by
  simp [trimStart, h]

lemma trimStart_eq_self_iff {l : List Char} :
    trimStart l = l ↔ ∀ c ∈ l.head?, isBlank c = false := by
  cases l with
  | nil => simp [trimStart]
  | cons c cs =>
    by_cases hc : isBlank c = true
    · simp only [trimStart, List.dropWhile_cons, hc, if_true, List.head?_cons, Option.mem_def,
        Option.some.injEq, forall_eq', Bool.true_eq_false, iff_false]
      intro h
      have := congrArg List.length h
      have := (List.dropWhile_sublist (l := cs) isBlank).length_le
      simp only [List.length_cons] at *
      omega
    · simp [trimStart, hc]

@[simp] lemma trimStart_trimStart (l : List Char) : trimStart (trimStart l) = trimStart l :=
  List.dropWhile_idempotent isBlank l

lemma trimStart_head {l : List Char} : ∀ c ∈ (trimStart l).head?, isBlank c = false :=
  trimStart_eq_self_iff.1 (trimStart_trimStart l)

/-- What `trimStart` takes away and leaves. -/
lemma exists_eq_append_trimStart (l : List Char) :
    ∃ x, isBlankText x = true ∧ l = x ++ trimStart l := by
  refine ⟨l.takeWhile isBlank, ?_, (List.takeWhile_append_dropWhile).symm⟩
  rw [isBlankText, List.all_eq_true]
  exact fun c hc => List.mem_takeWhile_imp hc

/-- What `trimEnd` leaves and takes away. -/
lemma exists_eq_trimEnd_append (l : List Char) :
    ∃ z, isBlankText z = true ∧ l = trimEnd l ++ z := by
  refine ⟨l.rtakeWhile isBlank, ?_, List.rdropWhile_append_rtakeWhile.symm⟩
  rw [isBlankText, List.all_eq_true]
  exact fun c hc => List.mem_rtakeWhile_imp hc

lemma trimStart_eq_nil_iff {l : List Char} : trimStart l = [] ↔ isBlankText l = true := by
  simp [trimStart, isBlankText]

lemma trimStart_isSuffix (l : List Char) : trimStart l <:+ l :=
  List.dropWhile_suffix _

lemma length_trimStart_lt {l : List Char} (h : trimStart l ≠ l) :
    (trimStart l).length < l.length := by
  have hs := trimStart_isSuffix l
  have hne : (trimStart l).length ≠ l.length := fun he => h (hs.eq_of_length he)
  have := hs.length_le
  omega

lemma trim_isInfix (l : List Char) : trim l <:+: l :=
  (trimEnd_isPrefix _).isInfix.trans (trimStart_isSuffix l).isInfix

/-- What is left of trimmed text from some place on still ends without blank space. -/
lemma getLast?_dropWhile_trim (p : Char → Bool) (l : List Char) :
    ∀ c ∈ ((trim l).dropWhile p).getLast?, isBlank c = false := by
  intro c hc
  obtain ⟨front, hfront⟩ := List.dropWhile_suffix (l := trim l) p
  have hne : (trim l).dropWhile p ≠ [] := by
    rintro he
    simp [he] at hc
  have hlast : c ∈ (trim l).getLast? := by
    rwa [← hfront, List.getLast?_append_of_ne_nil _ hne]
  exact getLast?_dropEndWhile isBlank (trimStart l) c hlast

lemma isBlankText_append (x y : List Char) :
    isBlankText (x ++ y) = (isBlankText x && isBlankText y) :=
  List.all_append

lemma isBlankText_trimEnd (l : List Char) : isBlankText (trimEnd l) = isBlankText l := by
  rw [Bool.eq_iff_iff, ← trimEnd_eq_nil_iff, trimEnd_trimEnd, trimEnd_eq_nil_iff]

lemma isBlankText_trim (l : List Char) : isBlankText (trim l) = isBlankText l := by
  rw [trim, isBlankText_trimEnd, Bool.eq_iff_iff, ← trimStart_eq_nil_iff, trimStart_trimStart,
    trimStart_eq_nil_iff]

lemma trim_append_of_blank {x : List Char} (hx : isBlankText x = true) (y : List Char) :
    trim (x ++ y) = trim y := by
  rw [trim, trim, trimStart_append_of_blank hx]

lemma trim_trimEnd (l : List Char) : trim (trimEnd l) = trim l := by
  obtain ⟨x, hx, hl⟩ := exists_eq_append_trimStart l
  cases ht : trimStart l with
  | nil =>
    have hblank : isBlankText l = true := trimStart_eq_nil_iff.1 ht
    rw [trimEnd_eq_nil_iff.2 hblank, trim, trim, ht]
    rfl
  | cons c cs =>
    have hc : isBlank c = false := trimStart_head c (by rw [ht]; rfl)
    have hend : trimEnd l = x ++ trimEnd (c :: cs) := by
      conv_lhs => rw [hl, ht]
      exact dropEndWhile_append_of_neg x ⟨c, List.mem_cons_self, hc⟩
    rw [hend, trim_append_of_blank hx, trimEnd_cons hc, trim, trimStart_cons hc, trim, ht,
      ← trimEnd_cons hc, trimEnd_trimEnd]

lemma trim_append_of_blank_right (x : List Char) {z : List Char} (hz : isBlankText z = true) :
    trim (x ++ z) = trim x := by
  have hend : trimEnd (x ++ z) = trimEnd x :=
    dropEndWhile_append_of_pos x (by simpa [isBlankText] using hz)
  rw [← trim_trimEnd, hend, trim_trimEnd]

lemma trim_trim (l : List Char) : trim (trim l) = trim l :=
  calc trim (trim l) = trim (trimStart l) := trim_trimEnd (trimStart l)
    _ = trim l := by rw [trim, trimStart_trimStart, trim]

lemma trim_eq_self_iff {l : List Char} :
    trim l = l ↔ (∀ c ∈ l.head?, isBlank c = false) ∧ ∀ c ∈ l.getLast?, isBlank c = false := by
  rw [← trimStart_eq_self_iff, ← trimEnd_eq_self_iff]
  constructor
  · intro h
    have hstart : trimStart l = l := by
      by_contra hne
      have hlt := length_trimStart_lt hne
      have hle := (trimEnd_isPrefix (trimStart l)).length_le
      rw [← trim, h] at hle
      omega
    exact ⟨hstart, by rwa [trim, hstart] at h⟩
  · rintro ⟨hstart, hend⟩
    rw [trim, hstart, hend]

lemma trim_eq_nil_iff {l : List Char} : trim l = [] ↔ isBlankText l = true := by
  rw [trim, trimEnd_eq_nil_iff, ← trimStart_eq_nil_iff, trimStart_trimStart, trimStart_eq_nil_iff]

end Text
end Waymark
