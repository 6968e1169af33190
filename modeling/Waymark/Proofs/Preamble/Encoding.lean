import Waymark.Proofs.Doc.Literal
import Waymark.Proofs.Preamble.Stop

/-! Encoding declarations of Python, which count on the first two lines only. A line that is put at
the end of the preamble leaves them there, unless the second line declares an encoding below a first
line that the preamble does not take in. -/
namespace Waymark
namespace Preamble

open Text Doc.Literal

/-- Every declaration on the lines where one counts stands above line `k`. -/
def DeclaresAbove (k : Nat) (ls : List (List Char)) : Prop :=
  ∀ i < encodingLines, ∀ l ∈ ls[i]?, isEncoding l = true → i < k

/-- The second line declares an encoding, and the first neither does nor is an interpreter line. -/
structure DeclaresBelow (ls : List (List Char)) : Prop where
  first : ∀ l ∈ ls[0]?, isShebang l = false ∧ isEncoding l = false
  second : ∃ l ∈ ls[1]?, isEncoding l = true

section Start

variable {l : List Char} (hcode : isCode l = false)
include hcode

/-- Front matter does not open on a blank line or a comment. -/
lemma contains_delimiters_of_not_code : FrontMatter.delimiters.contains (trimEnd l) = false := by
  rw [← Bool.not_eq_true]
  intro hmem
  obtain ⟨t, ht⟩ := trimEnd_isPrefix l
  have hd : trimEnd l = "---".toList ∨ trimEnd l = "+++".toList := by
    simpa [FrontMatter.delimiters] using hmem
  rw [isCode_eq, ← ht] at hcode
  rcases hd with hd | hd <;> rw [hd] at hcode <;> exact absurd hcode (by simp [trimStart, isBlank])

/-- Directives begin on the first line, or below it when it is an interpreter line. -/
lemma directivesStart?_of_not_code (hshebang : isShebang l = false) (ls : List (List Char)) :
    directivesStart? (l :: ls) = some 0 := by
  have hcursor : cursor (l :: ls) = 0 := if_neg (by simp [hshebang])
  have habsent : FrontMatter.scan (l :: ls) 0 = .absent := by
    rw [scan_eq_absent_iff]
    rintro m ⟨⟩
    exact contains_delimiters_of_not_code hcode
  rw [directivesStart?, hcursor, habsent]

end Start

section Run

variable {ls : List (List Char)} {k : Nat}

/-- The declarations that stand one below the other where directives begin are taken in. -/
lemma lt_endOf_of_run {start : Nat} (hs : directivesStart? ls = some start)
    (hk : endOf .python ls = some k) {i : Nat} (hi : i < encodingLines)
    (hrun : ∀ j, start ≤ j → j ≤ i → ∃ l ∈ ls[j]?, isEncoding l = true) : i < k := by
  obtain ⟨s, hs', rfl⟩ := endOf_eq_some_iff.1 hk
  obtain rfl : s = start := Option.some.inj (hs'.symm.trans hs)
  let window := (ls.drop s).take (encodingLines - s)
  change i < s + (window.takeWhile isEncoding).length
  by_contra hlt
  -- The line that ends the run stands no lower than line `i`, so it would be a declaration.
  obtain ⟨l, hl, hencoding⟩ := hrun (s + (window.takeWhile isEncoding).length) (by omega) (by omega)
  have hnext : (window.dropWhile isEncoding).head? = some l := by
    have hwindow : window[(window.takeWhile isEncoding).length]? = some l := by
      rw [List.getElem?_take_of_lt (by omega), List.getElem?_drop]
      exact hl
    have hsplit := List.takeWhile_append_dropWhile (p := isEncoding) (l := window)
    conv_lhs at hwindow => lhs; rw [← hsplit]
    rwa [List.getElem?_append_right (Nat.le_refl _), Nat.sub_self, ← List.head?_eq_getElem?]
      at hwindow
  have hstop := List.head?_dropWhile_not isEncoding window
  rw [hnext] at hstop
  simp [hencoding] at hstop

/-- A first line that the preamble does not take in makes it empty. -/
lemma endOf_of_declaresBelow (hfirst : ∀ l ∈ ls[0]?, isCode l = false)
    (hk : endOf .python ls = some k) (hbelow : DeclaresBelow ls) : k = 0 := by
  cases ls with
  | nil => exact Nat.eq_zero_of_le_zero (endOf_le_length hk)
  | cons f ls =>
    obtain ⟨hshebang, hencoding⟩ := hbelow.first f rfl
    obtain ⟨s, hs, rfl⟩ := endOf_eq_some_iff.1 hk
    rw [directivesStart?_of_not_code (hfirst f rfl) hshebang] at hs
    obtain rfl := Option.some.inj hs
    simp [directiveLines, encodingLines, hencoding]

/-- Without a declaration that it leaves below, the preamble takes in all that count. -/
lemma declaresAbove_of_not_declaresBelow (hk : endOf .python ls = some k)
    (hbelow : ¬DeclaresBelow ls) : DeclaresAbove k ls := by
  intro i hi l hl hencoding
  obtain ⟨s, hs, -⟩ := endOf_eq_some_iff.1 hk
  refine lt_endOf_of_run hs hk hi fun j hsj hji => ?_
  by_cases hj : j = i
  · exact ⟨l, hj ▸ hl, hencoding⟩
  · -- Only the first line can stand above the declaration.
    obtain ⟨rfl, rfl⟩ : j = 0 ∧ i = 1 := by
      unfold encodingLines at hi
      omega
    obtain rfl : s = 0 := by omega
    cases ls with
    | nil => simp at hl
    | cons f ls =>
      refine ⟨f, rfl, ?_⟩
      by_contra hno
      refine hbelow ⟨?_, l, hl, hencoding⟩
      rintro m ⟨⟩
      refine ⟨?_, by simpa using hno⟩
      rw [← Bool.not_eq_true]
      intro hshebang
      have hcursor : cursor (f :: ls) = 1 := if_pos (by simpa using hshebang)
      have := (directivesStart?_le hs).1
      omega

end Run

/-- Below a first line that is blank or a comment, the preamble takes in every declaration that
counts, unless the second line declares an encoding and the first is neither an interpreter line nor
a declaration. If it does, a line at the end of the preamble leaves every declaration where it is.
If it does not, that line moves the declaration down to the third line, where none counts. -/
theorem declaresAbove_iff {text : List Char} {k : Nat}
    (hfirst : ∀ l ∈ (lines text)[0]?, isCode l = false)
    (hk : endOfText text .python = some k) :
    (DeclaresAbove k (lines text) ↔ ¬DeclaresBelow (lines text)) ∧
    (DeclaresAbove k (lines text) → ∀ x, ∀ i < encodingLines, ∀ l ∈ (lines text)[i]?,
      isEncoding l = true → ((lines text).insertIdx k x)[i]? = some l) ∧
    (DeclaresBelow (lines text) → ∀ x, ∃ l, (lines text)[1]? = some l ∧ isEncoding l = true ∧
      ((lines text).insertIdx k x)[encodingLines]? = some l) := by
  refine ⟨⟨?_, declaresAbove_of_not_declaresBelow hk⟩, ?_, ?_⟩
  · intro habove hbelow
    obtain ⟨l, hl, hencoding⟩ := hbelow.second
    have hlt := habove 1 (by decide) l hl hencoding
    rw [endOf_of_declaresBelow hfirst hk hbelow] at hlt
    omega
  · intro habove x i hi l hl hencoding
    rw [List.getElem?_insertIdx_of_lt (habove i hi l hl hencoding)]
    exact hl
  · intro hbelow x
    obtain ⟨l, hl, hencoding⟩ := hbelow.second
    refine ⟨l, hl, hencoding, ?_⟩
    rw [endOf_of_declaresBelow hfirst hk hbelow, List.insertIdx_zero]
    exact hl

/-- A declaration below an interpreter line stays on the second line. -/
theorem declaresAbove_iff_interpreted :
    let text := "#!/bin/py\n\t# vim: set fileencoding=utf-8 :\nx = 1\n".toList
    endOfText text .python = some 2 ∧ DeclaresAbove 2 (lines text) ∧
      ((lines text).insertIdx 2 "# tldr ::: one".toList)[1]? =
        some "\t# vim: set fileencoding=utf-8 :".toList := by
  intro text
  have hlines : lines text = ["#!/bin/py".toList, "\t# vim: set fileencoding=utf-8 :".toList,
      "x = 1".toList] := by
    decide +kernel
  have hfirst : ∀ l ∈ (lines text)[0]?, isCode l = false := by
    rw [hlines]
    rintro l ⟨⟩
    decide +kernel
  have hk : endOfText text .python = some 2 := by decide +kernel
  have hnot : ¬DeclaresBelow (lines text) := by
    rw [hlines]
    intro hbelow
    exact absurd (hbelow.first _ rfl).1 (by decide +kernel)
  obtain ⟨hiff, hstay, -⟩ := declaresAbove_iff hfirst hk
  have habove := hiff.2 hnot
  refine ⟨hk, habove, hstay habove _ 1 (by decide) _ ?_ (by decide +kernel)⟩
  rw [hlines]
  rfl

/-- A comment on the first line hides the declaration below it: the preamble is empty. -/
theorem declaresAbove_commented :
    ¬∀ text k, (∀ l ∈ (lines text)[0]?, isCode l = false) →
      endOfText text .python = some k → DeclaresAbove k (lines text) := by
  intro h
  let text := "# Settings\n# -*- coding: latin-1 -*-\nx = 1\n".toList
  have hlines : lines text = ["# Settings".toList, "# -*- coding: latin-1 -*-".toList,
      "x = 1".toList] := by
    decide +kernel
  have hfirst : ∀ l ∈ (lines text)[0]?, isCode l = false := by
    rw [hlines]
    rintro l ⟨⟩
    decide +kernel
  have hk : endOfText text .python = some 0 := by decide +kernel
  have habove := h text 0 hfirst hk
  rw [hlines] at habove
  exact absurd (habove 1 (by decide) _ rfl (by decide +kernel)) (by decide)

end Preamble
end Waymark
