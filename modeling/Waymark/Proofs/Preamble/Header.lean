import Mathlib.Data.List.Infix
import Waymark.Proofs.Preamble.Stop
import Waymark.Sigil

/-! The header of a file: an interpreter line and directives, which make up the preamble where no
front matter opens, and summaries below them. A summary at the end of the preamble leaves the
preamble as it was. -/
namespace Waymark
namespace Preamble

open Text

/-- What opens a line comment. -/
def leader : Language → List Char
  | .python | .ruby => ['#']
  | _ => "//".toList

/-- What every summary line begins with. -/
def summaryHead (language : Language) : List Char :=
  leader language ++ ' ' :: summaryMarker.toList ++ ' ' :: sigil.toList

def summaryLine (language : Language) (words : List Char) : List Char :=
  summaryHead language ++ ' ' :: words

/-- The lines among which directives are looked for. -/
def window (language : Language) (start : Nat) (ls : List (List Char)) : List (List Char) :=
  (if language = .python then ls.take encodingLines else ls).drop start

/-- The directives below the interpreter line. -/
def directives (language : Language) (ls : List (List Char)) : List (List Char) :=
  (window language (cursor ls) ls).takeWhile (isDirective language)

lemma skipDirectives_eq {language : Language} (hl : HasLineDirectives language)
    (ls : List (List Char)) (start : Nat) :
    skipDirectives language ls start =
      start + ((window language start ls).takeWhile (isDirective language)).length := by
  rcases hl with rfl | rfl | rfl | rfl <;> rfl

lemma endOf_eq (language : Language) (ls : List (List Char)) :
    endOf language ls = match FrontMatter.scan ls (cursor ls) with
      | .absent => some (skipDirectives language ls (cursor ls))
      | .closed next => some (skipDirectives language ls next)
      | .unterminated => none := rfl

lemma endOf_of_absent {language : Language} (hl : HasLineDirectives language)
    {ls : List (List Char)} (h : FrontMatter.scan ls (cursor ls) = .absent) :
    endOf language ls = some (cursor ls + (directives language ls).length) := by
  rw [endOf_eq, h, directives]
  dsimp only
  rw [skipDirectives_eq hl]

lemma eq_of_endOf {language : Language} (hl : HasLineDirectives language)
    {ls : List (List Char)} (h : FrontMatter.scan ls (cursor ls) = .absent) {k : Nat}
    (hk : endOf language ls = some k) : k = cursor ls + (directives language ls).length := by
  rw [endOf_of_absent hl h] at hk
  exact (Option.some.inj hk).symm

lemma window_isPrefix (language : Language) (start : Nat) (ls : List (List Char)) :
    window language start ls <+: ls.drop start := by
  unfold window
  split
  · exact (List.take_prefix _ _).drop start
  · exact List.prefix_rfl

lemma directives_isPrefix (language : Language) (ls : List (List Char)) :
    directives language ls <+: ls.drop (cursor ls) :=
  (List.takeWhile_prefix _).trans (window_isPrefix language _ ls)

/-- The lines up to the end of the preamble. -/
lemma take_preamble (language : Language) (ls : List (List Char)) :
    ls.take (cursor ls + (directives language ls).length) =
      ls.take (cursor ls) ++ directives language ls := by
  rw [List.take_add, ← List.prefix_iff_eq_take.1 (directives_isPrefix language ls)]

/-- The lines with one more at the end of the preamble. -/
def withLine (language : Language) (ls : List (List Char)) (x : List Char) : List (List Char) :=
  ls.take (cursor ls) ++ (directives language ls ++
    x :: ls.drop (cursor ls + (directives language ls).length))

/-- A line that belongs to no preamble can be put at the end of one. -/
theorem endOf_withLine {language : Language} {ls : List (List Char)} {x : List Char}
    (hl : HasLineDirectives language) (h : FrontMatter.scan ls (cursor ls) = .absent)
    (hx : IsBody language x) :
    endOf language (withLine language ls x) = endOf language ls := by
  have hk := endOf_of_absent hl h
  have hrust : language ≠ .rust := by
    rintro rfl
    rcases hl with hl | hl | hl | hl <;> cases hl
  rw [withLine, ← List.append_assoc, ← take_preamble,
    endOf_take_append hk (fun hr => absurd hr hrust) hx, hk]

section Summary

variable {language : Language} {words : List Char}

lemma newline_notMem_summaryLine (language : Language) (hw : '\n' ∉ words) :
    '\n' ∉ summaryLine language words := by
  have hhead : '\n' ∉ summaryHead language := by cases language <;> decide
  simp [summaryLine, hhead, hw]

lemma summaryLine_ne_nil (language : Language) (words : List Char) :
    summaryLine language words ≠ [] := by
  simp [summaryLine]

lemma isBody_summaryLine (hd : isDirective language (summaryLine language words) = false) :
    IsBody language (summaryLine language words) where
  shown := by cases language <;> rfl
  shebang := by cases language <;> rfl
  delimiter := by
    -- A comment sign is no delimiter.
    have hsign : ∀ c, c = '#' ∨ c = '/' → ∀ cs,
        FrontMatter.delimiters.contains (trimEnd (c :: cs)) = false := by
      rintro c (rfl | rfl) cs <;> rw [trimEnd_cons (by decide)] <;> rfl
    cases language
    case python | ruby => exact hsign '#' (.inl rfl) _
    all_goals exact hsign '/' (.inr rfl) _
  directive := hd

/-- A summary at the end of the preamble leaves the preamble as it was. -/
theorem endOfText_insertLine (hl : HasLineDirectives language) {text ending : List Char} {k : Nat}
    (h : FrontMatter.scan (lines text) (cursor (lines text)) = .absent)
    (hk : endOfText text language = some k) (hw : '\n' ∉ words)
    (hd : isDirective language (summaryLine language words) = false)
    (he : CanEnd k text ending) :
    endOfText (insertLine k (summaryLine language words) ending text) language = some k := by
  obtain ⟨a, a', b, -, ha', -, hdiv, -, hb, hlines⟩ :=
    insertLine_eq (newline_notMem_summaryLine language hw) (summaryLine_ne_nil language words) he
  have hkeq := eq_of_endOf hl h hk
  have hwith : withLine language (lines text) (summaryLine language words) =
      (lines text).take k ++ summaryLine language words :: (lines text).drop k := by
    rw [withLine, hkeq, take_preamble, List.append_assoc]
  have hmap : (lines (a' ++ b)).map trimEnd =
      (withLine language (lines text) (summaryLine language words)).map trimEnd := by
    rw [hdiv.lines_append, List.map_append, hlines, hb, hwith]
    simp
  rw [ha', endOfText, endOf_congr hmap, endOf_withLine hl h (isBody_summaryLine hd)]
  exact hk

end Summary

/-- Whether the line belongs to the header: an interpreter line can only be the first. -/
def isHeaderLine (language : Language) (l : List Char) (index : Nat) : Bool :=
  (index == 0 && isShebang l) || isDirective language l || (summaryHead language).isPrefixOf l

/-- Whether the lines are those of a header. -/
def IsHeader (language : Language) (ls : List (List Char)) : Prop :=
  ∀ p ∈ ls.zipIdx, isHeaderLine language p.1 p.2 = true

section Header

variable {language : Language} {ls : List (List Char)}

lemma ignoresEnd_isHeaderLine (hl : HasLineDirectives language) (index : Nat) :
    IgnoresEnd fun l => isHeaderLine language l index := by
  intro l c hc
  have hhead : trimEnd (summaryHead language) = summaryHead language := by
    rcases hl with rfl | rfl | rfl | rfl <;> decide
  simp only [isHeaderLine, ignoresEnd_isShebang l c hc, ignoresEnd_isDirective language l c hc,
    ignoresEnd_isPrefixOf hhead l c hc]

lemma IsHeader.of_map_trimEnd (hl : HasLineDirectives language) (h : IsHeader language ls)
    {ms : List (List Char)} (hms : ms.map trimEnd = ls.map trimEnd) : IsHeader language ms := by
  have hiff : ∀ ns : List (List Char),
      IsHeader language (ns.map trimEnd) ↔ IsHeader language ns := by
    intro ns
    simp only [IsHeader, List.zipIdx_map, List.forall_mem_map, Prod.map_fst, Prod.map_snd,
      (ignoresEnd_isHeaderLine hl _).trimEnd, id_eq]
  rwa [← hiff, hms, hiff]

/-- A summary line can stand anywhere in a header. -/
lemma IsHeader.concat_summary (h : IsHeader language ls) (words : List Char) :
    IsHeader language (ls ++ [summaryLine language words]) := by
  intro p hp
  rw [List.zipIdx_append] at hp
  rcases List.mem_append.1 hp with hp | hp
  · exact h p hp
  · obtain rfl := List.mem_singleton.1 hp
    simp [isHeaderLine, summaryLine]

lemma endOf_le {k : Nat} (hl : HasLineDirectives language)
    (h : FrontMatter.scan ls (cursor ls) = .absent) (hk : endOf language ls = some k) :
    k ≤ ls.length := by
  have hkeq := eq_of_endOf hl h hk
  have hd := (directives_isPrefix language ls).length_le
  have hc := cursor_le ls
  rw [List.length_drop] at hd
  omega

/-- Where the preamble is empty, only blank space can hide an interpreter line. -/
lemma isShebang_trimStart_of_empty (hl : HasLineDirectives language)
    (h : FrontMatter.scan ls (cursor ls) = .absent) (hk : endOf language ls = some 0) :
    ∀ l ∈ ls.head?, isShebang (trimStart l) = true →
      ∃ x, x ≠ [] ∧ isBlankText x = true ∧ x ++ "#!".toList <+: l := by
  intro l hm hs
  obtain ⟨x, hx, hlx⟩ := exists_eq_append_trimStart l
  refine ⟨x, ?_, hx, ?_⟩
  · rintro rfl
    have hkeq := eq_of_endOf hl h hk
    have hc : cursor ls = 1 := by
      apply if_pos
      rw [Option.any_eq_true]
      exact ⟨l, hm, hlx ▸ hs⟩
    omega
  · rw [isShebang, Bool.and_eq_true, List.isPrefixOf_iff_prefix] at hs
    rw [hlx]
    exact (List.prefix_append_right_inj x).2 hs.1

/-- The preamble is a header where no front matter opens. -/
theorem isHeader_take {k : Nat} (hl : HasLineDirectives language)
    (h : FrontMatter.scan ls (cursor ls) = .absent) (hk : endOf language ls = some k) :
    IsHeader language (ls.take k) := by
  rw [eq_of_endOf hl h hk, take_preamble]
  intro p hp
  rw [List.zipIdx_append] at hp
  rcases List.mem_append.1 hp with hp | hp
  · have hs : p.2 = 0 ∧ isShebang p.1 = true := by
      cases ls with
      | nil => simp at hp
      | cons l ls =>
        by_cases hl : isShebang l = true
        · have hc : cursor (l :: ls) = 1 := if_pos (by simpa using hl)
          rw [hc] at hp
          obtain rfl : p = (l, 0) := by simpa using hp
          exact ⟨rfl, hl⟩
        · have hc : cursor (l :: ls) = 0 := if_neg (by simpa using hl)
          rw [hc] at hp
          simp at hp
    simp [isHeaderLine, hs]
  · have hd : isDirective language p.1 = true :=
      List.mem_takeWhile_imp (List.fst_mem_of_mem_zipIdx hp)
    simp [isHeaderLine, hd]

end Header

end Preamble
end Waymark
