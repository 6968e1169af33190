import Waymark.Preamble.Attribute
import Waymark.Proofs.Preamble.Directive

/-! Inner attributes: the bracket scan does not look at blank space at the end of a line, and lines
on which all attributes are closed decide where they end. -/
namespace Waymark
namespace Preamble

open Text

namespace BracketScan

/-- Blank characters are no brackets and belong to no literal. -/
lemma ne_of_isBlank {c : Char} (h : isBlank c = true) :
    c ≠ '\\' ∧ c ≠ '"' ∧ c ≠ '\'' ∧ c ≠ '[' ∧ c ≠ ']' := by
  refine ⟨?_, ?_, ?_, ?_, ?_⟩ <;> rintro rfl <;> cases h

/-- Only a quote at the end could close a character literal. -/
lemma literalTail_concat {c : Char} (hc : isBlank c = true) (l : List Char) :
    literalTail (l ++ [c]) = literalTail l := by
  obtain ⟨hback, -, hquote, -⟩ := ne_of_isBlank hc
  match l with
  | [] => simp [literalTail, hback]
  | [d] => by_cases hd : d = '\\' <;> simp [literalTail, hd, hquote]
  | d :: e :: l =>
    by_cases hd : d = '\\'
    · have hfind : (l ++ [c]).findIdx? (· == '\'') = l.findIdx? (· == '\'') := by
        simp [List.findIdx?_append, hquote]
      simp [literalTail, hd, hfind]
    · by_cases he : e = '\'' <;> simp [literalTail, hd, he]

lemma feedFrom_concat {c : Char} (hc : isBlank c = true) (skip : Nat) (s : BracketScan)
    (l : List Char) : feedFrom skip s (l ++ [c]) = feedFrom skip s l := by
  fun_induction feedFrom skip s l with
  | case1 skip s =>
    obtain ⟨hback, hstring, hquote, hopen, hclose⟩ := ne_of_isBlank hc
    obtain ⟨depth, inString⟩ := s
    cases skip <;> cases inString <;>
      simp [feedFrom, hback, hstring, hquote, hopen, hclose]
  | case2 => simp_all [feedFrom]
  | case3 => simp_all [feedFrom]
  | case4 => simp_all [feedFrom]
  | case5 => simp_all [feedFrom]
  | case6 => simp_all [feedFrom, literalTail_concat hc]
  | case7 => simp_all [feedFrom]
  | case8 => simp_all [feedFrom]
  | case9 => simp_all [feedFrom]

lemma ignoresEnd_feed (s t : BracketScan) : IgnoresEnd fun l => s.feed l == t := by
  intro l c hc
  simp only [feed, feedFrom_concat hc]

lemma feed_trimEnd (s : BracketScan) (l : List Char) : s.feed (trimEnd l) = s.feed l := by
  simpa using (ignoresEnd_feed s (s.feed l)).trimEnd l

end BracketScan

lemma attributeLines_map_trimEnd (scan : Option BracketScan) (ls : List (List Char)) :
    attributeLines scan (ls.map trimEnd) = attributeLines scan ls := by
  induction ls generalizing scan with
  | nil => rfl
  | cons l ls ih =>
    cases scan with
    | none =>
      simp only [List.map_cons, attributeLines, ignoresEnd_isInnerAttribute.trimEnd,
        BracketScan.feed_trimEnd, ih]
    | some s => simp only [List.map_cons, attributeLines, BracketScan.feed_trimEnd, ih]

lemma attributeLines_le (scan : Option BracketScan) (ls : List (List Char)) :
    attributeLines scan ls ≤ ls.length := by
  fun_induction attributeLines scan ls with
  | case1 => exact Nat.zero_le _
  | case2 s l ls ih => exact Nat.succ_le_succ ih
  | case3 l ls h ih => exact Nat.succ_le_succ ih
  | case4 => exact Nat.zero_le _

/-- Where a line is left over, the attributes above it are closed, so that another line that opens
none can take its place and anything can follow. -/
lemma attributeLines_take_append {scan : Option BracketScan} {ls : List (List Char)}
    (h : attributeLines scan ls < ls.length) {x : List Char} (hx : isInnerAttribute x = false)
    (rest : List (List Char)) :
    attributeLines scan (ls.take (attributeLines scan ls) ++ x :: rest) =
      attributeLines scan ls := by
  fun_induction attributeLines scan ls with
  | case1 => simp at h
  | case2 s l ls ih =>
    have hlt := Nat.lt_of_succ_lt_succ h
    simp [attributeLines, ih hlt]
  | case3 l ls hl ih =>
    have hlt := Nat.lt_of_succ_lt_succ h
    simp [attributeLines, hl, ih hlt]
  | case4 => simp [attributeLines, hx]

end Preamble
end Waymark
