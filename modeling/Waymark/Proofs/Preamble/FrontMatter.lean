import Waymark.Grammar.Inline
import Waymark.Proofs.Preamble.Stop

/-! Front matter is passed over whatever its lines say. Only the delimiter that opened it closes it.
Below the closing line directives are read as at the head of a file, but an encoding declaration of
Python comes too late there. -/
namespace Waymark
namespace FrontMatter

open Text Preamble

/-- Below a delimiter the next equal one decides. -/
lemma scan_of_drop {ls ds : List (List Char)} {start : Nat} {d : List Char}
    (h : ls.drop start = d :: ds) (hd : trimEnd d ∈ delimiters) :
    scan ls start =
      (ds.findIdx? fun l => trimEnd l == trimEnd d).elim .unterminated
        fun i => .closed (start + 1 + i + 1) := by
  have hmap : (ds.map trimEnd).findIdx? (· == trimEnd d) =
      ds.findIdx? fun l => trimEnd l == trimEnd d := List.findIdx?_map
  rw [scan, h, List.map_cons]
  dsimp only
  rw [if_pos (List.contains_iff_mem.2 hd), hmap]
  cases ds.findIdx? fun l => trimEnd l == trimEnd d <;> rfl

/-- The head of a file in which front matter is open: an interpreter line if there is one, a
delimiter, and lines below it that are not the same delimiter. -/
structure Opened where
  interpreter : Option (List Char)
  opening : List Char
  body : List (List Char)
  shebang : ∀ l ∈ interpreter, isShebang l = true
  delimiter : trimEnd opening ∈ delimiters
  isOpen : ∀ l ∈ body, trimEnd l ≠ trimEnd opening

namespace Opened

variable (o : Opened)

/-- The lines of the head, from the first line of the file on. -/
def lines : List (List Char) :=
  o.interpreter.toList ++ o.opening :: o.body

/-- Whether a line closes the front matter. -/
def Closes (l : List Char) : Prop :=
  trimEnd l = trimEnd o.opening

lemma isShebang_opening : isShebang o.opening = false := by
  have hall : ∀ d ∈ delimiters, isShebang d = false := by decide
  rw [← ignoresEnd_isShebang.trimEnd]
  exact hall _ o.delimiter

lemma cursor_lines_append (rest : List (List Char)) :
    cursor (o.lines ++ rest) = o.interpreter.toList.length := by
  cases hi : o.interpreter with
  | none => simp [cursor, lines, hi, o.isShebang_opening]
  | some l => simp [cursor, lines, hi, o.shebang l hi]

lemma drop_cursor (rest : List (List Char)) :
    (o.lines ++ rest).drop (cursor (o.lines ++ rest)) = o.opening :: (o.body ++ rest) := by
  rw [cursor_lines_append, lines, List.append_assoc, List.drop_left, List.cons_append]

lemma cursor_add_length (rest : List (List Char)) :
    cursor (o.lines ++ rest) + 1 + o.body.length = o.lines.length := by
  rw [cursor_lines_append, lines, List.length_append, List.length_cons]
  omega

/-- No line of the head closes what it has opened. -/
lemma findIdx?_body : o.body.findIdx? (fun l => trimEnd l == trimEnd o.opening) = none := by
  rw [List.findIdx?_eq_none_iff]
  intro l hl
  simpa using o.isOpen l hl

/-- The line that closes the front matter is found at its place. -/
lemma directivesStart?_of_closes {l : List Char} (hl : o.Closes l) (tail : List (List Char)) :
    directivesStart? (o.lines ++ l :: tail) = some (o.lines.length + 1) := by
  have hfind : (o.body ++ l :: tail).findIdx? (fun l => trimEnd l == trimEnd o.opening) =
      some o.body.length := by
    have heq : (trimEnd l == trimEnd o.opening) = true := by simpa [Closes] using hl
    rw [List.findIdx?_append, o.findIdx?_body, List.findIdx?_cons, if_pos heq]
    simp
  rw [directivesStart?, scan_of_drop (o.drop_cursor _) o.delimiter, hfind, Option.elim_some,
    o.cursor_add_length]

lemma directivesStart?_lines : directivesStart? o.lines = none := by
  have hdrop := o.drop_cursor []
  rw [List.append_nil, List.append_nil] at hdrop
  rw [directivesStart?, scan_of_drop hdrop o.delimiter, o.findIdx?_body, Option.elim_none]

end Opened
end FrontMatter

namespace Preamble

open Text

/-- Directives are read alike wherever they begin, except for encoding declarations of Python. -/
lemma skipDirectives_append {language : Language} (h : language ≠ .python)
    (before tail : List (List Char)) :
    skipDirectives language (before ++ tail) before.length =
      before.length + skipDirectives language tail 0 := by
  have hstart : ∀ start, directiveLines language start tail = directiveLines language 0 tail := by
    intro start
    cases language with
    | python => exact absurd rfl h
    | _ => rfl
  rw [skipDirectives_eq_add, skipDirectives_eq_add, List.drop_left, List.drop_zero, hstart]
  omega

/-- Below the lines on which it counts no encoding declaration is passed over. -/
lemma skipDirectives_python {start : Nat} (h : encodingLines ≤ start) (ls : List (List Char)) :
    skipDirectives .python ls start = start := by
  rw [skipDirectives_eq_add, directiveLines, Nat.sub_eq_zero_of_le h]
  rfl

/-- Without a summary in the text, front matter that is never closed is what refuses an
insertion. -/
lemma find_of_endOfText_eq_none {g : Grammar} {language : Language} {source file : String}
    (hg : g.containsMarker source file summaryMarker = .ok false)
    (h : endOfText source.toList language = none) :
    InsertionPoint.find g (some language) source file = .refused .unterminatedFrontMatter := by
  simp only [InsertionPoint.find, hg, h]

/-- The preamble of a file with front matter ends below the line that closes it and the directives
that follow, which are those at the head of the remaining lines; in Python it ends at the closing
line. Without a closing line there is no preamble, and no summary can be inserted. -/
theorem endOfText_frontMatter (o : FrontMatter.Opened) (language : Language) (source : String) :
    (∀ closing tail, o.Closes closing → lines source.toList = o.lines ++ closing :: tail →
      endOfText source.toList language = some (o.lines.length + 1 +
        if language = .python then 0 else skipDirectives language tail 0)) ∧
    (lines source.toList = o.lines → endOfText source.toList language = none ∧
      ∀ (g : Grammar) file, g.containsMarker source file summaryMarker = .ok false →
        InsertionPoint.find g (some language) source file =
          .refused .unterminatedFrontMatter) := by
  constructor
  · intro closing tail hclosing hlines
    have hlength : (o.lines ++ [closing]).length = o.lines.length + 1 := by simp
    rw [endOfText, hlines, endOf_eq_map, o.directivesStart?_of_closes hclosing, Option.map_some]
    by_cases hpython : language = .python
    · -- The two delimiters alone fill the lines on which a declaration counts.
      subst hpython
      have htwo : encodingLines ≤ o.lines.length + 1 := by
        have := o.cursor_add_length []
        rw [encodingLines]
        omega
      rw [if_pos rfl, skipDirectives_python htwo, Nat.add_zero]
    · rw [if_neg hpython, List.append_cons, ← hlength, skipDirectives_append hpython]
  · intro hlines
    have hnone : endOfText source.toList language = none := by
      rw [endOfText, hlines, endOf_eq_map, o.directivesStart?_lines, Option.map_none]
    exact ⟨hnone, fun g file hg => find_of_endOfText_eq_none hg hnone⟩

/-- The other delimiter, an attribute and an interpreter line inside the front matter do not count,
and the attribute below it takes up two lines. Without the lines from the closing one on, nothing
can be inserted. -/
theorem endOfText_frontMatter_mixed :
    let head := "#!/x\n+++ \n---\n#![a]\n#!/y\n"
    let source := head ++ "+++\t\n#![b(\n\"]\")]\nmod c;\n"
    endOfText source.toList .rust = some 8 ∧ endOfText source.toList .python = some 6 ∧
      endOfText head.toList .rust = none ∧
      InsertionPoint.find Inline.grammar (some .rust) head "c.rs" =
        .refused .unterminatedFrontMatter := by
  intro head source
  let o : FrontMatter.Opened :=
    { interpreter := some "#!/x".toList
      opening := "+++ ".toList
      body := ["---".toList, "#![a]".toList, "#!/y".toList]
      shebang := by decide
      delimiter := by decide
      isOpen := by decide }
  have hclosed : lines source.toList = o.lines ++ "+++\t".toList ::
      ["#![b(".toList, "\"]\")]".toList, "mod c;".toList] := by
    decide +kernel
  have hopen : lines head.toList = o.lines := by decide +kernel
  have hcloses : o.Closes "+++\t".toList := by
    unfold FrontMatter.Opened.Closes
    decide
  have hnone := (endOfText_frontMatter o .rust head).2 hopen
  have hsummary : Inline.grammar.containsMarker head "c.rs" summaryMarker = .ok false := by
    decide +kernel
  refine ⟨?_, ?_, hnone.1, hnone.2 _ _ hsummary⟩
  · rw [(endOfText_frontMatter o .rust source).1 _ _ hcloses hclosed]
    decide +kernel
  · exact (endOfText_frontMatter o .python source).1 _ _ hcloses hclosed

end Preamble
end Waymark
