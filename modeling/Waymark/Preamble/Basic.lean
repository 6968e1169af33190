import Waymark.Preamble.Attribute
import Waymark.Preamble.FrontMatter
import Waymark.Text.Lines

/-! The preamble of a file: the lines at its head that must stay there. -/
namespace Waymark
namespace Preamble

open Text

/-- The first index from `start` on whose line does not satisfy `p`, or the number of lines. -/
def runEnd (p : List Char → Bool) (lines : List (List Char)) (start : Nat) : Nat :=
  start + ((lines.drop start).takeWhile p).length

/-- An encoding declaration counts only on the first lines of a Python file. -/
def encodingLines : Nat :=
  2

/-- Build constraints, and the one blank line that sets them off. -/
def buildTagLines (lines : List (List Char)) : Nat :=
  let n := (lines.takeWhile isBuildTag).length
  if 0 < n ∧ (lines[n]?).any isBlankText then n + 1 else n

/-- The index of the first line from `start` on that is no directive of the language. -/
def skipDirectives (language : Language) (lines : List (List Char)) (start : Nat) : Nat :=
  match language with
  | .rust => start + attributeLines none (lines.drop start)
  | .go => start + buildTagLines (lines.drop start)
  | .python => runEnd isEncoding (lines.take encodingLines) start
  | l => runEnd (isDirective l) lines start

/-- The number of lines in the preamble: an interpreter line, front matter, then directives.
There is none when front matter is never closed. -/
def endOf (language : Language) (lines : List (List Char)) : Option Nat :=
  let cursor := if lines.head?.any isShebang then 1 else 0
  match FrontMatter.scan lines cursor with
  | .absent => some (skipDirectives language lines cursor)
  | .closed next => some (skipDirectives language lines next)
  | .unterminated => none

/-- The preamble of a text. -/
def endOfText (text : List Char) (language : Language) : Option Nat :=
  endOf language (lines text)

end Preamble
end Waymark
