import Waymark.Text.Blank

/-! Lines of a text. A line ends at a newline, with at most one carriage return before it taken
away as well; what follows the last newline is a line only when it is not empty. -/
namespace Waymark
namespace Text

/-- A line together with the characters that end it. -/
structure Line where
  body : List Char
  ending : List Char
  deriving DecidableEq, Repr

namespace Line

/-- The line as it stands in the text. -/
def full (l : Line) : List Char :=
  l.body ++ l.ending

end Line

/-- The lines of a text with their endings; put together again they give the text. -/
def rawLines : List Char → List Line
  | [] => []
  | c :: cs =>
    if c = '\n' then ⟨[], ['\n']⟩ :: rawLines cs
    else
      match rawLines cs with
      | [] => [⟨[c], []⟩]
      | l :: ls =>
        if c = '\r' ∧ l = ⟨[], ['\n']⟩ then ⟨[], ['\r', '\n']⟩ :: ls
        else ⟨c :: l.body, l.ending⟩ :: ls

/-- The lines of a text without their endings. -/
def lines (cs : List Char) : List (List Char) :=
  (rawLines cs).map Line.body

/-- Lines put together, the ending of the last one left out. -/
def joinRaw : List Line → List Char
  | [] => []
  | [l] => l.body
  | l :: ls => l.full ++ joinRaw ls

/-- Lines put together with all their endings. -/
def concat (ls : List Line) : List Char :=
  (ls.map Line.full).flatten

/-- Removes blank space at the end of every line and empty lines at both ends, and joins the rest
with newlines. -/
def normalize (ls : List (List Char)) : List Char :=
  joinWith '\n' (dropEndWhile List.isEmpty ((ls.map trimEnd).dropWhile List.isEmpty))

/-- The number of newlines. -/
def newlines (cs : List Char) : Nat :=
  cs.count '\n'

/-- The part of a text up to and including its last newline. -/
def wholeLines (cs : List Char) : List Char :=
  dropEndWhile (· ≠ '\n') cs

/-- The part of a text after its last newline. -/
def lastLine (cs : List Char) : List Char :=
  (cs.reverse.takeWhile (· ≠ '\n')).reverse

end Text
end Waymark
