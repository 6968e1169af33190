import Waymark.Text.Blank

/-! Front matter: a block of metadata between two equal delimiter lines. -/
namespace Waymark

inductive FrontMatter where
  | absent
  | closed (next : Nat)
  | unterminated
  deriving DecidableEq, Repr

namespace FrontMatter

/-- Lines that open front matter; the same line closes it. -/
def delimiters : List (List Char) :=
  ["---".toList, "+++".toList]

/-- The front matter that opens at line `start`, lines counted from zero. -/
def scan (lines : List (List Char)) (start : Nat) : FrontMatter :=
  match (lines.drop start).map Text.trimEnd with
  | [] => absent
  | d :: rest =>
    if delimiters.contains d then
      match rest.findIdx? (· == d) with
      | some i => closed (start + 1 + i + 1)
      | none => unterminated
    else absent

end FrontMatter
end Waymark
