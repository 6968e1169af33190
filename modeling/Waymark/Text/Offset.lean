import Waymark.Text.Lines

/-! Positions in a text counted in bytes of its UTF-8 form, and the lines they fall on. -/
namespace Waymark
namespace Text

/-- The number of bytes of a text. -/
def size : List Char → Nat
  | [] => 0
  | c :: cs => c.utf8Size + size cs

/-- Divides a text at a byte offset; an offset past the end counts as the end, and one inside a
character has no answer. -/
def splitAt : List Char → Nat → Option (List Char × List Char)
  | cs, 0 => some ([], cs)
  | [], _ + 1 => some ([], [])
  | c :: cs, n + 1 =>
    if n + 1 < c.utf8Size then none
    else (splitAt cs (n + 1 - c.utf8Size)).map fun (before, after) => (c :: before, after)

/-- The number, from one, of the line that holds the byte at `offset`. -/
def lineAt : List Char → Nat → Nat
  | [], _ => 1
  | _ :: _, 0 => 1
  | c :: cs, n + 1 => lineAt cs (n + 1 - c.utf8Size) + if c = '\n' then 1 else 0

/-- The offset at which the line that holds `offset` begins. -/
def lineStart (cs : List Char) (offset : Nat) : Option Nat :=
  (splitAt cs offset).map fun (before, _) => size (wholeLines before)

/-- The offset of the newline that ends the line which holds `offset`, or the end of the text. -/
def lineEnd (cs : List Char) (offset : Nat) : Option Nat :=
  (splitAt cs offset).map fun (before, after) =>
    if '\n' ∈ after then size before + size (after.takeWhile (· ≠ '\n')) else size cs

/-- The spans of all lines in bytes, endings left out. `start` is where the current line begins,
`pos` the offset reached, and `cr` tells whether the character before is a carriage return of the
same line. -/
def spansFrom (start pos : Nat) (cr : Bool) : List Char → List (Nat × Nat)
  | [] => if start < pos then [(start, pos)] else []
  | c :: cs =>
    if c = '\n' then
      (start, if cr then pos - 1 else pos) :: spansFrom (pos + 1) (pos + 1) false cs
    else spansFrom start (pos + c.utf8Size) (c = '\r') cs

def lineSpans (cs : List Char) : List (Nat × Nat) :=
  spansFrom 0 0 false cs

/-- The text between two byte offsets that do not divide a character. -/
def slice (cs : List Char) (first last : Nat) : Option (List Char) :=
  match splitAt cs first with
  | none => none
  | some (_, rest) => (splitAt rest (last - first)).map Prod.fst

end Text
end Waymark
