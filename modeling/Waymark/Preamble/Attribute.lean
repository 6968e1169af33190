import Waymark.Preamble.Directive

/-! Rust inner attributes, which may run over several lines: a scan of their brackets that passes
over string and character literals. -/
namespace Waymark
namespace Preamble

/-- How far an attribute has been read: the brackets still open, and whether a string is. -/
structure BracketScan where
  /-- Closing brackets in excess count below zero. The number has no bounds; a counter of 32 bits
  would differ from it only past 2 ^ 31 open brackets. -/
  depth : Int
  inString : Bool
  deriving DecidableEq, Repr

namespace BracketScan

def start : BracketScan :=
  ⟨0, false⟩

/-- How many characters after an opening single quote belong to a character literal. A quote that
opens none, such as that of a lifetime, stands alone. -/
def literalTail : List Char → Nat
  | '\\' :: rest =>
    match (rest.drop 1).findIdx? (· == '\'') with
    | some i => i + 3
    | none => 0
  | _ :: '\'' :: _ => 2
  | _ => 0

/-- Reads one line; `skip` characters are passed over first. -/
def feedFrom : Nat → BracketScan → List Char → BracketScan
  | _, s, [] => s
  | skip + 1, s, _ :: cs => feedFrom skip s cs
  | 0, ⟨depth, true⟩, c :: cs =>
    if c = '\\' then feedFrom 1 ⟨depth, true⟩ cs
    else feedFrom 0 ⟨depth, c != '"'⟩ cs
  | 0, ⟨depth, false⟩, c :: cs =>
    if c = '"' then feedFrom 0 ⟨depth, true⟩ cs
    else if c = '\'' then feedFrom (literalTail cs) ⟨depth, false⟩ cs
    else if c = '[' then feedFrom 0 ⟨depth + 1, false⟩ cs
    else if c = ']' then feedFrom 0 ⟨depth - 1, false⟩ cs
    else feedFrom 0 ⟨depth, false⟩ cs

def feed (s : BracketScan) (line : List Char) : BracketScan :=
  feedFrom 0 s line

/-- The scan to go on with, unless every bracket is closed. -/
def unfinished? (s : BracketScan) : Option BracketScan :=
  if s.depth ≤ 0 then none else some s

end BracketScan

/-- The number of leading lines that inner attributes take up. The first argument is the scan of
an attribute that began on an earlier line. -/
def attributeLines : Option BracketScan → List (List Char) → Nat
  | _, [] => 0
  | some s, l :: ls => attributeLines (s.feed l).unfinished? ls + 1
  | none, l :: ls =>
    if isInnerAttribute l then attributeLines (BracketScan.start.feed l).unfinished? ls + 1 else 0

end Preamble
end Waymark
