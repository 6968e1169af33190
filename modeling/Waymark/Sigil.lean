import Waymark.Text.Search

/-! The sigil that tells a waymark from prose, and the marker of a file summary. -/
namespace Waymark

def sigil : String :=
  ":::"

/-- The marker of the waymark that summarizes its file. -/
def summaryMarker : String :=
  "tldr"

/-- Whether a comment line is a waymark rather than prose. -/
def isWaymarkLine (line : List Char) : Bool :=
  Text.contains sigil.toList line

end Waymark
