import Waymark.Doc.Block
import Waymark.Doc.Hash
import Waymark.Doc.Literal
import Waymark.Doc.Slash

/-! The first doc comment of a text, in the form that its language uses. -/
namespace Waymark
namespace Doc

def extract (language : Language) (text : List Char) : Option Comment :=
  match language with
  | .javascript | .typescript => Block.extract language text
  | .python => Literal.extract text
  | .ruby => Hash.extract text
  | .rust => Slash.extract text
  | .go | .markdown | .shell => none

end Doc
end Waymark
