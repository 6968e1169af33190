import Waymark.Text.Hex

/-! The characters of YAML text, and positions in it. -/
namespace Waymark
namespace Yaml

/-- Why a text is no YAML document. -/
inductive Fault where
  | controlCharacter
  | unexpectedCharacter
  | badDirective
  | badName
  | badTag
  | badEscape
  | unclosedScalar
  | documentMarkInScalar
  | tabInIndentation
  | badBlockHeader
  | missingColon
  | misplacedEntry
  | misplacedKey
  | misplacedValue
  | missingNode
  | missingEntry
  | missingKey
  | missingDocumentStart
  | unknownTagHandle
  | unknownAnchor
  | furtherDocument
  deriving DecidableEq, Repr

def Fault.message : Fault → String
  | controlCharacter => "control characters are not allowed"
  | unexpectedCharacter => "found character that cannot start any token"
  | badDirective => "found a directive that is not understood"
  | badName => "did not find expected alphabetic or numeric character"
  | badTag => "did not find expected tag"
  | badEscape => "found unknown escape character"
  | unclosedScalar => "found unexpected end of stream"
  | documentMarkInScalar => "found unexpected document indicator"
  | tabInIndentation => "found a tab character where an indentation space is expected"
  | badBlockHeader => "did not find expected comment or line break"
  | missingColon => "could not find expected ':'"
  | misplacedEntry => "block sequence entries are not allowed in this context"
  | misplacedKey => "mapping keys are not allowed in this context"
  | misplacedValue => "mapping values are not allowed in this context"
  | missingNode => "did not find expected node content"
  | missingEntry => "did not find expected ',' or the end of the collection"
  | missingKey => "did not find expected key"
  | missingDocumentStart => "did not find expected document start"
  | unknownTagHandle => "found undefined tag handle"
  | unknownAnchor => "unknown anchor"
  | furtherDocument => "more than one document"

/-- The characters that may stand in a text. -/
def isAllowed (c : Char) : Bool :=
  let n := c.toNat
  n == 0x9 || n == 0xA || n == 0xD || (0x20 ≤ n && n ≤ 0x7E) || n == 0x85 ||
    (0xA0 ≤ n && n ≤ 0xFFFD) || 0x10000 ≤ n

def byteOrderMark : Char :=
  '\ufeff'

/-- Turns every line ending of one or two characters into a newline; the line and paragraph
separators stay as they are. -/
def unifyBreaks : List Char → List Char
  | [] => []
  | '\r' :: '\n' :: cs => '\n' :: unifyBreaks cs
  | c :: cs => (if c == '\r' || c == '\u0085' then '\n' else c) :: unifyBreaks cs

/-- The characters that end a line once line endings are unified. -/
def isBreak (c : Char) : Bool :=
  c == '\n' || c == '\u2028' || c == '\u2029'

def isSpace (c : Char) : Bool :=
  c == ' ' || c == '\t'

def isGap (c : Char) : Bool :=
  isSpace c || isBreak c

/-- The characters of names of anchors, directives and tag handles. -/
def isNameChar (c : Char) : Bool :=
  c.isAlphanum || c == '_' || c == '-'

def isFlowMark (c : Char) : Bool :=
  c == ',' || c == '[' || c == ']' || c == '{' || c == '}'

/-- Whether a text ends or goes on with a space or a line break. -/
def opensGap (cs : List Char) : Bool :=
  cs.head?.all isGap

/-- Whether a text goes on with a line break or ends. -/
def opensBreak (cs : List Char) : Bool :=
  cs.head?.all isBreak

def isDocumentStart (cs : List Char) : Bool :=
  "---".toList.isPrefixOf cs && opensGap (cs.drop 3)

def isDocumentEnd (cs : List Char) : Bool :=
  "...".toList.isPrefixOf cs && opensGap (cs.drop 3)

/-- Whether a line opens with a mark between documents. -/
def isDocumentMark (cs : List Char) : Bool :=
  isDocumentStart cs || isDocumentEnd cs

/-- The text that is still to be read, and its line and column, both counted from zero. -/
structure Cursor where
  rest : List Char
  line : Nat
  column : Nat
  deriving DecidableEq, Repr

namespace Cursor

/-- The start of a text. A byte order mark takes up the first column. -/
def ofText : List Char → Cursor
  | [] => ⟨[], 0, 0⟩
  | c :: cs => if c == byteOrderMark then ⟨cs, 0, 1⟩ else ⟨c :: cs, 0, 0⟩

/-- Moves on within a line to a later rest of the text. -/
def moveTo (k : Cursor) (rest : List Char) : Cursor :=
  ⟨rest, k.line, k.column + (k.rest.length - rest.length)⟩

/-- Moves on by a number of characters within a line. -/
def skip (k : Cursor) (n : Nat) : Cursor :=
  k.moveTo (k.rest.drop n)

end Cursor
end Yaml
end Waymark
