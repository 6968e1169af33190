import Waymark.Doc.Basic
import Waymark.Text.Offset
import Waymark.Text.Search

/-! Docstrings: triple-quoted Python literals that document the module or the definition whose
header they follow. -/
namespace Waymark
namespace Doc
namespace Literal

open Text

/-- The opening of a triple-quoted literal: the letter before the quotes, if any, the quotes, and
what follows them. -/
structure Opening where
  letter : List Char
  quotes : List Char
  tail : List Char
  deriving DecidableEq, Repr

/-- Letters that may stand before the quotes of a docstring. -/
def letters : List Char :=
  ['r', 'R', 'u', 'U']

def quoteStyles : List (List Char) :=
  ["\"\"\"".toList, "'''".toList]

/-- The triple-quoted literal that opens the text. -/
def opening? (cs : List Char) : Option Opening :=
  let letter := (cs.take 1).filter letters.contains
  let rest := cs.drop letter.length
  (quoteStyles.find? fun q => q.isPrefixOf rest).map fun q => ⟨letter, q, rest.drop q.length⟩

/-- Whether a line holds code: it is neither blank nor a comment as a whole. -/
def isCode (line : List Char) : Bool :=
  match trim line with
  | [] | '#' :: _ => false
  | _ => true

/-- The last of the lines that holds code. -/
def lastCode? (before : List (List Char)) : Option (List Char) :=
  before.reverse.find? isCode

/-- Cuts a line at the `#` of a comment. `quote` is the quotation mark of the string that is open,
and `escaped` tells whether a backslash came just before. -/
def stripCommentFrom (quote : Option Char) (escaped : Bool) : List Char → List Char
  | [] => []
  | c :: cs =>
    match quote with
    | some q =>
      if escaped then c :: stripCommentFrom quote false cs
      else if c = '\\' then c :: stripCommentFrom quote true cs
      else if c = q then c :: stripCommentFrom none false cs
      else c :: stripCommentFrom quote false cs
    | none =>
      if c = '"' ∨ c = '\'' then c :: stripCommentFrom (some c) false cs
      else if c = '#' then []
      else c :: stripCommentFrom none false cs

/-- A line without its comment; a `#` inside a string begins none. -/
def stripComment (line : List Char) : List Char :=
  stripCommentFrom none false line

/-- Whether a line ends the header of a definition. -/
def endsHeader (line : List Char) : Bool :=
  (trimEnd (stripComment line)).getLast? == some ':'

def isImport (t : List Char) : Bool :=
  "import ".toList.isPrefixOf t || ("from ".toList.isPrefixOf t && contains " import".toList t)

/-- Whether the lines hold only blank lines, comments and imports. The flag tells whether the
parenthesis of an import is open. -/
def isPreambleFrom : Bool → List (List Char) → Bool
  | _, [] => true
  | true, l :: ls => isPreambleFrom (!l.contains ')') ls
  | false, l :: ls =>
    let t := trim l
    if !isCode l then isPreambleFrom false ls
    else isImport t && isPreambleFrom (t.contains '(' && !t.contains ')') ls

def isPreamble (before : List (List Char)) : Bool :=
  isPreambleFrom false before

/-- The number of bytes that indent a line. -/
def indentation (line : List Char) : Nat :=
  size (line.takeWhile isBlank)

/-- Removes bytes from the head of a line; a cut inside a character leaves nothing. -/
def dropBytes (n : Nat) (line : List Char) : List Char :=
  ((splitAt line n).map Prod.snd).getD []

/-- The smallest indentation of a line that is not blank. -/
def commonIndentation (ls : List (List Char)) : Nat :=
  (((ls.filter fun l => !isBlankText l).map indentation).min?).getD 0

/-- The content of a literal: its first line is trimmed, and the others lose the indentation that
they share. -/
def strip (body : List Char) : List Char :=
  match lines body with
  | [] => []
  | first :: rest => normalize (trim first :: rest.map (dropBytes (commonIndentation rest)))

/-- The place of a docstring: the lines before it, its opening, and the text from there on. -/
structure Site where
  before : List (List Char)
  opening : Opening
  rest : List Char
  deriving DecidableEq, Repr

namespace Site

/-- A docstring of the module stands at column zero after the preamble. -/
def atModuleLevel (before : List (List Char)) (line : List Char) : Bool :=
  line.head?.all (fun c => !isBlank c) && isPreamble before

/-- A docstring of a definition is the first statement after its header. -/
def afterHeader (before : List (List Char)) : Bool :=
  (lastCode? before).any endsHeader

def kind (before : List (List Char)) (line : List Char) : Kind :=
  if atModuleLevel before line && !(lastCode? before).any Language.python.isOwnerLine then .file
  else .function

end Site

/-- The first line, of those that `before` precedes, on which a docstring opens. -/
def findFrom (before : List (List Char)) : List Line → Option (Site × Kind)
  | [] => none
  | l :: ls =>
    match opening? (trimStart l.body) with
    | some o =>
      if Site.atModuleLevel before l.body || Site.afterHeader before then
        some (⟨before, o, o.tail ++ l.ending ++ concat ls⟩, Site.kind before l.body)
      else findFrom (before ++ [l.body]) ls
    | none => findFrom (before ++ [l.body]) ls

/-- The docstring of a text. One that is never closed takes the rest of the text with it. -/
def extract (text : List Char) : Option Comment :=
  match findFrom [] (rawLines text) with
  | none => none
  | some (site, kind) =>
    match cut site.opening.quotes site.rest with
    | none => none
    | some (body, _) =>
      let o := site.opening
      let startLine := site.before.length + 1
      some
        { language := .python
          kind := kind
          format := .python
          raw := o.letter ++ o.quotes ++ body ++ o.quotes
          content := strip body
          startLine := startLine
          endLine := startLine + newlines body }

end Literal
end Doc
end Waymark
