import Waymark.Language
import Waymark.Text.Lines

/-! Doc comments: their formats, the summary of a comment, and the decoration of plain content. -/
namespace Waymark
namespace Doc

/-- What a doc comment documents. -/
inductive Kind where
  | file
  | function
  deriving DecidableEq, Repr

def Kind.name : Kind → String
  | file => "file"
  | function => "function"

/-- The comment form of a doc comment. -/
inductive Format where
  | jsdoc
  | python
  | ruby
  | rustOuter
  | rustInner
  deriving DecidableEq, Repr

namespace Format

open Text

def all : List Format :=
  [jsdoc, python, ruby, rustOuter, rustInner]

def name : Format → String
  | jsdoc => "jsdoc"
  | python => "python"
  | ruby => "ruby"
  | rustOuter => "rust-outer"
  | rustInner => "rust-inner"

def ofName? (s : String) : Option Format :=
  all.find? fun f => f.name == s

/-- Whether a line of content opens a tag section, which ends the summary. Python also has field
lists such as `:param x:`. -/
def isTagLine (f : Format) (line : List Char) : Bool :=
  match trimStart line with
  | '@' :: _ => true
  | ':' :: rest => f = .python && rest.head?.any Char.isAlpha
  | _ => false

/-- A content line behind a marker; an empty line is the marker alone. -/
def decorate (marker line : List Char) : List Char :=
  if line.isEmpty then marker else marker ++ ' ' :: line

/-- Puts plain content into a comment that starts at column zero. -/
def wrap (f : Format) (content : List Char) : List Char :=
  let ls := lines content
  match f with
  | jsdoc =>
    "/**\n".toList ++ (ls.flatMap fun l => decorate " *".toList l ++ ['\n']) ++ " */".toList
  | python =>
    let quotes := "\"\"\"".toList
    quotes ++ content ++ (if ls.length ≤ 1 then [] else ['\n']) ++ quotes
  | ruby => joinWith '\n' (ls.map (decorate ['#']))
  | rustOuter => joinWith '\n' (ls.map (decorate "///".toList))
  | rustInner => joinWith '\n' (ls.map (decorate "//!".toList))

/-- The first paragraph of the content on one line, cut off at a tag line. -/
def summarize (f : Format) (content : List Char) : List Char :=
  let paragraph := ((lines content).map trim).dropWhile List.isEmpty
  joinWith ' ' (paragraph.takeWhile fun l => !l.isEmpty && !f.isTagLine l)

end Format

/-- A doc comment found in a text. -/
structure Comment where
  language : Language
  kind : Kind
  format : Format
  /-- The comment as it stands in the text. -/
  raw : List Char
  /-- The comment without its decoration. -/
  content : List Char
  startLine : Nat
  endLine : Nat
  deriving DecidableEq, Repr

namespace Comment

def summary (d : Comment) : List Char :=
  d.format.summarize d.content

end Comment

/-- Removes a single space at the head of the text. -/
def dropSpace : List Char → List Char
  | ' ' :: rest => rest
  | cs => cs

end Doc
end Waymark
