import Waymark.Doc.Basic
import Waymark.Preamble.Directive
import Waymark.Sigil

/-! Doc comments made of lines that begin with `#`, as Ruby writes them. -/
namespace Waymark
namespace Doc
namespace Hash

open Text

/-- A line and its index in the text. -/
abbrev Numbered := Line × Nat

/-- An interpreter line, which only the first line can be. -/
def isShebangAt (index : Nat) (t : List Char) : Bool :=
  index == 0 && Preamble.isShebang t

/-- Whether the line is part of a doc comment. -/
def isDoc : Numbered → Bool
  | (l, index) =>
    let t := trimStart l.body
    ['#'].isPrefixOf t && !isShebangAt index t && !Preamble.isMagicComment t && !isWaymarkLine t

/-- Whether the line may stand before a comment that documents its file. -/
def isPreamble : Numbered → Bool
  | (l, index) =>
    let t := trim l.body
    t.isEmpty || isShebangAt index t || Preamble.isMagicComment t || isWaymarkLine t

/-- A line of the comment without the mark in front of it. -/
def undecorate (line : List Char) : List Char :=
  dropSpace ((trimStart line).drop 1)

def extract (text : List Char) : Option Comment :=
  let (before, rest) := (rawLines text).zipIdx.span fun l => !isDoc l
  let (block, after) := rest.span isDoc
  if block.isEmpty then none
  else
    let owned := after.head?.any fun l => Language.ruby.isOwnerLine l.1.body
    some
      { language := .ruby
        kind := if before.all isPreamble && !owned then .file else .function
        format := .ruby
        raw := joinRaw (block.map Prod.fst)
        content := normalize (block.map fun l => undecorate l.1.body)
        startLine := before.length + 1
        endLine := before.length + block.length }

end Hash
end Doc
end Waymark
