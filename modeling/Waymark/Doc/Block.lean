import Waymark.Doc.Basic
import Waymark.Preamble.Directive
import Waymark.Sigil
import Waymark.Text.Offset

/-! Block doc comments between `/**` and `*/`, as JavaScript and TypeScript write them. -/
namespace Waymark
namespace Doc
namespace Block

open Text

def opening : List Char :=
  "/**".toList

def closing : List Char :=
  "*/".toList

/-- The text after an opening that belongs to an empty comment or a banner. -/
def refusesOpening : List Char → Bool
  | '/' :: _ | '*' :: _ => true
  | _ => false

/-- Searches `rest`, which `before` precedes, for the first opening that starts its line. Answers
with the text before and after that opening. -/
def findOpenFrom (before rest : List Char) : Option (List Char × List Char) :=
  match _h : cut opening rest with
  | none => none
  | some (skipped, tail) =>
    let lead := before ++ skipped
    if !refusesOpening tail && isBlankText (lastLine lead) then some (lead, tail)
    else findOpenFrom (lead ++ opening) tail
termination_by rest.length
decreasing_by exact cut_length_lt (by decide) _h

/-- The first opening that starts a line, up to blank space. -/
def findOpen (text : List Char) : Option (List Char × List Char) :=
  findOpenFrom [] text

/-- A line of the comment without the star in front of it. -/
def undecorate (line : List Char) : List Char :=
  match trim line with
  | '*' :: rest => dropSpace rest
  | t => t

/-- The content between the delimiters. -/
def strip (inner : List Char) : List Char :=
  normalize ((lines inner).map undecorate)

/-- Tags that make a comment document its file. -/
def fileTags : List String :=
  ["@file", "@fileoverview", "@overview", "@module", "@packageDocumentation"]

/-- The code after the comment: the rest of its last line unless that is blank, otherwise the next
line that is no decorator. -/
def following (after : List Char) : Option (List Char) :=
  let rest := after.takeWhile (· ≠ '\n')
  if isBlankText rest then
    (lines (after.drop (rest.length + 1))).find? fun l => (trimStart l).head? ≠ some '@'
  else some rest

/-- Removes the block comments at the head of a trimmed line. The flag tells whether the last of
them is still open at the end of the line. -/
def dropComments (line : List Char) : List Char × Bool :=
  match line with
  | '/' :: '*' :: body =>
    match _h : cut closing body with
    | some (_, tail) => dropComments (trim tail)
    | none => ([], true)
  | _ => (line, false)
termination_by line.length
decreasing_by
  have := cut_length_lt (by decide) _h
  have := trim_length_le tail
  simp only [List.length_cons]
  omega

/-- What is left of a line once its comments are removed, and whether one is open at its end. The
flag `inBlock` tells whether one is open at its head. -/
def residue (inBlock : Bool) (line : List Char) : List Char × Bool :=
  if inBlock then
    match cut closing (trim line) with
    | some (_, tail) => dropComments (trim tail)
    | none => ([], true)
  else dropComments (trim line)

/-- Whether what is left of a line may stand before a comment that documents its file. -/
def isPreambleResidue (language : Language) (t : List Char) : Bool :=
  t.isEmpty || "//".toList.isPrefixOf t || Preamble.isShebang t || isWaymarkLine t ||
    Preamble.isDirective language t

/-- Whether the lines hold nothing but blank space, comments and directives. -/
def isPreambleFrom (language : Language) : Bool → List (List Char) → Bool
  | _, [] => true
  | inBlock, l :: ls =>
    let (t, open?) := residue inBlock l
    isPreambleResidue language t && isPreambleFrom language open? ls

/-- Whether nothing but a preamble stands in the text before a comment. -/
def isPreamble (language : Language) (before : List Char) : Bool :=
  isPreambleFrom language false (lines before)

def classify (language : Language) (before content after : List Char) : Kind :=
  if (words content).any fun w => fileTags.contains (String.ofList w) then .file
  else if (following after).any language.isOwnerLine then .function
  else if isPreamble language (wholeLines before) then .file
  else .function

def extract (language : Language) (text : List Char) : Option Comment :=
  match findOpen text with
  | none => none
  | some (before, tail) =>
    match cut closing tail with
    | none => none
    | some (inner, after) =>
      let content := strip inner
      let startLine := newlines before + 1
      some
        { language := language
          kind := classify language before content after
          format := .jsdoc
          raw := opening ++ inner ++ closing
          content := content
          startLine := startLine
          endLine := startLine + newlines inner }

end Block
end Doc
end Waymark
