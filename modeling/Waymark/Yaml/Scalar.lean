import Waymark.Yaml.Token

/-! The three ways to write a scalar: plain, between quotes, and as an indented block. -/
namespace Waymark
namespace Yaml

/-- What stands between two words of a scalar: spaces, or line breaks with spaces around them. The
first break is missing when it is escaped. -/
inductive Gap where
  | spaces (run : List Char)
  | breaks (first : Option Char) (more : List Char)
  deriving DecidableEq, Repr

namespace Gap

def add : Gap → Char → Gap
  | spaces run, c => if isBreak c then breaks (some c) [] else spaces (run ++ [c])
  | breaks first more, c => if isBreak c then breaks first (more ++ [c]) else breaks first more

def isBroken : Gap → Bool
  | spaces _ => false
  | breaks .. => true

/-- What a gap stands for: a single newline is a space, and of several the first is left out. -/
def text : Gap → List Char
  | spaces run => run
  | breaks none more => more
  | breaks (some first) more =>
    if first == '\n' then if more.isEmpty then [' '] else more else first :: more

end Gap

/-- The position after a character. -/
def nextLine (line : Nat) (c : Char) : Nat :=
  if isBreak c then line + 1 else line

def nextColumn (column : Nat) (c : Char) : Nat :=
  if isBreak c then 0 else column + 1

/-- A scalar that has been read, and whether a line break was taken after it. -/
structure Scanned where
  text : List Char
  broken : Bool
  cursor : Cursor
  deriving DecidableEq, Repr

/-- Whether a plain scalar ends before the character. -/
def endsPlain (flow : Bool) (c : Char) (rest : List Char) : Bool :=
  (c == ':' && opensGap rest) || (flow && isFlowMark c)

/-- A colon inside a flow collection cannot stand right before one of its marks. -/
def isStrayColon (flow : Bool) (c : Char) (rest : List Char) : Bool :=
  flow && c == ':' && rest.head?.any fun d => isFlowMark d || d == '?'

/-- Reads a plain scalar. After a gap it goes on only inside the margin, and neither with a comment
nor with a mark between documents. The text is kept in reverse. -/
def plainFrom (flow : Bool) (margin : Nat) (text : List Char) (gap : Option Gap)
    (line column : Nat) : List Char → Except Fault Scanned
  | [] => .ok ⟨text.reverse, gap.any Gap.isBroken, ⟨[], line, column⟩⟩
  | c :: cs =>
    let done := ⟨text.reverse, gap.any Gap.isBroken, ⟨c :: cs, line, column⟩⟩
    if isGap c then
      let g := gap.getD (.spaces [])
      if c == '\t' && g.isBroken && column < margin then .error .tabInIndentation
      else plainFrom flow margin text (some (g.add c)) (nextLine line c) (nextColumn column c) cs
    else if gap.isSome && ((!flow && column < margin) || c == '#' ||
        (column == 0 && isDocumentMark (c :: cs))) then .ok done
    else if isStrayColon flow c cs then .error .unexpectedCharacter
    else if endsPlain flow c cs then .ok done
    else
      plainFrom flow margin (c :: ((gap.map Gap.text).getD []).reverse ++ text) none line
        (column + 1) cs

/-- Where the reader of a quoted scalar stands. -/
inductive QuoteMode where
  | text
  /-- After a single quote that may be the first of two. -/
  | closing
  /-- After a backslash. -/
  | escape
  /-- Inside a character number: the digits still to come and the value so far. -/
  | number (left value : Nat)
  deriving DecidableEq, Repr

/-- The character that a letter after a backslash stands for. -/
def escapedChar? (c : Char) : Option Char :=
  (escapes.find? fun e => e.1 == c).map Prod.snd
where
  escapes : List (Char × Char) :=
    [('0', '\x00'), ('a', '\x07'), ('b', '\x08'), ('t', '\t'), ('\t', '\t'), ('n', '\n'),
      ('v', '\x0b'), ('f', '\x0c'), ('r', '\r'), ('e', '\x1b'), (' ', ' '), ('"', '"'),
      ('/', '/'), ('\\', '\\'), ('N', '\u0085'), ('_', '\u00a0'), ('L', '\u2028'),
      ('P', '\u2029')]

/-- The number of digits that a letter after a backslash announces. -/
def numberLength? (c : Char) : Option Nat :=
  if c == 'x' then some 2 else if c == 'u' then some 4 else if c == 'U' then some 8 else none

/-- The character with this number. -/
def charOfNumber? (n : Nat) : Option Char :=
  if n < 0xD800 ∨ (0xE000 ≤ n ∧ n ≤ 0x10FFFF) then some (Char.ofNat n) else none

/-- Reads a scalar between quotes, after the first one. The text is kept in reverse. -/
def quotedFrom (single : Bool) (mode : QuoteMode) (text : List Char) (gap : Option Gap)
    (line column : Nat) : List Char → Except Fault Scanned
  | [] =>
    if mode = .closing then .ok ⟨text.reverse, false, ⟨[], line, column⟩⟩
    else .error .unclosedScalar
  | c :: cs =>
    match mode with
    | .closing =>
      if c == '\'' then quotedFrom single .text (c :: text) none line (column + 1) cs
      else .ok ⟨text.reverse, false, ⟨c :: cs, line, column⟩⟩
    | .escape =>
      if isBreak c then quotedFrom single .text text (some (.breaks none [])) (line + 1) 0 cs
      else
        match escapedChar? c, numberLength? c with
        | some d, _ => quotedFrom single .text (d :: text) none line (column + 1) cs
        | none, some n => quotedFrom single (.number n 0) text none line (column + 1) cs
        | none, none => .error .badEscape
    | .number left value =>
      match Text.hexValue? c with
      | none => .error .badEscape
      | some d =>
        if left ≤ 1 then
          match charOfNumber? (16 * value + d) with
          | none => .error .badEscape
          | some e => quotedFrom single .text (e :: text) none line (column + 1) cs
        else quotedFrom single (.number (left - 1) (16 * value + d)) text none line (column + 1) cs
    | .text =>
      if isGap c then
        quotedFrom single .text text (some ((gap.getD (.spaces [])).add c)) (nextLine line c)
          (nextColumn column c) cs
      else if column == 0 && isDocumentMark (c :: cs) then .error .documentMarkInScalar
      else
        let joined := ((gap.map Gap.text).getD []).reverse ++ text
        if single && c == '\'' then quotedFrom single .closing joined none line (column + 1) cs
        else if !single && c == '"' then .ok ⟨joined.reverse, false, ⟨cs, line, column + 1⟩⟩
        else if !single && c == '\\' then quotedFrom single .escape joined none line (column + 1) cs
        else quotedFrom single .text (c :: joined) none line (column + 1) cs

/-- What becomes of the line breaks at the end of a block. -/
inductive Chomping where
  | clip
  | strip
  | keep
  deriving DecidableEq, Repr

def chomping? (c : Char) : Option Chomping :=
  if c == '+' then some .keep else if c == '-' then some .strip else none

/-- The first line of a block scalar: chomping and indentation in either order, and a comment. -/
structure BlockHeader where
  chomping : Chomping
  /-- How much deeper than its parent the block is, when that is given. -/
  indent : Option Nat
  rest : List Char
  deriving DecidableEq, Repr

namespace BlockHeader

def takeChomping : List Char → Option (Chomping × List Char)
  | c :: cs => (chomping? c).map fun k => (k, cs)
  | [] => none

/-- The indentation digit, if there is one; zero is not allowed. -/
def takeIndent : List Char → Except Fault (Option Nat × List Char)
  | c :: cs =>
    if c == '0' then .error .badBlockHeader
    else if c.isDigit then .ok (some (c.toNat - '0'.toNat), cs)
    else .ok (none, c :: cs)
  | [] => .ok (none, [])

/-- Passes over spaces and a comment to the end of the line. -/
def finish (chomping : Chomping) (indent : Option Nat) (cs : List Char) :
    Except Fault BlockHeader :=
  let rest := cs.dropWhile isSpace
  let tail := if rest.head? = some '#' then rest.dropWhile fun c => !isBreak c else rest
  if opensBreak tail then .ok ⟨chomping, indent, tail⟩ else .error .badBlockHeader

def parse (cs : List Char) : Except Fault BlockHeader :=
  match takeChomping cs with
  | some (k, rest) =>
    match takeIndent rest with
    | .error e => .error e
    | .ok (indent, tail) => finish k indent tail
  | none =>
    match takeIndent cs with
    | .error e => .error e
    | .ok (none, tail) => finish .clip none tail
    | .ok (some n, tail) =>
      match takeChomping tail with
      | some (k, after) => finish k (some n) after
      | none => finish .clip (some n) tail

end BlockHeader

/-- A block that is being read. The text is kept in reverse. -/
structure Block where
  text : List Char
  /-- The break after the last line with content. -/
  lineBreak : List Char
  /-- The breaks of the empty lines after it. -/
  emptyLines : List Char
  /-- Whether the last line with content opens with a space. -/
  indented : Bool
  deriving DecidableEq, Repr

namespace Block

def empty : Block :=
  ⟨[], [], [], false⟩

/-- Adds the first character of a line. When the block is folded, a newline between two lines that
do not open with a space is turned into a space, or left out before empty lines. -/
def startLine (b : Block) (folded : Bool) (c : Char) : Block :=
  let folds := folded && b.lineBreak == ['\n'] && !b.indented && !isSpace c
  let lineBreak :=
    if folds then if b.emptyLines.isEmpty then [' '] else [] else b.lineBreak
  ⟨c :: ((b.text.reverse ++ lineBreak ++ b.emptyLines).reverse), [], [], isSpace c⟩

/-- The text of a finished block. -/
def finish (b : Block) : Chomping → List Char
  | .strip => b.text.reverse
  | .clip => b.text.reverse ++ b.lineBreak
  | .keep => b.text.reverse ++ b.lineBreak ++ b.emptyLines

/-- Reads the lines of a block. The indentation is zero until it is known; then it is the widest
one up to the first line with content, and deeper than that of the parent. -/
def readFrom (folded : Bool) (margin indent widest : Nat) (inLine : Bool) (b : Block)
    (line column : Nat) : List Char → Except Fault (Block × Cursor)
  | [] => .ok (b, ⟨[], line, column⟩)
  | c :: cs =>
    let outside := indent == 0 || column < indent
    if inLine then
      if isBreak c then
        readFrom folded margin indent widest false { b with lineBreak := [c] } (line + 1) 0 cs
      else
        readFrom folded margin indent widest true { b with text := c :: b.text } line
          (column + 1) cs
    else if c == ' ' && outside then
      readFrom folded margin indent widest false b line (column + 1) cs
    else if c == '\t' && outside then .error .tabInIndentation
    else if isBreak c then
      readFrom folded margin indent (max widest column) false
        { b with emptyLines := b.emptyLines ++ [c] } (line + 1) 0 cs
    else
      let known := if indent == 0 then max (max (max widest column) margin) 1 else indent
      if column == known then
        readFrom folded margin known widest true (b.startLine folded c) line (column + 1) cs
      else .ok (b, ⟨c :: cs, line, column⟩)

end Block

/-- Reads a block scalar after its indicator. `margin` is the least column inside the parent. -/
def blockScalar (folded : Bool) (margin : Nat) (k : Cursor) : Except Fault Scanned :=
  match BlockHeader.parse k.rest with
  | .error e => .error e
  | .ok h =>
    let indent := (h.indent.map fun n => margin - 1 + n).getD 0
    match h.rest with
    | [] => .ok ⟨[], false, k.moveTo []⟩
    | _ :: lines =>
      (Block.readFrom folded margin indent 0 false .empty (k.line + 1) 0 lines).map
        fun (b, after) => ⟨b.finish h.chomping, false, after⟩

end Yaml
end Waymark
