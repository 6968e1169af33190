import Waymark.Yaml.Property
import Waymark.Yaml.Scalar

/-! From YAML text to tokens. Indentation opens and closes blocks, and a colon turns what stands
before it on its line into a key. -/
namespace Waymark
namespace Yaml

/-- A place that turns out to be a key if a colon follows on its line. -/
structure PossibleKey where
  /-- Whether nothing else but a key may stand there. -/
  required : Bool
  /-- How many tokens come before it. -/
  index : Nat
  line : Nat
  column : Nat
  deriving DecidableEq, Repr

/-- How far a key may reach. -/
def keyLimit : Nat :=
  1024

/-- What has been read so far. -/
structure Layout where
  cursor : Cursor
  tokens : Array Token
  /-- The least column that is inside the innermost block. -/
  margin : Nat
  outerMargins : List Nat
  key : Option PossibleKey
  /-- The possible keys around the innermost flow collection. -/
  outerKeys : List (Option PossibleKey)
  keyAllowed : Bool
  deriving Repr

namespace Layout

def start (text : List Char) : Layout :=
  { cursor := .ofText text
    tokens := #[]
    margin := 0
    outerMargins := []
    key := none
    outerKeys := []
    keyAllowed := true }

/-- Whether the reader is inside a flow collection. -/
def inFlow (s : Layout) : Bool :=
  !s.outerKeys.isEmpty

/-- Adds a token and moves on. -/
def emit (s : Layout) (t : Token) (k : Cursor) : Layout :=
  { s with tokens := s.tokens.push t, cursor := k }

/-- Passes over spaces, comments and line breaks. A tab is no space where a key may start. -/
def blanksFrom (flow allowed comment : Bool) (line column : Nat) : List Char → Cursor × Bool
  | [] => (⟨[], line, column⟩, allowed)
  | c :: cs =>
    if isBreak c then blanksFrom flow (allowed || !flow) false (line + 1) 0 cs
    else if comment || c == ' ' || (c == '\t' && (flow || !allowed)) then
      blanksFrom flow allowed comment line (column + 1) cs
    else if c == '#' then blanksFrom flow allowed true line (column + 1) cs
    else (⟨c :: cs, line, column⟩, allowed)

def skipBlanks (s : Layout) : Layout :=
  let (k, allowed) :=
    blanksFrom s.inFlow s.keyAllowed false s.cursor.line s.cursor.column s.cursor.rest
  { s with cursor := k, keyAllowed := allowed }

/-- A possible key is given up on the next line or when it gets too long. -/
def refresh (k : Cursor) (key : Option PossibleKey) : Except Fault (Option PossibleKey) :=
  match key with
  | none => .ok none
  | some p =>
    if p.line < k.line || p.column + keyLimit < k.column then
      if p.required then .error .missingColon else .ok none
    else .ok (some p)

def refreshKeys (s : Layout) : Except Fault Layout := do
  return { s with
    key := ← refresh s.cursor s.key
    outerKeys := ← s.outerKeys.mapM (refresh s.cursor) }

/-- Gives up the possible key. -/
def dropKey (s : Layout) : Except Fault Layout :=
  if s.key.any fun p => p.required then .error .missingColon else .ok { s with key := none }

/-- Notes that a key may start here. -/
def noteKey (s : Layout) : Except Fault Layout :=
  if s.keyAllowed then
    (dropKey s).map fun t =>
      { t with
        key := some
          { required := !s.inFlow && s.margin == s.cursor.column + 1
            index := s.tokens.size
            line := s.cursor.line
            column := s.cursor.column } }
  else .ok s

/-- Opens a block at a column that is inside the innermost one. -/
def indentTo (s : Layout) (column index : Nat) (t : Token) : Layout :=
  if !s.inFlow && s.margin ≤ column then
    { s with
      margin := column + 1
      outerMargins := s.margin :: s.outerMargins
      tokens := s.tokens.insertIdxIfInBounds index t }
  else s

/-- Closes the blocks whose margin is beyond the limit. -/
def dedent (limit margin : Nat) (tokens : Array Token) :
    List Nat → Nat × List Nat × Array Token
  | [] => (margin, [], tokens)
  | outer :: more =>
    if limit < margin then dedent limit outer (tokens.push .blockEnd) more
    else (margin, outer :: more, tokens)

def dedentTo (s : Layout) (limit : Nat) : Layout :=
  if s.inFlow then s
  else
    let (margin, outer, tokens) := dedent limit s.margin s.tokens s.outerMargins
    { s with margin := margin, outerMargins := outer, tokens := tokens }

/-- Closes all blocks at a mark between documents, a directive or the end of the text. -/
def closeBlocks (s : Layout) : Except Fault Layout :=
  (s.dedentTo 0).dropKey.map fun t => { t with keyAllowed := false }

def openFlow (s : Layout) (t : Token) : Except Fault Layout :=
  s.noteKey.map fun u =>
    { u.emit t (u.cursor.skip 1) with
      key := none
      outerKeys := u.key :: u.outerKeys
      keyAllowed := true }

def closeFlow (s : Layout) (t : Token) : Except Fault Layout :=
  s.dropKey.map fun u =>
    let next := { u.emit t (u.cursor.skip 1) with keyAllowed := false }
    match u.outerKeys with
    | [] => next
    | key :: outer => { next with key := key, outerKeys := outer }

def flowEntry (s : Layout) : Except Fault Layout :=
  s.dropKey.map fun u => { u.emit .flowEntry (u.cursor.skip 1) with keyAllowed := true }

def blockEntry (s : Layout) : Except Fault Layout :=
  if !s.inFlow && !s.keyAllowed then .error .misplacedEntry
  else
    (s.indentTo s.cursor.column s.tokens.size .blockSequence).dropKey.map fun u =>
      { u.emit .blockEntry (u.cursor.skip 1) with keyAllowed := true }

def explicitKey (s : Layout) : Except Fault Layout :=
  if !s.inFlow && !s.keyAllowed then .error .misplacedKey
  else
    (s.indentTo s.cursor.column s.tokens.size .blockMapping).dropKey.map fun u =>
      { u.emit .key (u.cursor.skip 1) with keyAllowed := !u.inFlow }

/-- A colon: what stands at the possible key is one, and may open a mapping. -/
def value (s : Layout) : Except Fault Layout :=
  match s.key with
  | some p =>
    let keyed := { s with tokens := s.tokens.insertIdxIfInBounds p.index .key, key := none }
    let rolled := keyed.indentTo p.column p.index .blockMapping
    .ok { rolled.emit .value (s.cursor.skip 1) with keyAllowed := false }
  | none =>
    if !s.inFlow && !s.keyAllowed then .error .misplacedValue
    else
      let rolled := s.indentTo s.cursor.column s.tokens.size .blockMapping
      .ok { rolled.emit .value (s.cursor.skip 1) with keyAllowed := !s.inFlow }

/-- A token that may open a key and is read by `f` from the character after the current one. -/
def property (s : Layout) (f : List Char → Except Fault (Token × List Char)) :
    Except Fault Layout := do
  let u ← s.noteKey
  let (t, rest) ← f (u.cursor.rest.drop 1)
  return { u.emit t (u.cursor.moveTo rest) with keyAllowed := false }

def tagProperty (flow : Bool) (cs : List Char) : Except Fault (Token × List Char) :=
  match nodeTag cs with
  | .error e => .error e
  | .ok (t, rest) => if endsTag flow rest then .ok (t, rest) else .error .badTag

def named (f : List Char → Token) (cs : List Char) : Except Fault (Token × List Char) :=
  (nodeName cs).map fun (name, rest) => (f name, rest)

def quotedScalar (s : Layout) (single : Bool) : Except Fault Layout := do
  let u ← s.noteKey
  let k := u.cursor.skip 1
  let r ← quotedFrom single .text [] none k.line k.column k.rest
  return { u.emit (.scalar .quoted r.text) r.cursor with keyAllowed := false }

def blockText (s : Layout) (folded : Bool) : Except Fault Layout := do
  let u ← s.dropKey
  let r ← blockScalar folded u.margin (u.cursor.skip 1)
  return { u.emit (.scalar (if folded then .folded else .literal) r.text) r.cursor with
    keyAllowed := true }

def plainScalar (s : Layout) : Except Fault Layout := do
  let u ← s.noteKey
  let k := u.cursor
  let r ← plainFrom u.inFlow u.margin [] none k.line k.column k.rest
  return { u.emit (.scalar .plain r.text) r.cursor with keyAllowed := r.broken }

/-- Characters that open no plain scalar, apart from a few before a character that is no gap. -/
def isIndicator (c : Char) : Bool :=
  "-?:,[]\x7b\x7d#&*!|>'\"%@`".toList.contains c

def opensPlain (flow : Bool) (c : Char) (rest : List Char) : Bool :=
  !(isGap c || isIndicator c) ||
    (c == '-' && !rest.head?.any isSpace) ||
    (!flow && (c == '?' || c == ':') && !opensGap rest)

/-- Reads the token that opens with `c`. -/
def fetch (s : Layout) (c : Char) (rest : List Char) : Except Fault Layout :=
  let atStart := s.cursor.column == 0
  let apart := s.inFlow || opensGap rest
  if atStart && c == '%' then do
    let u ← s.closeBlocks
    let (t, after) ← directive rest
    return u.emit t (u.cursor.moveTo after)
  else if atStart && isDocumentStart (c :: rest) then
    s.closeBlocks.map fun u => u.emit .documentStart (u.cursor.skip 3)
  else if atStart && isDocumentEnd (c :: rest) then
    s.closeBlocks.map fun u => u.emit .documentEnd (u.cursor.skip 3)
  else if c == '[' then s.openFlow .openSequence
  else if c == '{' then s.openFlow .openMapping
  else if c == ']' then s.closeFlow .closeSequence
  else if c == '}' then s.closeFlow .closeMapping
  else if c == ',' then s.flowEntry
  else if c == '-' && opensGap rest then s.blockEntry
  else if c == '?' && apart then s.explicitKey
  else if c == ':' && apart then s.value
  else if c == '*' then s.property (named .alias)
  else if c == '&' then s.property (named .anchor)
  else if c == '!' then s.property (tagProperty s.inFlow)
  else if c == '|' && !s.inFlow then s.blockText false
  else if c == '>' && !s.inFlow then s.blockText true
  else if c == '\'' then s.quotedScalar true
  else if c == '"' then s.quotedScalar false
  else if opensPlain s.inFlow c rest then s.plainScalar
  else .error .unexpectedCharacter

/-- Reads tokens until the text ends; every token takes at least one character. -/
def run : Nat → Layout → Except Fault (Array Token)
  | 0, s => .ok s.tokens
  | n + 1, s => do
    let u ← s.skipBlanks.refreshKeys
    let v := u.dedentTo (u.cursor.column + 1)
    match v.cursor.rest with
    | [] => return (← v.closeBlocks).tokens
    | c :: rest => run n (← v.fetch c rest)

end Layout

/-- The tokens of a text. -/
def tokenize (text : List Char) : Except Fault (List Token) :=
  if text.all isAllowed then
    let unified := unifyBreaks text
    (Layout.run (unified.length + 1) (.start unified)).map Array.toList
  else .error .controlCharacter

end Yaml
end Waymark
