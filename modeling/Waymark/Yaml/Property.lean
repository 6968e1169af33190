import Waymark.Text.Bytes
import Waymark.Yaml.Token

/-! Directives, and the properties that stand before a node: anchors and tags. -/
namespace Waymark
namespace Yaml

/-- The characters that may follow a name besides a gap. -/
def endsName (cs : List Char) : Bool :=
  cs.head?.all fun c => isGap c || "?:,]\x7d%@`".toList.contains c

/-- Reads the name of an anchor or an alias, after its indicator. -/
def nodeName (cs : List Char) : Except Fault (List Char × List Char) :=
  let name := cs.takeWhile isNameChar
  let rest := cs.dropWhile isNameChar
  if name.isEmpty || !endsName rest then .error .badName else .ok (name, rest)

/-- The characters of tags. The last three may only stand between angle brackets. -/
def isTagChar (verbatim : Bool) (c : Char) : Bool :=
  isNameChar c || ";/?:@&=+$.!~*'()".toList.contains c ||
    (verbatim && (c == ',' || c == '[' || c == ']'))

/-- How many bytes follow the first byte of a character, or nothing when it cannot be one. -/
def followers? (b : UInt8) : Option Nat :=
  if b &&& 0x80 = 0 then some 0
  else if b &&& 0xE0 = 0xC0 then some 1
  else if b &&& 0xF0 = 0xE0 then some 2
  else if b &&& 0xF8 = 0xF0 then some 3
  else none

/-- Reads the characters of a tag; bytes can be written as a percent sign and two digits. `due` is
the number of bytes that a character still needs. -/
def tagChars (verbatim : Bool) (due : Nat) : List Char → Except Fault (List UInt8 × List Char)
  | [] => if due = 0 then .ok ([], []) else .error .badTag
  | c :: cs =>
    if c == '%' then
      match cs with
      | a :: b :: rest =>
        match Text.hexValue? a, Text.hexValue? b with
        | some x, some y =>
          let byte := UInt8.ofNat (16 * x + y)
          let left := if due = 0 then followers? byte
            else if byte &&& 0xC0 = 0x80 then some (due - 1) else none
          match left with
          | none => .error .badTag
          | some n => (tagChars verbatim n rest).map fun (bytes, tail) => (byte :: bytes, tail)
        | _, _ => .error .badTag
      | _ => .error .badTag
    else if due ≠ 0 then .error .badTag
    else if isTagChar verbatim c then
      (tagChars verbatim 0 cs).map fun (bytes, tail) => (String.utf8EncodeChar c ++ bytes, tail)
    else .ok ([], c :: cs)

/-- At least one character of a tag. -/
def tagText (verbatim : Bool) (cs : List Char) : Except Fault (List UInt8 × List Char) :=
  match tagChars verbatim 0 cs with
  | .ok ([], _) => .error .badTag
  | r => r

/-- The name after an exclamation mark, and what follows it. -/
def afterHandle (cs : List Char) : List Char × List Char :=
  (cs.takeWhile isNameChar, cs.dropWhile isNameChar)

/-- Reads a tag after its exclamation mark: a verbatim tag, a handle and a suffix, or a suffix
alone. A single exclamation mark is a tag without a handle. -/
def nodeTag (cs : List Char) : Except Fault (Token × List Char) :=
  match cs with
  | '<' :: rest =>
    match tagText true rest with
    | .ok (bytes, '>' :: tail) => .ok (.tag [] bytes, tail)
    | .ok _ => .error .badTag
    | .error e => .error e
  | _ =>
    let (name, rest) := afterHandle cs
    match rest with
    | '!' :: tail =>
      (tagText false tail).map fun (bytes, after) => (.tag ('!' :: name ++ ['!']) bytes, after)
    | _ =>
      (tagChars false 0 rest).map fun (bytes, after) =>
        let suffix := Text.bytes name ++ bytes
        (if suffix.isEmpty then .tag [] (Text.bytes ['!']) else .tag ['!'] suffix, after)

/-- Whether a tag may end here. -/
def endsTag (flow : Bool) (cs : List Char) : Bool :=
  opensGap cs || (flow && cs.head? = some ',')

/-- A number of at most nine digits. -/
def versionNumber (cs : List Char) : Except Fault (Nat × List Char) :=
  let digits := cs.takeWhile Char.isDigit
  if digits.isEmpty || 9 < digits.length then .error .badDirective
  else .ok (Nat.ofDigitChars 10 digits 0, cs.dropWhile Char.isDigit)

def versionDirective (cs : List Char) : Except Fault (Token × List Char) :=
  match versionNumber (cs.dropWhile isSpace) with
  | .ok (major, '.' :: rest) =>
    (versionNumber rest).map fun (minor, after) => (.version major minor, after)
  | .ok _ => .error .badDirective
  | .error e => .error e

/-- A handle: one exclamation mark, or a name between two of them. -/
def handleName : List Char → Except Fault (List Char × List Char)
  | '!' :: cs =>
    match afterHandle cs with
    | (name, '!' :: rest) => .ok ('!' :: name ++ ['!'], rest)
    | ([], rest) => .ok (['!'], rest)
    | _ => .error .badDirective
  | _ => .error .badDirective

def handleDirective (cs : List Char) : Except Fault (Token × List Char) :=
  match handleName (cs.dropWhile isSpace) with
  | .error e => .error e
  | .ok (name, rest) =>
    if rest.head?.any isSpace then
      match tagText true (rest.dropWhile isSpace) with
      | .error e => .error e
      | .ok (bytes, after) =>
        if opensGap after then .ok (.handle name bytes, after) else .error .badDirective
    else .error .badDirective

/-- Passes over spaces and a comment at the end of a directive. -/
def endDirective (t : Token) (cs : List Char) : Except Fault (Token × List Char) :=
  let rest := cs.dropWhile isSpace
  let tail := if rest.head? = some '#' then rest.dropWhile fun c => !isBreak c else rest
  if opensBreak tail then .ok (t, tail) else .error .badDirective

/-- Reads a directive after its percent sign, up to the end of the line. -/
def directive (cs : List Char) : Except Fault (Token × List Char) :=
  let name := String.ofList (cs.takeWhile isNameChar)
  let rest := cs.dropWhile isNameChar
  if !opensGap rest then .error .badDirective
  else if name = "YAML" then (versionDirective rest).bind fun (t, after) => endDirective t after
  else if name = "TAG" then (handleDirective rest).bind fun (t, after) => endDirective t after
  else .error .badDirective

end Yaml
end Waymark
