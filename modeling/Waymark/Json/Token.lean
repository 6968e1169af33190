import Waymark.Json.Basic
import Waymark.Text.Hex
import Waymark.Text.Search

/-! Tokens of JSON text. -/
namespace Waymark
namespace Json

/-- What can be wrong with JSON text. -/
inductive Fault where
  | endInValue
  | endInString
  | endInArray
  | endInObject
  | expectedValue
  | expectedLiteral
  | expectedColon
  | expectedArrayEnd
  | expectedObjectEnd
  | expectedKey
  | trailingComma
  | trailingText
  | invalidNumber
  | invalidEscape
  | controlCharacter
  deriving DecidableEq, Repr

def Fault.message : Fault → String
  | endInValue => "EOF while parsing a value"
  | endInString => "EOF while parsing a string"
  | endInArray => "EOF while parsing a list"
  | endInObject => "EOF while parsing an object"
  | expectedValue => "expected value"
  | expectedLiteral => "expected ident"
  | expectedColon => "expected `:`"
  | expectedArrayEnd => "expected `,` or `]`"
  | expectedObjectEnd => "expected `,` or `\x7d`"
  | expectedKey => "key must be a string"
  | trailingComma => "trailing comma"
  | trailingText => "trailing characters"
  | invalidNumber => "invalid number"
  | invalidEscape => "invalid escape"
  | controlCharacter => "control character (\\u0000-\\u001F) found while parsing a string"

/-- A value without parts, a punctuation mark, or text that is no token. -/
inductive Token where
  | scalar (value : Json)
  | mark (c : Char)
  | bad (fault : Fault)
  deriving Repr

/-- The four characters that may stand between tokens. -/
def isSpace (c : Char) : Bool :=
  c == ' ' || c == '\n' || c == '\t' || c == '\r'

def isMark (c : Char) : Bool :=
  c == '[' || c == ']' || c == '{' || c == '}' || c == ':' || c == ','

/-- The number written with four hexadecimal digits. -/
def hex4? (a b c d : Char) : Option Nat :=
  match Text.hexValue? a, Text.hexValue? b, Text.hexValue? c, Text.hexValue? d with
  | some w, some x, some y, some z => some (((w * 16 + x) * 16 + y) * 16 + z)
  | _, _, _, _ => none

/-- The character that a one-letter escape stands for. -/
def escape? (c : Char) : Option Char :=
  match c with
  | '"' => some '"'
  | '\\' => some '\\'
  | '/' => some '/'
  | 'b' => some '\x08'
  | 'f' => some '\x0c'
  | 'n' => some '\n'
  | 'r' => some '\r'
  | 't' => some '\t'
  | _ => none

/-- Reads a string after its opening quote: the numbers of its characters, where an escape may
name half of a surrogate pair, and the text after the closing quote. -/
def stringUnits : List Char → Except Fault (List Nat × List Char)
  | [] => .error .endInString
  | '"' :: rest => .ok ([], rest)
  | ['\\'] => .error .endInString
  | '\\' :: 'u' :: a :: b :: c :: d :: rest =>
    match hex4? a b c d with
    | none => .error .invalidEscape
    | some n => (stringUnits rest).map fun (units, tail) => (n :: units, tail)
  | '\\' :: e :: rest =>
    match escape? e with
    | none => .error (if e = 'u' then .endInString else .invalidEscape)
    | some c => (stringUnits rest).map fun (units, tail) => (c.toNat :: units, tail)
  | c :: rest =>
    if c < ' ' then .error .controlCharacter
    else (stringUnits rest).map fun (units, tail) => (c.toNat :: units, tail)

def isHighHalf (n : Nat) : Bool :=
  0xD800 ≤ n && n < 0xDC00

def isLowHalf (n : Nat) : Bool :=
  0xDC00 ≤ n && n < 0xE000

/-- The text that the numbers spell; a half without its partner spells none. -/
def ofUnits : List Nat → Option (List Char)
  | [] => some []
  | [n] => if isHighHalf n || isLowHalf n then none else some [Char.ofNat n]
  | n :: m :: rest =>
    if isHighHalf n then
      if isLowHalf m then
        (ofUnits rest).map (Char.ofNat (0x10000 + (n - 0xD800) * 0x400 + (m - 0xDC00)) :: ·)
      else none
    else if isLowHalf n then none
    else (ofUnits (m :: rest)).map (Char.ofNat n :: ·)

/-- The digits at the head of the text and what follows them. -/
def digits (cs : List Char) : List Char × List Char :=
  (cs.takeWhile Char.isDigit, cs.dropWhile Char.isDigit)

/-- The fault of a number that breaks off before `cs`. -/
def numberFault : List Char → Fault
  | [] => .endInValue
  | _ => .invalidNumber

/-- The sign at the head of an exponent, if there is one. -/
def exponentSign : List Char → List Char × List Char
  | '+' :: rest => (['+'], rest)
  | '-' :: rest => (['-'], rest)
  | rest => ([], rest)

/-- The exponent of a number, if there is one. -/
def exponent (cs : List Char) : Except Fault (List Char × List Char) :=
  match cs with
  | e :: rest =>
    if e = 'e' ∨ e = 'E' then
      match digits (exponentSign rest).2 with
      | ([], tail) => .error (numberFault tail)
      | (ds, tail) => .ok (e :: (exponentSign rest).1 ++ ds, tail)
    else .ok ([], cs)
  | [] => .ok ([], [])

/-- The fraction of a number, if there is one. -/
def fraction (cs : List Char) : Except Fault (List Char × List Char) :=
  match cs with
  | '.' :: rest =>
    match digits rest with
    | ([], tail) => .error (numberFault tail)
    | (ds, tail) => .ok ('.' :: ds, tail)
  | _ => .ok ([], cs)

/-- The whole part of a number, which has no needless zero in front. -/
def whole (cs : List Char) : Except Fault (List Char × List Char) :=
  match digits cs with
  | ([], tail) => .error (numberFault tail)
  | ('0' :: _ :: _, _) => .error .invalidNumber
  | (ds, tail) => .ok (ds, tail)

/-- A number without its sign, as it is written, and the text after it. -/
def number? (cs : List Char) : Except Fault (List Char × List Char) := do
  let (w, rest) ← whole cs
  let (f, rest) ← fraction rest
  let (e, rest) ← exponent rest
  return (w ++ f ++ e, rest)

/-- A literal name whose first letter has been seen. -/
def literal (name : String) (value : Json) (cs : List Char) : Token × List Char :=
  match Text.after? name.toList cs with
  | some rest => (.scalar value, rest)
  | none => (.bad (if cs.isPrefixOf name.toList then .endInValue else .expectedLiteral), [])

/-- The token at the head of a text that opens with `c`, and the text after the token. A token that
breaks off leaves no text. -/
def lex (c : Char) (rest : List Char) : Token × List Char :=
  if isMark c then (.mark c, rest)
  else if c = '"' then
    match stringUnits rest with
    | .ok (units, tail) => (.scalar (.string ((ofUnits units).map String.ofList)), tail)
    | .error f => (.bad f, [])
  else if c = '-' then
    match number? rest with
    | .ok (lexeme, tail) => (.scalar (.number ('-' :: lexeme)), tail)
    | .error f => (.bad f, [])
  else if c.isDigit then
    match number? (c :: rest) with
    | .ok (lexeme, tail) => (.scalar (.number lexeme), tail)
    | .error f => (.bad f, [])
  else if c = 'n' then literal "null" .null (c :: rest)
  else if c = 't' then literal "true" (.bool true) (c :: rest)
  else if c = 'f' then literal "false" (.bool false) (c :: rest)
  else (.bad .expectedValue, [])

end Json
end Waymark
