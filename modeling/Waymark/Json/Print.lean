import Waymark.Json.Basic
import Waymark.Text.Hex

/-! Writing JSON text, on one line or with an indentation of two spaces. -/
namespace Waymark
namespace Json

/-- How a character is written inside a string. -/
def escapeChar (c : Char) : List Char :=
  if c = '"' then ['\\', '"']
  else if c = '\\' then ['\\', '\\']
  else if c = '\n' then ['\\', 'n']
  else if c = '\r' then ['\\', 'r']
  else if c = '\t' then ['\\', 't']
  else if c = '\x08' then ['\\', 'b']
  else if c = '\x0c' then ['\\', 'f']
  else if c < ' ' then
    ['\\', 'u', '0', '0', Text.hexDigit (c.toNat / 16), Text.hexDigit (c.toNat % 16)]
  else [c]

/-- A string between quotes. Text without a written form is one half of a surrogate pair. -/
def printString : Option String → List Char
  | some s => '"' :: s.toList.flatMap escapeChar ++ ['"']
  | none => "\"\\ud800\"".toList

mutual

/-- The value on one line, without spaces. -/
def print : Json → List Char
  | null => "null".toList
  | bool true => "true".toList
  | bool false => "false".toList
  | number lexeme => lexeme
  | string s => printString s
  | array items => '[' :: printItems items ++ [']']
  | object fields => '{' :: printFields fields ++ ['}']

def printItems : List Json → List Char
  | [] => []
  | [v] => print v
  | v :: vs => print v ++ ',' :: printItems vs

def printFields : List (Option String × Json) → List Char
  | [] => []
  | [(k, v)] => printString k ++ ':' :: print v
  | (k, v) :: fs => printString k ++ ':' :: print v ++ ',' :: printFields fs

end

/-- A line break and the indentation of depth `n`. -/
def newline (n : Nat) : List Char :=
  '\n' :: List.replicate (2 * n) ' '

mutual

/-- The value with every part on a line of its own, inside parts of depth `n`. -/
def pretty (n : Nat) : Json → List Char
  | null => "null".toList
  | bool true => "true".toList
  | bool false => "false".toList
  | number lexeme => lexeme
  | string s => printString s
  | array [] => "[]".toList
  | array (v :: vs) => '[' :: prettyItems (n + 1) (v :: vs) ++ newline n ++ [']']
  | object [] => ['{', '}']
  | object (f :: fs) => '{' :: prettyFields (n + 1) (f :: fs) ++ newline n ++ ['}']

def prettyItems (n : Nat) : List Json → List Char
  | [] => []
  | [v] => newline n ++ pretty n v
  | v :: vs => newline n ++ pretty n v ++ ',' :: prettyItems n vs

def prettyFields (n : Nat) : List (Option String × Json) → List Char
  | [] => []
  | [(k, v)] => newline n ++ printString k ++ ':' :: ' ' :: pretty n v
  | (k, v) :: fs =>
    newline n ++ printString k ++ ':' :: ' ' :: pretty n v ++ ',' :: prettyFields n fs

end

/-- The value as indented text. -/
def prettyText (v : Json) : String :=
  String.ofList (pretty 0 v)

end Json
end Waymark
