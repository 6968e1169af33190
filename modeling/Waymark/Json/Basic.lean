/-! JSON values. Numbers are kept as they are written, and objects keep every field in order. -/
namespace Waymark

/-- A string is `none` when it holds half of a surrogate pair, which no text can hold. -/
inductive Json where
  | null
  | bool (value : Bool)
  | number (lexeme : List Char)
  | string (text : Option String)
  | array (items : List Json)
  | object (fields : List (Option String × Json))
  deriving Repr, Inhabited

namespace Json

def str (s : String) : Json :=
  .string (some s)

def nat (n : Nat) : Json :=
  .number (Nat.toDigits 10 n)

/-- An object whose field names are texts. -/
def obj (fields : List (String × Json)) : Json :=
  .object (fields.map fun (k, v) => (some k, v))

/-- Natural numbers up to this bound fit a machine word. -/
def wordLimit : Nat :=
  18446744073709551616

/-- The natural number that a value denotes, if it is written with digits alone and fits a machine
word. -/
def nat? : Json → Option Nat
  | number lexeme =>
    if lexeme.all Char.isDigit && Nat.ofDigitChars 10 lexeme 0 < wordLimit then
      some (Nat.ofDigitChars 10 lexeme 0)
    else none
  | _ => none

def bool? : Json → Option Bool
  | bool b => some b
  | _ => none

def str? : Json → Option String
  | string s => s
  | _ => none

/-- The elements of an array, each read by `f`. -/
def list? {α : Type} (f : Json → Option α) : Json → Option (List α)
  | array items => items.mapM f
  | _ => none

end Json
end Waymark
