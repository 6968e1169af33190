import Waymark.Yaml.Node

/-! Reading values out of YAML documents. Texts are taken from any scalar; truth values and numbers
are plain scalars, or literal blocks that are tagged as such. -/
namespace Waymark
namespace Yaml

def trueWords : List String :=
  ["true", "True", "TRUE"]

def falseWords : List String :=
  ["false", "False", "FALSE"]

def boolTag : List UInt8 :=
  Text.bytes "tag:yaml.org,2002:bool".toList

def intTag : List UInt8 :=
  Text.bytes "tag:yaml.org,2002:int".toList

def boolOfText? (cs : List Char) : Option Bool :=
  if trueWords.contains (String.ofList cs) then some true
  else if falseWords.contains (String.ofList cs) then some false
  else none

/-- Numbers stay below this bound. -/
def wordLimit : Nat :=
  18446744073709551616

/-- The number that digits of a base denote. -/
def digits? (base : Nat) (cs : List Char) : Option Nat :=
  if cs.isEmpty then none
  else
    (cs.mapM fun c => (Text.hexValue? c).filter (· < base)).bind fun ds =>
      (some (ds.foldl (fun n d => base * n + d) 0)).filter (· < wordLimit)

/-- The base that a number announces with its first two characters. -/
def radix? : List Char → Option (Nat × List Char)
  | '0' :: 'x' :: cs => some (16, cs)
  | '0' :: 'o' :: cs => some (8, cs)
  | '0' :: 'b' :: cs => some (2, cs)
  | _ => none

/-- A decimal number has no zero in front of other digits. -/
def isPadded : List Char → Bool
  | '0' :: c :: cs => (c :: cs).all Char.isDigit
  | _ => false

/-- The natural number that a text denotes; it may have a plus sign. -/
def natOfText? (cs : List Char) : Option Nat :=
  let unsigned :=
    match cs with
    | '+' :: rest => rest
    | _ => cs
  match radix? unsigned with
  | some (base, rest) => digits? base rest
  | none => if isPadded unsigned then none else digits? 10 unsigned

namespace Document

/-- The node itself, or the one that an alias refers to. -/
def resolve? (d : Document) : Node → Option Node
  | .alias id => d.anchors.find? id
  | n => some n

/-- The text of a scalar from which a value of the tagged type can be read. -/
def valueText? (d : Document) (expected : List UInt8) (n : Node) : Option (List Char) :=
  match d.resolve? n with
  | some (.scalar .plain _ text) => some text
  | some (.scalar .literal (some tag) text) => if tag = expected then some text else none
  | _ => none

def bool? (d : Document) (n : Node) : Option Bool :=
  (d.valueText? boolTag n).bind boolOfText?

def nat? (d : Document) (n : Node) : Option Nat :=
  (d.valueText? intTag n).bind natOfText?

def text? (d : Document) (n : Node) : Option String :=
  match d.resolve? n with
  | some (.scalar _ _ text) => some (String.ofList text)
  | _ => none

/-- The items of a sequence, each read by `f`. Nothing at all counts as no items. -/
def list? {α : Type} (d : Document) (f : Node → Option α) (n : Node) : Option (List α) :=
  match d.resolve? n with
  | some (.sequence items) => items.mapM f
  | some (.scalar .plain _ []) => some []
  | _ => none

/-- The entries of a mapping under the texts of their keys. Nothing at all counts as no entries. -/
def entries? (d : Document) (n : Node) : Option (List (String × Node)) :=
  match d.resolve? n with
  | some (.mapping entries) => entries.mapM fun (k, v) => (d.text? k).map fun key => (key, v)
  | some (.scalar .plain _ []) => some []
  | _ => none

/-- The value of each named key, if it has one. There is no answer when a named key is given twice;
other keys are passed over. -/
def columns? (d : Document) (names : List String) (n : Node) : Option (List (Option Node)) :=
  (d.entries? n).bind fun entries =>
    names.mapM fun name =>
      match entries.filter fun e => e.1 == name with
      | [] => some none
      | [e] => some (some e.2)
      | _ => none

/-- The value of a key, or one to fall back on when it is not given. -/
def optional? {α : Type} (fallback : α) (f : Node → Option α) : Option Node → Option α
  | some n => f n
  | none => some fallback

end Document
end Yaml
end Waymark
