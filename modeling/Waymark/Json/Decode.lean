import Waymark.Json.Basic

/-! Reading structures and enumerations out of JSON values. A structure is an object with named
fields or an array of the fields in order; fields of other names are passed over. -/
namespace Waymark
namespace Json

/-- The values of a field in an object, in order. -/
def valuesOf (name : String) (fields : List (Option String × Json)) : List Json :=
  (fields.filter fun f => f.1 == some name).map Prod.snd

/-- The value of each named field, if it has one. There is no answer when a named field is given
twice, when a key is no text, or when an array has more elements than there are names. -/
def columns? (names : List String) : Json → Option (List (Option Json))
  | object fields =>
    if fields.all (fun f => f.1.isSome) && names.all (fun n => (valuesOf n fields).length ≤ 1) then
      some (names.map fun n => (valuesOf n fields).head?)
    else none
  | array items =>
    if items.length ≤ names.length then
      some (items.map some ++ List.replicate (names.length - items.length) none)
    else none
  | _ => none

/-- A field that must be there. -/
def required? {α : Type} (f : Json → Option α) : Option Json → Option α
  | some v => f v
  | none => none

/-- A field with a value to fall back on. -/
def optional? {α : Type} (fallback : α) (f : Json → Option α) : Option Json → Option α
  | some v => f v
  | none => some fallback

/-- A value that may be null. -/
def nullable? {α : Type} (f : Json → Option α) : Json → Option (Option α)
  | null => some none
  | v => (f v).map some

/-- One of several names, written as a string or as an object with that one field and no value. -/
def enum? {α : Type} (ofName? : String → Option α) : Json → Option α
  | string (some s) => ofName? s
  | object [(some s, null)] => ofName? s
  | _ => none

end Json
end Waymark
