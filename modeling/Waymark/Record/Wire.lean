import Waymark.Json.Decode
import Waymark.Record.Basic

/-! Records as JSON values. -/
namespace Waymark

open Json

def Signals.toJson (s : Signals) : Json :=
  .obj [("flagged", .bool s.flagged), ("starred", .bool s.starred)]

def Signals.ofJson? (v : Json) : Option Signals :=
  match columns? ["flagged", "starred"] v with
  | some [flagged, starred] => do
    return ⟨← optional? false bool? flagged, ← optional? false bool? starred⟩
  | _ => none

def RelationKind.ofJson? (v : Json) : Option RelationKind :=
  enum? RelationKind.ofName? v

def Relation.toJson (r : Relation) : Json :=
  .obj [("kind", .str r.kind.name), ("token", .str r.token)]

def Relation.ofJson? (v : Json) : Option Relation :=
  match columns? ["kind", "token"] v with
  | some [kind, token] => do
    return ⟨← required? RelationKind.ofJson? kind, ← required? str? token⟩
  | _ => none

def Properties.toJson (p : Properties) : Json :=
  .obj (p.entries.map fun (k, v) => (k, .str v))

def Properties.ofJson? : Json → Option Properties
  | .object fields =>
    (fields.mapM fun (f : Option String × Json) => do return (← f.1, ← str? f.2)).map
      Properties.ofList
  | _ => none

namespace Record

def fieldNames : List String :=
  ["file", "startLine", "endLine", "type", "signals", "contents", "properties", "relations",
    "canonicals", "mentions", "tags"]

def toJson (r : Record) : Json :=
  .obj
    [("file", .str r.file),
      ("startLine", .nat r.startLine),
      ("endLine", .nat r.endLine),
      ("type", .str r.marker),
      ("signals", r.signals.toJson),
      ("contents", .str r.contents),
      ("properties", r.properties.toJson),
      ("relations", .array (r.relations.map Relation.toJson)),
      ("canonicals", .array (r.canonicals.map .str)),
      ("mentions", .array (r.mentions.map .str)),
      ("tags", .array (r.tags.map .str))]

/-- Only the span and the marker must be given. -/
def ofJson? (v : Json) : Option Record :=
  match columns? fieldNames v with
  | some [file, startLine, endLine, marker, signals, contents, properties, relations, canonicals,
      mentions, tags] => do
    return {
      file := ← optional? "" str? file
      startLine := ← required? nat? startLine
      endLine := ← required? nat? endLine
      marker := ← required? str? marker
      signals := ← optional? .unset Signals.ofJson? signals
      contents := ← optional? "" str? contents
      properties := ← optional? .empty Properties.ofJson? properties
      relations := ← optional? [] (list? Relation.ofJson?) relations
      canonicals := ← optional? [] (list? str?) canonicals
      mentions := ← optional? [] (list? str?) mentions
      tags := ← optional? [] (list? str?) tags }
  | _ => none

/-- A list of records as one JSON value. -/
def listToJson (rs : List Record) : Json :=
  .array (rs.map toJson)

def listOfJson? (v : Json) : Option (List Record) :=
  list? ofJson? v

end Record
end Waymark
