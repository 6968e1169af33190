import Waymark.Record.Properties
import Waymark.Sigil
import Waymark.Text.Blank
import Waymark.Text.Lowercase

/-! Waymark records: what a grammar reports for each waymark of a file. -/
namespace Waymark

structure Signals where
  flagged : Bool
  starred : Bool
  deriving DecidableEq, Repr

namespace Signals

/-- No signal is set. -/
def unset : Signals :=
  ⟨false, false⟩

end Signals

/-- What a relation says about the waymark that holds it and the canonical it points at. -/
inductive RelationKind where
  | derived
  | replaces
  | see
  | docs
  | needs
  | blocks
  | duplicate
  | related
  deriving DecidableEq, Repr

namespace RelationKind

def all : List RelationKind :=
  [derived, replaces, see, docs, needs, blocks, duplicate, related]

def name : RelationKind → String
  | derived => "from"
  | replaces => "replaces"
  | see => "see"
  | docs => "docs"
  | needs => "needs"
  | blocks => "blocks"
  | duplicate => "dupeof"
  | related => "rel"

def ofName? (s : String) : Option RelationKind :=
  all.find? fun k => k.name == s

/-- Whether a relation of this kind needs a canonical that some waymark declares. -/
def requiresCanonical : RelationKind → Bool
  | derived | replaces | see | docs => true
  | needs | blocks | duplicate | related => false

end RelationKind

structure Relation where
  kind : RelationKind
  token : String
  deriving DecidableEq, Repr

namespace Relation

/-- Whether the token names a waymark by identifier, as `[[id]]`. -/
def isIdentifier (r : Relation) : Bool :=
  let t := Text.trim r.token.toList
  4 < t.length && "[[".toList.isPrefixOf t && "]]".toList.isSuffixOf t

def isSchemeChar (c : Char) : Bool :=
  c.isAlphanum || c == '+' || c == '-' || c == '.'

/-- Whether the token is a URL: a scheme, `://`, and something after it. -/
def isUrl (r : Relation) : Bool :=
  match Text.cut "://".toList (Text.trim r.token.toList) with
  | some (c :: scheme, _ :: _) => c.isAlpha && scheme.all isSchemeChar
  | _ => false

/-- Whether the relation must point at a declared canonical. -/
def isChecked (r : Relation) : Bool :=
  r.kind.requiresCanonical && !r.isIdentifier && !r.isUrl

end Relation

structure Record where
  file : String
  startLine : Nat
  endLine : Nat
  marker : String
  signals : Signals
  contents : String
  properties : Properties
  relations : List Relation
  canonicals : List String
  mentions : List String
  tags : List String
  deriving DecidableEq

namespace Record

/-- A record of one line without anything attached. -/
def new (file : String) (line : Nat) (marker : String) : Record :=
  { file := file
    startLine := line
    endLine := line
    marker := marker
    signals := .unset
    contents := ""
    properties := .empty
    relations := []
    canonicals := []
    mentions := []
    tags := [] }

/-- Whether the record has this marker; the case of the letters `a` to `z` does not matter. -/
def hasMarker (r : Record) (marker : String) : Bool :=
  Text.asciiLower r.marker.toList == Text.asciiLower marker.toList

/-- Whether the record summarizes its file. -/
def isSummary (r : Record) : Bool :=
  r.hasMarker summaryMarker

/-- Lines count from one, and a record does not end before it starts. -/
def hasValidSpan (r : Record) : Bool :=
  1 ≤ r.startLine && r.startLine ≤ r.endLine

/-- The record with another file name. -/
def stamp (file : String) (r : Record) : Record :=
  { r with file := file }

end Record

/-- The form in which canonicals are compared: one `#` in front and lower case throughout. -/
def normalizeCanonical (token : String) : String :=
  String.ofList ('#' :: Text.lower ((Text.trim token.toList).dropWhile (· == '#')))

end Waymark
