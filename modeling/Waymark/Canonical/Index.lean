import Waymark.Grouped
import Waymark.Record.Basic

/-! Where canonicals are declared. -/
namespace Waymark

/-- The place of a record. -/
structure Location where
  file : String
  line : Nat
  deriving DecidableEq, Repr

def Location.text (l : Location) : String :=
  l.file ++ ":" ++ toString l.line

def Record.location (r : Record) : Location :=
  ⟨r.file, r.startLine⟩

namespace Canonical

/-- The declarations of each canonical, under its normal form. -/
structure Index where
  entries : Grouped String Location
  deriving Repr

/-- Every declaration in a list of records, in record order and then in order of declaration. -/
def declarations (rs : List Record) : List (String × Location) :=
  rs.flatMap fun r => r.canonicals.map fun c => (normalizeCanonical c, r.location)

namespace Index

def build (rs : List Record) : Index :=
  ⟨.ofList (declarations rs)⟩

def contains (ix : Index) (token : String) : Bool :=
  ix.entries.contains (normalizeCanonical token)

def occurrences (ix : Index) (token : String) : List Location :=
  ix.entries.get (normalizeCanonical token)

/-- The canonicals that are declared more than once, by first declaration. -/
def duplicates (ix : Index) : List (String × List Location) :=
  ix.entries.groups.filter fun p => 1 < p.2.length

def size (ix : Index) : Nat :=
  ix.entries.size

end Index
end Canonical
end Waymark
