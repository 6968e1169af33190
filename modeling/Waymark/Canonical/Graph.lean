import Waymark.Canonical.Index

/-! Relations as edges from records to canonicals. -/
namespace Waymark
namespace Canonical

structure Edge where
  source : Location
  kind : RelationKind
  token : String
  /-- Whether the token must be declared somewhere. -/
  checked : Bool
  deriving DecidableEq, Repr

structure Graph where
  index : Index
  edges : List Edge
  deriving Repr

def Edge.ofRelation (source : Location) (r : Relation) : Edge :=
  ⟨source, r.kind, r.token, r.isChecked⟩

namespace Graph

def build (rs : List Record) : Graph :=
  ⟨.build rs, rs.flatMap fun r => r.relations.map (Edge.ofRelation r.location)⟩

/-- The edges that point at the canonical of a token. -/
def referrers (g : Graph) (token : String) : List Edge :=
  g.edges.filter fun e => normalizeCanonical e.token = normalizeCanonical token

/-- The edges whose canonical nobody declares. -/
def dangling (g : Graph) : List Edge :=
  g.edges.filter fun e => e.checked && !g.index.contains e.token

end Graph
end Canonical
end Waymark
