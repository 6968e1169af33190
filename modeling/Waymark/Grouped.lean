/-! Values gathered under keys, the keys in the order of their first appearance. -/
namespace Waymark

/-- Each key once, with its values in the order in which they were added. -/
structure Grouped (κ α : Type) where
  groups : List (κ × List α)
  deriving Repr

namespace Grouped

variable {κ α : Type} [DecidableEq κ]

def empty : Grouped κ α :=
  ⟨[]⟩

/-- Adds a value to the group of its key, which is made at the end if there is none. -/
def addTo (k : κ) (v : α) : List (κ × List α) → List (κ × List α)
  | [] => [(k, [v])]
  | (k', vs) :: rest => if k' = k then (k', vs ++ [v]) :: rest else (k', vs) :: addTo k v rest

def add (g : Grouped κ α) (k : κ) (v : α) : Grouped κ α :=
  ⟨addTo k v g.groups⟩

/-- Gathers pairs in order. -/
def ofList (pairs : List (κ × α)) : Grouped κ α :=
  pairs.foldl (fun g p => g.add p.1 p.2) empty

/-- The values under a key. -/
def get (g : Grouped κ α) (k : κ) : List α :=
  ((g.groups.find? fun p => p.1 = k).map Prod.snd).getD []

def contains (g : Grouped κ α) (k : κ) : Bool :=
  g.groups.any fun p => p.1 = k

def size (g : Grouped κ α) : Nat :=
  g.groups.length

end Grouped
end Waymark
