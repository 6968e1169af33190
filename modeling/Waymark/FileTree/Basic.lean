import Waymark.Path
import Waymark.SystemError

/-! Trees of files, directories and symbolic links. The names of entries and the targets of links
are texts, that is, valid UTF-8; contents are any bytes. -/
namespace Waymark

/-- A place in a tree: the names that lead to it from the top. -/
abbrev Place := List String

inductive Entry where
  | file (contents : ByteArray)
  | directory
  | link (target : String)

/-- The longest name, in bytes. -/
def nameLimit : Nat :=
  255

/-- Whether a text can be the name of an entry. -/
def isEntryName (name : String) : Bool :=
  name != "" && name != "." && name != ".." && !name.toList.contains '/' &&
    name.utf8ByteSize ≤ nameLimit

/-- A tree is a list of places and what is there, in no particular order. The top is a directory
and is not listed. -/
structure FileTree where
  entries : List (Place × Entry)
  distinct : (entries.map Prod.fst).Nodup
  named : ∀ e ∈ entries, ∀ name ∈ e.1, isEntryName name = true

namespace FileTree

def empty : FileTree :=
  ⟨[], List.nodup_nil, by simp⟩

def get? (t : FileTree) (place : Place) : Option Entry :=
  if place.isEmpty then some .directory else t.entries.lookup place

/-- The entries directly inside a directory. -/
def children (t : FileTree) (place : Place) : List (String × Entry) :=
  t.entries.filterMap fun (k, e) =>
    if k.dropLast = place then k.getLast?.map fun name => (name, e) else none

/-- The entries at other places. -/
def others (t : FileTree) (place : Place) : List (Place × Entry) :=
  t.entries.filter fun e => e.1 != place

theorem place_notMem_others (t : FileTree) (place : Place) :
    place ∉ (t.others place).map Prod.fst := by
  simp [others]

/-- Puts an entry at a place, if all names on the way can be names. -/
def put (t : FileTree) (place : Place) (e : Entry) : FileTree :=
  if h : ∀ name ∈ place, isEntryName name = true then
    { entries := (place, e) :: t.others place
      distinct := List.nodup_cons.2 ⟨t.place_notMem_others place,
        t.distinct.sublist ((List.filter_sublist).map _)⟩
      named := fun x hx => by
        rcases List.mem_cons.1 hx with rfl | hx
        · exact h
        · exact t.named x (List.mem_filter.1 hx).1 }
  else t

/-- The files at places where another tree has nothing. -/
def filesBeyond (t other : FileTree) : List (Place × ByteArray) :=
  t.entries.filterMap fun (place, e) =>
    match other.get? place, e with
    | none, .file contents => some (place, contents)
    | _, _ => none

end FileTree
end Waymark
