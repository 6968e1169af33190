import Waymark.FileTree.Access
import Waymark.Json.Basic
import Waymark.Text.Hex

/-! File trees as JSON objects from paths to contents. A text is a file; other nodes are objects
that give the bytes of a file in base sixteen, ask for a directory, or name the target of a link. -/
namespace Waymark
namespace FileTree

/-- The bytes that pairs of digits stand for. -/
def hexBytes? : List Char → Option (List UInt8)
  | [] => some []
  | [_] => none
  | a :: b :: cs => do
    let high ← Text.hexValue? a
    let low ← Text.hexValue? b
    return UInt8.ofNat (16 * high + low) :: (← hexBytes? cs)

/-- Adds what a node describes at a path, and the directories above it. -/
def addNode? (t : FileTree) (path : String) (node : Json) : Option FileTree :=
  let p : Path := ⟨path⟩
  let based := (p.parent?.map fun dir => (t.makeDirectories dir).toOption).getD (some t)
  match node with
  | .string (some text) => based.bind fun u => (u.write p text.toUTF8).toOption
  | .object [(some "hex", .string (some digits))] =>
    based.bind fun u => (hexBytes? digits.toList).bind fun bytes =>
      (u.write p ⟨bytes.toArray⟩).toOption
  | .object [(some "dir", .bool true)] => (t.makeDirectories p).toOption
  | .object [(some "link", .string (some target))] =>
    based.bind fun u => (u.makeLink p target).toOption
  | _ => none

/-- The last value of each field, in the order of the field names. -/
def orderedFields (fields : List (Option String × Json)) : List (String × Json) :=
  let named := fields.filterMap fun (k, v) => k.map fun name => (name, v)
  let latest := named.reverse.foldl
    (fun kept f => if kept.any fun g => g.1 == f.1 then kept else f :: kept) []
  latest.mergeSort fun a b => (compare a.1 b.1).isLE

def ofJson? : Json → Option FileTree
  | .object fields => (orderedFields fields).foldlM (fun t (p, node) => t.addNode? p node) empty
  | _ => none

end FileTree
end Waymark
