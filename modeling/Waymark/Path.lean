import Waymark.Text.Blank

/-! Paths as they are written, and the components they are made of. Pieces that are empty or a
single dot carry no component, except for a dot that opens the path. Every path is a text, that is,
valid UTF-8; paths whose bytes are not are left out. -/
namespace Waymark

structure Path where
  raw : String
  deriving DecidableEq, Repr

namespace Path

/-- The root comes first in their order, then the two dotted components, then all names. -/
inductive Component where
  | root
  | here
  | up
  | name (text : String)
  deriving DecidableEq, Repr, Ord

/-- Whether a piece between slashes stands for nothing. -/
def isVoid (piece : List Char) : Bool :=
  piece.isEmpty || piece == ['.']

def component? (piece : List Char) : Option Component :=
  if isVoid piece then none
  else if piece == ['.', '.'] then some .up
  else some (.name (String.ofList piece))

/-- The component that only the head of a path can hold, and the pieces after it. -/
def divide (p : Path) : Option Component × List (List Char) :=
  match p.raw.toList.splitOn '/' with
  | [] :: piece :: pieces => (some .root, piece :: pieces)
  | ['.'] :: pieces => (some .here, pieces)
  | pieces => (none, pieces)

def components (p : Path) : List Component :=
  p.divide.1.toList ++ p.divide.2.filterMap component?

instance : Ord Path where
  compare p q := compare p.components q.components

/-- The pieces joined by slashes. -/
def ofPieces (pieces : List (List Char)) : Path :=
  ⟨String.ofList (Text.joinWith '/' pieces)⟩

/-- The path that is divided into a head and pieces. -/
def assemble (head : Option Component) (pieces : List (List Char)) : Path :=
  match head with
  | some .root => ofPieces ([] :: if pieces.isEmpty then [[]] else pieces)
  | some .here => ofPieces (['.'] :: pieces)
  | _ => ofPieces pieces

/-- Removes the components from the head of the pieces. -/
def dropComponents : List Component → List (List Char) → Option (List (List Char))
  | [], pieces => some pieces
  | _ :: _, [] => none
  | c :: cs, piece :: pieces =>
    if isVoid piece then dropComponents (c :: cs) pieces
    else if component? piece = some c then dropComponents cs pieces
    else none

/-- The path relative to `base`, when the components of `base` open it. -/
def strip? (base p : Path) : Option Path :=
  let (head, pieces) := p.divide
  match base.components, head with
  | [], _ => some (assemble head (Text.dropEndWhile isVoid pieces))
  | c :: cs, some h =>
    if c = h then (dropComponents cs pieces).map trimmed else none
  | cs, none => (dropComponents cs pieces).map trimmed
where
  trimmed (pieces : List (List Char)) : Path :=
    ofPieces (Text.dropEndWhile isVoid (pieces.dropWhile isVoid))

/-- The path without its last component. -/
def parent? (p : Path) : Option Path :=
  let (head, pieces) := p.divide
  match Text.dropEndWhile isVoid pieces, head with
  | [], some .here => some ⟨""⟩
  | [], _ => none
  | piece :: rest, _ => some (assemble head (Text.dropEndWhile isVoid (piece :: rest).dropLast))

/-- The last component, when it is a name. -/
def fileName? (p : Path) : Option String :=
  match p.components.getLast? with
  | some (.name n) => some n
  | _ => none

/-- What follows the last dot of the file name, unless that dot opens the name. -/
def extension? (p : Path) : Option String :=
  p.fileName?.bind fun n =>
    match n.toList.reverse.span (· ≠ '.') with
    | (_, []) => none
    | (_, [_]) => none
    | (rev, _ :: _ :: _) => some (String.ofList rev.reverse)

/-- The path of `name` inside the directory `dir`; a rooted `name` stands for itself. -/
def join (dir : Path) (name : String) : Path :=
  if dir.raw.isEmpty || name.startsWith '/' then ⟨name⟩
  else if dir.raw.endsWith '/' then ⟨dir.raw ++ name⟩
  else ⟨dir.raw ++ "/" ++ name⟩

/-- The path with every backslash turned into a slash. -/
def slashed (p : Path) : String :=
  p.raw.map fun c => if c = '\\' then '/' else c

end Path
end Waymark
