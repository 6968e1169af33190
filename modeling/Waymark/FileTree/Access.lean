import Waymark.FileTree.Basic

/-! Finding, reading and making entries by path. -/
namespace Waymark
namespace FileTree

/-- How many links are followed on the way to one entry. -/
def linkLimit : Nat :=
  40

/-- The longest path, in bytes. -/
def pathLimit : Nat :=
  4095

/-- The pieces of a path between its slashes. -/
def pieces (raw : String) : List String :=
  (raw.toList.splitOn '/').map String.ofList

/-- The place at which the pieces of a path start, when they are read at `here`. -/
def origin (here : Place) (raw : String) : Place :=
  if raw.startsWith '/' then [] else here

/-- What a missing entry means. -/
inductive Missing where
  /-- The way has to exist. -/
  | refused
  /-- The last piece may name an entry that is still to be made. -/
  | allowed
  deriving DecidableEq, Repr

/-- Walks along the pieces of a path from a directory. At a link, `jump` goes on from where the link
starts, along its pieces and the rest. -/
def along (t : FileTree) (missing : Missing)
    (jump : Place → List String → Except SystemError Place) (here : Place) :
    List String → Except SystemError Place
  | [] => .ok here
  | piece :: rest =>
    if piece = "" ∨ piece = "." then along t missing jump here rest
    else if piece = ".." then along t missing jump here.dropLast rest
    else if nameLimit < piece.utf8ByteSize then .error .nameTooLong
    else
      match t.get? (here ++ [piece]) with
      | none =>
        if missing = .refused ∨ rest.any (· ≠ "") then .error .notFound
        else if rest.isEmpty then .ok (here ++ [piece])
        else .error .isDirectory
      | some (.file _) => if rest.isEmpty then .ok (here ++ [piece]) else .error .notDirectory
      | some .directory => along t missing jump (here ++ [piece]) rest
      | some (.link target) => jump (origin here target) (pieces target ++ rest)

/-- Walks along the pieces of a path from a directory, and follows a number of links on the way. -/
def follow (t : FileTree) (missing : Missing) :
    (links : Nat) → Place → List String → Except SystemError Place
  | 0 => t.along missing fun _ _ => .error .tooManyLinks
  | links + 1 => t.along missing (t.follow missing links)

/-- The place that a path leads to from the top. -/
def locateAs (t : FileTree) (missing : Missing) (p : Path) : Except SystemError Place :=
  if '\x00' ∈ p.raw.toList then .error .nulInPath
  else if p.raw.isEmpty then .error .notFound
  else if pathLimit < p.raw.utf8ByteSize then .error .nameTooLong
  else t.follow missing linkLimit [] (pieces p.raw)

def locate (t : FileTree) (p : Path) : Except SystemError Place :=
  t.locateAs .refused p

/-- What stands at the end of a path: a file with its contents, or nothing for a directory. -/
def contents? (t : FileTree) (p : Path) : Except SystemError (Option ByteArray) :=
  (t.locate p).map fun place =>
    match t.get? place with
    | some (.file contents) => some contents
    | _ => none

def isFile (t : FileTree) (p : Path) : Bool :=
  match t.contents? p with
  | .ok (some _) => true
  | _ => false

def isDirectory (t : FileTree) (p : Path) : Bool :=
  match t.contents? p with
  | .ok none => true
  | _ => false

def contains (t : FileTree) (p : Path) : Bool :=
  (t.locate p).isOk

/-- The text of a file. -/
def read (t : FileTree) (p : Path) : Except SystemError String :=
  match t.contents? p with
  | .error e => .error e
  | .ok none => .error .isDirectory
  | .ok (some contents) => (String.fromUTF8? contents).elim (.error .invalidText) .ok

/-- Makes a file or replaces its contents. -/
def write (t : FileTree) (p : Path) (contents : ByteArray) : Except SystemError FileTree :=
  match t.locateAs .allowed p with
  | .error e => .error e
  | .ok place =>
    match t.get? place with
    | some .directory => .error .isDirectory
    | _ => .ok (t.put place (.file contents))

/-- The directory and the name that a new entry gets. -/
def newPlace (t : FileTree) (p : Path) : Except SystemError Place :=
  let parts := Text.dropEndWhile (· = "") (pieces p.raw)
  match parts.getLast?, t.follow .refused linkLimit [] (parts.dropLast ++ [""]) with
  | none, _ => .error (if p.raw.isEmpty then .notFound else .alreadyExists)
  | _, .error e => .error e
  | some name, .ok parent =>
    if '\x00' ∈ p.raw.toList then .error .nulInPath
    else if name = "." ∨ name = ".." then .error .alreadyExists
    else if nameLimit < name.utf8ByteSize then .error .nameTooLong
    else if (t.get? (parent ++ [name])).isSome then .error .alreadyExists
    else .ok (parent ++ [name])

def makeDirectory (t : FileTree) (p : Path) : Except SystemError FileTree :=
  (t.newPlace p).map fun place => t.put place .directory

def makeLink (t : FileTree) (p : Path) (target : String) : Except SystemError FileTree :=
  (t.newPlace p).map fun place => t.put place (.link target)

/-- A path and the directories above it, nearest first. -/
def ascent : Nat → Path → List Path
  | 0, p => [p]
  | n + 1, p =>
    match p.parent? with
    | some parent => p :: ascent n parent
    | none => [p]

/-- Makes the first of the directories, and the others as far as they are needed for that. -/
def makeFirst (t : FileTree) : List Path → Except SystemError FileTree
  | [] => .ok t
  | p :: above =>
    if p.raw.isEmpty then .ok t
    else
      match t.makeDirectory p with
      | .ok made => .ok made
      | .error .notFound =>
        match t.makeFirst above with
        | .error e => .error e
        | .ok based =>
          match based.makeDirectory p with
          | .ok made => .ok made
          | .error e => if based.isDirectory p then .ok based else .error e
      | .error e => if t.isDirectory p then .ok t else .error e

/-- Makes a directory and all directories above it. -/
def makeDirectories (t : FileTree) (p : Path) : Except SystemError FileTree :=
  t.makeFirst (ascent p.components.length p)

end FileTree
end Waymark
