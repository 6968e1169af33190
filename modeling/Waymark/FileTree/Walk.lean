import Waymark.FileTree.Access

/-! All files below a directory, links followed. -/
namespace Waymark

inductive WalkError where
  | system (path : Path) (cause : SystemError)
  /-- A link leads to a directory that is being searched. -/
  | loop (child ancestor : Path)
  deriving DecidableEq, Repr

def WalkError.message : WalkError → String
  | system path cause => "IO error for operation on " ++ path.raw ++ ": " ++ cause.message
  | loop child ancestor =>
    "File system loop found: " ++ child.raw ++ " points to an ancestor " ++ ancestor.raw

namespace Path

/-- The path that leads on from `p` along the names. -/
def descend (p : Path) (names : List String) : Path :=
  names.foldl join p

end Path

namespace FileTree

/-- Where an entry really is, and whether it is a directory. Only a link has to be looked up by its
path. -/
def settle (t : FileTree) (path : Path) (place : Place) : Entry → Except SystemError (Place × Bool)
  | .file _ => .ok (place, false)
  | .directory => .ok (place, true)
  | .link _ =>
    (t.locate path).map fun target =>
      (target, match t.get? target with
        | some .directory => true
        | _ => false)

def isLink : Entry → Bool
  | .link _ => true
  | _ => false

/-- The directories that are being searched, innermost first: where each one is, and the names
that led to it. -/
abbrev Trail := List (Place × List String)

/-- What is found below a directory, given the names that led to it. -/
abbrev Search := Trail → List String → Except WalkError (List (List String))

/-- The files at or below a child of a directory. A directory is searched if `enter` says so; a
link to a directory on the trail is an error. -/
def visitChild (t : FileTree) (root : Path) (enter : String → Bool) (search : Search)
    (trail : Trail) (here : Place) (names : List String) (name : String) (entry : Entry) :
    Except WalkError (List (List String)) :=
  let path := names ++ [name]
  match t.settle (root.descend path) (here ++ [name]) entry with
  | .error e => .error (.system (root.descend path) e)
  | .ok (_, false) => .ok [path]
  | .ok (place, true) =>
    match if isLink entry then trail.lookup place else none with
    | some ancestor => .error (.loop (root.descend path) (root.descend ancestor))
    | none => if enter name then search ((place, path) :: trail) path else .ok []

/-- The files below a directory that is opened by its path. No directory lies deeper than the
longest path has bytes. -/
def visit (t : FileTree) (root : Path) (enter : String → Bool) : (depth : Nat) → Search
  | 0, _, names => .error (.system (root.descend names) .nameTooLong)
  | depth + 1, trail, names =>
    match t.locate (root.descend names) with
    | .error e => .error (.system (root.descend names) e)
    | .ok here =>
      ((t.children here).mapM fun child =>
        visitChild t root enter (visit t root enter depth) trail here names child.1 child.2).map
        List.flatten

/-- The names that lead from a directory to the files below it. -/
def walk (t : FileTree) (root : Path) (enter : String → Bool) :
    Except WalkError (List (List String)) :=
  match t.locate root with
  | .error e => .error (.system root e)
  | .ok place => t.visit root enter pathLimit [(place, [])] []

end FileTree
end Waymark
