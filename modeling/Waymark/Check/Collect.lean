import Waymark.Config.Basic
import Waymark.FileTree.Walk

/-! The files that a check looks at. -/
namespace Waymark
namespace Check

/-- Names of directories that are never searched. -/
def skippedDirectories : List String :=
  ["vendor", "node_modules", "target", "dist", "build", "__pycache__"]

/-- Whether a directory below the root is searched. -/
def enters (c : Config) (name : String) : Bool :=
  (c.includeHidden || !name.startsWith '.') && !skippedDirectories.contains name

/-- The path with these names between slashes. -/
def relativePath (names : List String) : String :=
  "/".intercalate names

/-- Whether a file below the root is checked: its language is known and no glob leaves it out. -/
def wants (c : Config) (names : List String) : Bool :=
  (Language.ofPath? ⟨relativePath names⟩).isSome && !c.excludes (relativePath names)

/-- The order of files: name by name from the root. -/
def comesBefore (a b : List String) : Bool :=
  (compare a b).isLE

/-- The files below a root in order of their paths. A root that is a file stands for itself. -/
def collect (t : FileTree) (c : Config) (root : Path) : Except WalkError (List Path) :=
  if t.isFile root then .ok [root]
  else
    (t.walk root (enters c)).map fun found =>
      ((found.filter (wants c)).mergeSort comesBefore).map root.descend

end Check
end Waymark
