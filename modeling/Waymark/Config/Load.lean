import Waymark.Config.Parse
import Waymark.FileTree.Access

/-! Config files. -/
namespace Waymark
namespace Config

/-- Names under which a config file is looked for, in this order. -/
def fileNames : List String :=
  ["waymark.yaml", ".waymark.yaml", ".waymark/config.yaml"]

/-- The config file of a directory. -/
def discover? (t : FileTree) (dir : Path) : Option Path :=
  (fileNames.map dir.join).find? t.isFile

/-- Why a config file cannot be used. -/
inductive FileError where
  | unreadable (cause : SystemError)
  | malformed (cause : ParseError)
  deriving DecidableEq, Repr

def FileError.message : FileError → String
  | unreadable cause => cause.message
  | malformed cause => cause.message

def parseFile (t : FileTree) (p : Path) : Except FileError Config :=
  match t.read p with
  | .error e => .error (.unreadable e)
  | .ok text => (parse text).mapError .malformed

structure LoadError where
  path : Path
  cause : FileError
  deriving DecidableEq, Repr

def LoadError.message (e : LoadError) : String :=
  "parsing config " ++ e.path.raw ++ ": " ++ e.cause.message

/-- The settings of the file that is given, or else of the one found in the directory, together
with the file they come from. Without a file they are the standard ones. -/
def load (t : FileTree) (given : Option Path) (dir : Path) :
    Except LoadError (Config × Option Path) :=
  match given.or (discover? t dir) with
  | none => .ok (standard, none)
  | some p =>
    match parseFile t p with
    | .ok c => .ok (c, some p)
    | .error e => .error ⟨p, e⟩

end Config
end Waymark
