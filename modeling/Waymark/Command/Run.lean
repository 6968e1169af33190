import Waymark.Command.Check
import Waymark.Command.Init
import Waymark.Command.Inspect

/-! Running commands. -/
namespace Waymark
namespace Command

/-- Runs a command, and returns the tree that it leaves. -/
def run (w : World) : Command → Except Failure Outcome × FileTree
  | .check a => (checkIn w a, w.tree)
  | .insertPoint a => (insertPointIn w a, w.tree)
  | .docstring a => (docstringIn w a, w.tree)
  | .init a => (initIn w.tree a).map .ok id

/-- How the program ends when its command line is not carried out. -/
def usageOutcome (u : Usage) : Outcome :=
  match u with
  | .version => ⟨u.status, lines ["waymark " ++ version], ""⟩
  | _ => ⟨u.status, "", ""⟩

/-- How a command ends; a failure ends it with an error. -/
def conclude : Except Failure Outcome → Outcome
  | .ok o => o
  | .error e => refuse ["Error: " ++ e.message]

/-- Runs the program on a command line. -/
def execute (w : World) (args : List String) : Outcome × FileTree :=
  match parse args with
  | .error u => (usageOutcome u, w.tree)
  | .ok c => (run w c).map conclude id

end Command
end Waymark
