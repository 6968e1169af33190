import Waymark.Command.Basic
import Waymark.Config.Load
import Waymark.FileTree.Walk
import Waymark.Program.Basic

/-! What commands see of the system, and how they end. -/
namespace Waymark
namespace Command

/-- The system that a command runs in. -/
structure World where
  tree : FileTree
  programs : Programs
  /-- Whether output goes to a terminal. -/
  terminal : Bool

/-- How a command ends, and what it writes. -/
structure Outcome where
  status : Nat
  stdout : String
  stderr : String
  deriving DecidableEq, Repr

/-- A failure that the command leaves to its caller. -/
inductive Failure where
  | walk (cause : WalkError)
  | unreadable (file : Path) (cause : SystemError)
  deriving DecidableEq, Repr

def Failure.message : Failure → String
  | walk cause => cause.message
  | unreadable file cause => "reading " ++ file.raw ++ ": " ++ cause.message

/-- Nothing is wrong. -/
def successStatus : Nat :=
  0

/-- What was looked for is not there, or a check has failed. -/
def failedStatus : Nat :=
  1

/-- The command could not do its work. -/
def errorStatus : Nat :=
  2

/-- Lines, each of them ended. -/
def lines (ls : List String) : String :=
  String.join (ls.map (· ++ "\n"))

def succeed (stdout : String) : Outcome :=
  ⟨successStatus, stdout, ""⟩

/-- A complaint, after which the command does nothing. -/
def refuse (ls : List String) : Outcome :=
  ⟨errorStatus, "", lines ls⟩

/-- A text between double quotes. -/
def quote (s : String) : String :=
  String.ofList (Text.quoted .text s.toList)

/-- The settings for a command, which have to make sense. -/
def loadConfig (w : World) (given : Option Path) : Except Outcome (Config × Option Path) :=
  match Config.load w.tree given ⟨"."⟩ with
  | .error e => .error (refuse ["Error: " ++ e.message])
  | .ok (c, path) =>
    match c.validate with
    | .error e => .error (refuse ["Error: invalid config: " ++ e.message])
    | .ok () => .ok (c, path)

/-- The grammar that the settings name. -/
def loadGrammar (w : World) (c : Config) : Except Outcome Grammar :=
  match GrammarCommand.ofArguments? c.command with
  | some g => .ok (g.grammar w.programs)
  | none =>
    .error (refuse ["Error: no grammar command configured",
      "Set grammar.command in waymark.yaml (run 'waymark init' to create one)"])

/-- The language that is named, or else that of the file. -/
def chooseLanguage (file : Path) : Option String → Except Outcome (Option Language)
  | none => .ok (Language.ofPath? file)
  | some id =>
    match Language.parse? id with
    | some l => .ok (some l)
    | none => .error (refuse ["Error: unknown language " ++ quote id])

end Command
end Waymark
