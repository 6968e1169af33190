import Waymark.Program.Basic
import Waymark.Shell.Script

/-! Running shell scripts. -/
namespace Waymark
namespace Shell

/-- A running script. -/
structure State where
  input : String
  stdout : String
  stderr : String
  /-- The status of the last command. -/
  status : Nat
  /-- How the script has ended, once it has. -/
  ending : Option Ending
  deriving DecidableEq, Repr

/-- The number of the process that runs the script. -/
def processNumber : String :=
  "2"

/-- The values of variables; those that are not set are empty. -/
def expand (environment : List (String × String)) (status : Nat) (w : Word) : String :=
  String.join (w.map fun
    | Part.text c => c.toString
    | Part.variable "?" => toString status
    | Part.variable "$" => processNumber
    | Part.variable name => (environment.lookup name).getD "")

/-- What the characters after a backslash in a format stand for. -/
def unescape : List Char → List Char
  | '\\' :: 'n' :: cs => '\n' :: unescape cs
  | '\\' :: 't' :: cs => '\t' :: unescape cs
  | '\\' :: 'r' :: cs => '\r' :: unescape cs
  | '\\' :: '\\' :: cs => '\\' :: unescape cs
  | c :: cs => c :: unescape cs
  | [] => []

/-- Fills the places of a format with arguments; missing ones are empty. Returns the arguments
that are left. -/
def fill : List Char → List String → List Char × List String
  | '%' :: 's' :: cs, args =>
    let (text, left) := fill cs (args.drop 1)
    ((args.headD "").toList ++ text, left)
  | '%' :: '%' :: cs, args =>
    let (text, left) := fill cs args
    ('%' :: text, left)
  | c :: cs, args =>
    let (text, left) := fill cs args
    (c :: text, left)
  | [], args => ([], args)

/-- A format is used again as long as it takes arguments. -/
def format (pattern : List Char) : Nat → List String → List Char
  | 0, _ => []
  | n + 1, args =>
    let (text, left) := fill pattern args
    if left.isEmpty || left.length = args.length then text else text ++ format pattern n left

/-- What a command does: its status, what it writes, what it leaves of its input, and how it ends
the script if it does. -/
structure Effect where
  status : Nat
  stdout : String
  stderr : String
  input : String
  ending : Option Ending
  deriving DecidableEq, Repr

/-- A command that writes a text. -/
def writes (text input : String) : Effect :=
  ⟨0, text, "", input, none⟩

/-- A command that does nothing but end with a status. -/
def ends (status : Nat) (input : String) : Effect :=
  ⟨status, "", "", input, none⟩

/-- A command that ends the script. -/
def leaves (status : Nat) (input : String) : Effect :=
  { ends status input with ending := some (.exited status) }

/-- A command that sends a signal to the script itself. -/
def kills (signal : Option Signal) (target input : String) : Effect :=
  if target = processNumber then { ends 0 input with ending := signal.map .killed }
  else ends 1 input

/-- The signal that an option names. -/
def signalOption? (text : String) : Option Signal :=
  match text.toList with
  | '-' :: name => Signal.ofText? (String.ofList name)
  | _ => none

/-- The text of arguments with their escapes taken away. -/
def echoed (args : List String) : String :=
  String.ofList (unescape (" ".intercalate args).toList)

def perform (status : Nat) (input : String) : List String → Effect
  | [] => ends 0 input
  | ["cat"] | ["cat", "-"] => writes input ""
  | "true" :: _ | ":" :: _ => ends 0 input
  | "false" :: _ => ends 1 input
  | ["exit"] => leaves status input
  | "exit" :: n :: _ => leaves (n.toNat?.getD 2 % 256) input
  | ["kill", target] => kills (some .terminate) target input
  | ["kill", "-s", name, target] => kills (Signal.ofText? name) target input
  | ["kill", option, target] => kills (signalOption? option) target input
  | "echo" :: "-n" :: args => writes (echoed args) input
  | "echo" :: args => writes (echoed args ++ "\n") input
  | "printf" :: pattern :: args =>
    writes (String.ofList (format (unescape pattern.toList) (args.length + 1) args)) input
  | name :: _ => ⟨127, "", "sh: 1: " ++ name ++ ": not found\n", input, none⟩

/-- Where the two output streams lead after the redirections. -/
def targets : List Redirection → Target × Target → Target × Target
  | [], ts => ts
  | .discard 1 :: rs, (_, two) => targets rs (.nowhere, two)
  | .discard 2 :: rs, (one, _) => targets rs (one, .nowhere)
  | .duplicate 1 2 :: rs, (_, two) => targets rs (two, two)
  | .duplicate 2 1 :: rs, (one, _) => targets rs (one, one)
  | _ :: rs, ts => targets rs ts

def State.send (s : State) (t : Target) (text : String) : State :=
  match t with
  | .output => { s with stdout := s.stdout ++ text }
  | .errors => { s with stderr := s.stderr ++ text }
  | .nowhere => s

/-- Runs a simple command. -/
def runSimple (environment : List (String × String)) (s : State) (c : Simple) : State :=
  let starved := c.redirections.contains .noInput
  let args := c.words.map (expand environment s.status)
  let e := perform s.status (if starved then "" else s.input) args
  let (one, two) := targets c.redirections (.output, .errors)
  let after := (s.send one e.stdout).send two e.stderr
  { after with
    input := if starved then s.input else e.input
    status := e.status
    ending := e.ending }

/-- An ending that a part of a pipeline brings to the whole script. -/
def killing? : Option Ending → Option Ending
  | some (.killed signal) => some (.killed signal)
  | _ => none

/-- Runs the commands of a pipeline, each of them on what the one before has written. -/
def runPipeline (environment : List (String × String)) (s : State) : List Simple → State
  | [] => s
  | [c] => runSimple environment s c
  | c :: cs =>
    let first := runSimple environment { s with stdout := "" } c
    let last := runPipeline environment { first with input := first.stdout, stdout := s.stdout } cs
    { last with
      input := first.input
      ending := (killing? first.ending).or (killing? last.ending) }

/-- Runs the steps of a script until one of them ends it. -/
def run (environment : List (String × String)) : State → List Step → State
  | s, [] => s
  | s, step :: rest =>
    if s.ending.isSome then s
    else if (step.joint = .onSuccess && s.status ≠ 0) || (step.joint = .onFailure && s.status = 0) then
      run environment s rest
    else run environment (runPipeline environment s step.pipeline) rest

/-- What a script does. -/
def execute (script : String) (environment : List (String × String)) (input : String) : Finished :=
  match parse? script with
  | none => ⟨.exited 2, "", "sh: 1: Syntax error\n"⟩
  | some script =>
    let s := run environment ⟨input, "", "", 0, none⟩ script
    ⟨s.ending.getD (.exited s.status), s.stdout, s.stderr⟩

end Shell
end Waymark
