import Waymark.Check.Rules
import Waymark.Grammar.Basic

/-! A check run: files are read and parsed one by one, then all records are checked together. -/
namespace Waymark
namespace Check

/-- The name of a file in issues: its path below the base directory, written with slashes. -/
def label (base path : Path) : String :=
  let relative := (Path.strip? base path).getD path
  if relative.raw.isEmpty then path.slashed else relative.slashed

/-- How files are read. -/
abbrev Reader := Path → Except SystemError String

def readIssue (file : String) (e : SystemError) : Issue :=
  { file := file
    line := none
    rule := .fileReadError
    severity := .error
    message := "could not read file: " ++ e.message
    suggestion := none }

def parseIssue (file : String) (e : GrammarError) : Issue :=
  { file := file
    line := none
    rule := .parseError
    severity := .error
    message := "could not parse waymarks: " ++ e.message
    suggestion := none }

/-- The records of one file under its label, or the issue that keeps them away. -/
def load (read : Reader) (g : Grammar) (base path : Path) : Except Issue (List Record) :=
  let file := label base path
  match read path with
  | .error e => .error (readIssue file e)
  | .ok source =>
    match g source file with
    | .error e => .error (parseIssue file e)
    | .ok rs => .ok (rs.map (Record.stamp file))

/-- The issues of files that could not be loaded. -/
def failures (outcomes : List (Except Issue (List Record))) : List Issue :=
  outcomes.filterMap fun
    | .error i => some i
    | .ok _ => none

/-- The records of files that could be loaded. -/
def parsed (outcomes : List (Except Issue (List Record))) : List Record :=
  outcomes.flatMap fun
    | .error _ => []
    | .ok rs => rs

/-- Checks the files. A file that cannot be loaded is reported and does not stop the others. -/
def run (read : Reader) (g : Grammar) (o : Options) (base : Path) (files : List Path) :
    Except Malformed Report :=
  let outcomes := files.map (load read g base)
  let rs := parsed outcomes
  (validate o rs).map fun issues => ⟨failures outcomes ++ issues, files.length, rs.length⟩

end Check
end Waymark
