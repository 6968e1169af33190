import Waymark.Grammar.Basic
import Waymark.Text.Blank

/-! External programs, and grammars that call them. -/
namespace Waymark

/-- What a program that has ended leaves behind. -/
structure Finished where
  ending : Ending
  stdout : String
  stderr : String
  deriving DecidableEq, Repr

/-- A call of a program with arguments, variables of its environment, and input. -/
structure Invocation where
  program : String
  arguments : List String
  environment : List (String × String)
  input : String
  deriving DecidableEq, Repr

/-- The behaviour of all programs: an invocation runs to its end, or cannot be started. -/
abbrev Programs := Invocation → Except SystemError Finished

/-- A program and its arguments, which read source and write records. -/
structure GrammarCommand where
  program : String
  arguments : List String
  deriving DecidableEq, Repr

namespace GrammarCommand

/-- The variable that tells the program which file it reads. -/
def fileVariable : String :=
  "WAYMARK_FILE"

def ofArguments? : List String → Option GrammarCommand
  | [] => none
  | program :: arguments => some ⟨program, arguments⟩

/-- The command as it is shown in messages. -/
def text (c : GrammarCommand) : String :=
  " ".intercalate (c.program :: c.arguments)

/-- The grammar that gives the source to the program and reads what it writes. -/
def grammar (c : GrammarCommand) (programs : Programs) : Grammar := fun source file =>
  match programs ⟨c.program, c.arguments, [(fileVariable, file)], source⟩ with
  | .error e => .error (.spawn c.text e)
  | .ok out =>
    if out.ending = .exited 0 then (decodeRecords out.stdout file).mapError .decode
    else
      .error (.failed c.text out.ending (String.ofList (Text.trim out.stderr.toList)))

end GrammarCommand
end Waymark
