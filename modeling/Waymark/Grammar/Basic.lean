import Waymark.Json.Parse
import Waymark.Program.Ending
import Waymark.Record.Wire
import Waymark.SystemError

/-! Grammars turn source text into waymark records. -/
namespace Waymark

/-- Why a text is no list of records. -/
inductive DecodeError where
  | notJson (cause : Json.ParseError)
  | notRecords
  deriving DecidableEq, Repr

def DecodeError.message : DecodeError → String
  | notJson cause => cause.message
  | notRecords => "the value is no list of waymark records"

inductive GrammarError where
  /-- The source breaks the rules of the grammar. -/
  | malformed (file message : String)
  /-- The command could not be started. -/
  | spawn (command : String) (cause : SystemError)
  /-- The command ended otherwise than with status zero. -/
  | failed (command : String) (ending : Ending) (stderr : String)
  /-- The command wrote something else than a list of records. -/
  | decode (cause : DecodeError)
  deriving DecidableEq, Repr

def GrammarError.message : GrammarError → String
  | malformed file message => file ++ ": " ++ message
  | spawn command cause => "failed to run grammar command `" ++ command ++ "`: " ++ cause.message
  | failed command ending stderr =>
    "grammar command `" ++ command ++ "` exited with " ++ ending.text ++ ": " ++ stderr
  | decode cause => "grammar output is not a record list: " ++ cause.message

/-- A grammar reads the source of a file, which it may name in errors and records. -/
abbrev Grammar := (source file : String) → Except GrammarError (List Record)

/-- Whether the source holds a waymark with this marker. -/
def Grammar.containsMarker (g : Grammar) (source file marker : String) :
    Except GrammarError Bool :=
  (g source file).map fun rs => rs.any fun r => r.hasMarker marker

/-- Reads a JSON list of records; each of them is given the file. -/
def decodeRecords (output file : String) : Except DecodeError (List Record) :=
  match Json.parse output.toList with
  | .error e => .error (.notJson e)
  | .ok v =>
    match Record.listOfJson? v with
    | some rs => .ok (rs.map (Record.stamp file))
    | none => .error .notRecords

/-- The grammar of sources that are lists of records already. -/
def Grammar.records : Grammar := fun source file =>
  (decodeRecords source file).mapError .decode

end Waymark
