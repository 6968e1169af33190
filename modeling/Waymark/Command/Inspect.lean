import Waymark.Command.World
import Waymark.Doc.Extract
import Waymark.Insertion
import Waymark.Json.Print

/-! The commands that look at the comments of one file. -/
namespace Waymark
namespace Command

def readFile (w : World) (file : Path) : Except Failure String :=
  (w.tree.read file).mapError (.unreadable file)

def showPoint (json : Bool) (p : InsertionPoint) : Outcome :=
  let status := if p.reason?.isSome then failedStatus else successStatus
  if json then ⟨status, p.toJson.prettyText ++ "\n", ""⟩
  else
    match p with
    | .line n => ⟨status, lines [toString n], ""⟩
    | .refused r => ⟨status, "", lines ["no safe insertion point: " ++ r.message]⟩

/-- The grammar and the language for an insertion point. -/
def planInsertPoint (w : World) (a : InsertPointArguments) :
    Except Outcome (Option Language × Grammar) := do
  let language ← chooseLanguage a.file a.language
  let (config, _) ← loadConfig w a.config
  return (language, ← loadGrammar w config)

def insertPointIn (w : World) (a : InsertPointArguments) : Except Failure Outcome :=
  match planInsertPoint w a with
  | .error refusal => .ok refusal
  | .ok (language, g) =>
    (readFile w a.file).map fun text =>
      showPoint a.json (InsertionPoint.find g language text a.file.raw)

/-- A doc comment as a JSON value, fields in alphabetical order. -/
def commentJson (d : Doc.Comment) : Json :=
  .obj
    [("content", .str (String.ofList d.content)),
      ("end_line", .nat d.endLine),
      ("format", .str d.format.name),
      ("kind", .str d.kind.name),
      ("language", .str d.language.id),
      ("raw", .str (String.ofList d.raw)),
      ("start_line", .nat d.startLine),
      ("summary", .str (String.ofList d.summary))]

def commentText (d : Doc.Comment) : String :=
  lines
    [d.format.name ++ " " ++ d.kind.name ++ " doc, lines " ++ toString d.startLine ++ "-" ++
        toString d.endLine,
      "summary: " ++ String.ofList d.summary,
      "",
      String.ofList d.content]

def showComment (json : Bool) : Option Doc.Comment → Outcome
  | none =>
    if json then ⟨failedStatus, lines ["null"], ""⟩
    else ⟨failedStatus, "", lines ["no doc comment found"]⟩
  | some d => succeed (if json then (commentJson d).prettyText ++ "\n" else commentText d)

def docstringIn (w : World) (a : DocstringArguments) : Except Failure Outcome :=
  match chooseLanguage a.file a.language with
  | .error refusal => .ok refusal
  | .ok none => .ok (refuse ["Error: cannot tell the language of " ++ a.file.raw])
  | .ok (some l) =>
    (readFile w a.file).map fun text => showComment a.json (Doc.extract l text.toList)

end Command
end Waymark
