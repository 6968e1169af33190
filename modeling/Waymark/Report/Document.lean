import Waymark.Check.Issue
import Waymark.Json.Decode
import Waymark.Json.Print

/-! The report of a check as a JSON document. -/
namespace Waymark

open Json

/-- The version of the program. -/
def version : String :=
  "0.1.0"

def Summary.toJson (s : Summary) : Json :=
  .obj [("total", .nat s.total), ("errors", .nat s.errors), ("warnings", .nat s.warnings)]

def Summary.ofJson? (v : Json) : Option Summary :=
  match columns? ["total", "errors", "warnings"] v with
  | some [total, errors, warnings] => do
    return ⟨← required? nat? total, ← required? nat? errors, ← required? nat? warnings⟩
  | _ => none

/-- A field that is left out when there is no value. -/
def fieldIfSome {α : Type} (name : String) (f : α → Json) : Option α → List (String × Json)
  | some v => [(name, f v)]
  | none => []

namespace Issue

def toJson (i : Issue) : Json :=
  .obj (
    [("file", .str i.file)] ++ fieldIfSome "line" .nat i.line ++
    [("rule", .str i.rule.name), ("severity", .str i.severity.name), ("message", .str i.message)] ++
    fieldIfSome "suggestion" .str i.suggestion)

def ofJson? (v : Json) : Option Issue :=
  match columns? ["file", "line", "rule", "severity", "message", "suggestion"] v with
  | some [file, line, rule, severity, message, suggestion] => do
    return {
      file := ← required? str? file
      line := ← optional? none (nullable? nat?) line
      rule := ← required? (enum? Rule.ofName?) rule
      severity := ← required? (enum? Severity.ofName?) severity
      message := ← required? str? message
      suggestion := ← optional? none (nullable? str?) suggestion }
  | _ => none

end Issue

namespace Report

def ofJson? (v : Json) : Option Report :=
  match columns? ["issues", "files_scanned", "records"] v with
  | some [issues, filesScanned, records] => do
    return {
      issues := ← required? (list? Issue.ofJson?) issues
      filesScanned := ← required? nat? filesScanned
      records := ← required? nat? records }
  | _ => none

def toJson (r : Report) : Json :=
  .obj [("issues", .array (r.issues.map Issue.toJson)), ("files_scanned", .nat r.filesScanned),
    ("records", .nat r.records)]

/-- A report with everything a reader needs to judge it. -/
structure Document where
  version : String
  path : String
  mode : Mode
  passed : Bool
  filesScanned : Nat
  records : Nat
  summary : Summary
  issues : List Issue
  deriving DecidableEq, Repr

namespace Document

def ofReport (path : String) (r : Report) (mode : Mode) : Document :=
  let summary := Summary.ofIssues r.issues
  { version := Waymark.version
    path := path
    mode := mode
    passed := summary.passed mode
    filesScanned := r.filesScanned
    records := r.records
    summary := summary
    issues := r.issues }

def toJson (d : Document) : Json :=
  .obj
    [("version", .str d.version),
      ("path", .str d.path),
      ("mode", .str d.mode.name),
      ("passed", .bool d.passed),
      ("files_scanned", .nat d.filesScanned),
      ("records", .nat d.records),
      ("summary", d.summary.toJson),
      ("issues", .array (d.issues.map Issue.toJson))]

def fieldNames : List String :=
  ["version", "path", "mode", "passed", "files_scanned", "records", "summary", "issues"]

def ofJson? (v : Json) : Option Document :=
  match columns? fieldNames v with
  | some [version, path, mode, passed, filesScanned, records, summary, issues] => do
    return {
      version := ← required? str? version
      path := ← required? str? path
      mode := ← required? (enum? Mode.ofName?) mode
      passed := ← required? bool? passed
      filesScanned := ← required? nat? filesScanned
      records := ← required? nat? records
      summary := ← required? Summary.ofJson? summary
      issues := ← required? (list? Issue.ofJson?) issues }
  | _ => none

end Document

/-- The report as indented JSON text. -/
def renderJson (path : String) (r : Report) (mode : Mode) : String :=
  prettyText (Document.ofReport path r mode).toJson

end Report
end Waymark
