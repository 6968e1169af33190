import Waymark.Report.Document
import Waymark.Report.Style
import Waymark.Text.Blank

/-! The report of a check as text for a terminal. -/
namespace Waymark
namespace Report

/-- A count and the noun it counts. -/
def counted (n : Nat) (noun : String) : String :=
  toString n ++ " " ++ noun ++ (if n = 1 then "" else "s")

def header (color : Bool) (path : String) (config : Option String) (mode : Mode) : String :=
  "\n  " ++ Style.title.paint color "waymark" ++ " v" ++ version ++ "\n\n" ++
    "  " ++ Style.dimmed.paint color "Scanning: " ++ path ++ "\n" ++
    "  " ++ Style.dimmed.paint color "Config:   " ++ config.getD "(defaults)" ++ "\n" ++
    "  " ++ Style.dimmed.paint color "Mode:     " ++ mode.name ++ "\n\n"

def severityTag (color : Bool) : Severity → String
  | .error => "    " ++ Style.red.paint color "ERROR" ++ " "
  | .warning => "    " ++ Style.yellow.paint color "WARN " ++ " "

/-- An issue: where it is, what it is, and a hint if there is one. -/
def issueText (color : Bool) (i : Issue) : String :=
  severityTag color i.severity ++
    "   " ++ Style.dimmed.paint color (Text.padded 20 i.rule.name) ++
    Style.blue.paint color i.file ++
    (match i.line with
      | some n => Style.dimmed.paint color (":" ++ toString n)
      | none => "") ++
    "\n            " ++ i.message ++ "\n" ++
    (match i.suggestion with
      | some s => "            " ++ Style.dimmed.paint color ("hint: " ++ s) ++ "\n"
      | none => "") ++
    "\n"

def issuesText (color : Bool) (issues : List Issue) : String :=
  if issues.isEmpty then ""
  else
    "  " ++ Style.bold.paint color "Issues" ++ " (" ++ toString issues.length ++ "):\n\n" ++
      String.join (issues.map (issueText color))

def statusText (color : Bool) (r : Report) (mode : Mode) : String :=
  let summary := Summary.ofIssues r.issues
  let status :=
    if summary.passed mode then Style.green.paint color "✓ PASS" else Style.red.paint color "✗ FAIL"
  "  " ++ status ++ "  " ++ counted r.filesScanned "file" ++ " scanned, " ++
    counted r.records "waymark" ++ ", " ++ counted summary.errors "error" ++ ", " ++
    counted summary.warnings "warning" ++ "\n"

/-- The whole report. -/
def renderPretty (color : Bool) (path : String) (config : Option String) (r : Report)
    (mode : Mode) : String :=
  header color path config mode ++ issuesText color r.issues ++ statusText color r mode ++ "\n"

end Report
end Waymark
