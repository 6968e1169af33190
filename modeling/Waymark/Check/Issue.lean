import Waymark.Text.Lowercase

/-! Issues found by a check, and the verdict over all of them. -/
namespace Waymark

inductive Severity where
  | error
  | warning
  deriving DecidableEq, Repr

namespace Severity

def name : Severity → String
  | error => "error"
  | warning => "warning"

def ofName? (s : String) : Option Severity :=
  [error, warning].find? fun v => v.name == s

/-- The severity that a user names, in any letter case. -/
def parse? (s : String) : Option Severity :=
  ofName? (String.ofList (Text.lower s.toList))

/-- A name that stands for no severity. -/
structure Unknown where
  name : String
  deriving DecidableEq, Repr

def Unknown.message (u : Unknown) : String :=
  "unknown severity: " ++ u.name

def parse (s : String) : Except Unknown Severity :=
  (parse? s).elim (.error ⟨s⟩) .ok

end Severity

inductive Rule where
  | fileReadError
  | parseError
  | duplicateCanonical
  | danglingRelation
  | multipleTldr
  | tldrPosition
  | flaggedSignal
  deriving DecidableEq, Repr

namespace Rule

def all : List Rule :=
  [fileReadError, parseError, duplicateCanonical, danglingRelation, multipleTldr, tldrPosition,
    flaggedSignal]

def name : Rule → String
  | fileReadError => "file-read-error"
  | parseError => "parse-error"
  | duplicateCanonical => "duplicate-canonical"
  | danglingRelation => "dangling-relation"
  | multipleTldr => "multiple-tldr"
  | tldrPosition => "tldr-position"
  | flaggedSignal => "flagged-signal"

def ofName? (s : String) : Option Rule :=
  all.find? fun r => r.name == s

end Rule

structure Issue where
  file : String
  line : Option Nat
  rule : Rule
  severity : Severity
  message : String
  suggestion : Option String
  deriving DecidableEq, Repr

namespace Issue

/-- The file, and the line when there is one. -/
def location (i : Issue) : String :=
  match i.line with
  | some n => i.file ++ ":" ++ toString n
  | none => i.file

end Issue

/-- What a check run found. -/
structure Report where
  issues : List Issue
  filesScanned : Nat
  records : Nat
  deriving DecidableEq, Repr

namespace Report

def count (r : Report) (s : Severity) : Nat :=
  r.issues.countP fun i => i.severity = s

def hasErrors (r : Report) : Bool :=
  r.issues.any fun i => i.severity = .error

end Report

/-- What fails a check: errors alone, or warnings too. -/
inductive Mode where
  | default
  | strict
  deriving DecidableEq, Repr

namespace Mode

def name : Mode → String
  | default => "default"
  | strict => "strict"

def ofName? (s : String) : Option Mode :=
  [default, strict].find? fun m => m.name == s

end Mode

/-- Totals over a list of issues. -/
structure Summary where
  total : Nat
  errors : Nat
  warnings : Nat
  deriving DecidableEq, Repr

namespace Summary

def ofIssues (issues : List Issue) : Summary :=
  ⟨issues.length,
    issues.countP fun i => i.severity = .error,
    issues.countP fun i => i.severity = .warning⟩

def passed (s : Summary) : Mode → Bool
  | .default => s.errors == 0
  | .strict => s.errors == 0 && s.warnings == 0

end Summary
end Waymark
