import Waymark.Canonical.Graph
import Waymark.Check.Issue
import Waymark.Language

/-! The rules that waymarks must keep, across files and within each file. -/
namespace Waymark
namespace Check

structure Options where
  tldrMaxLine : Nat
  tldrMaxLineMarkdown : Nat
  previewLength : Nat
  deriving DecidableEq, Repr

/-- Twenty lines for code, fifty for Markdown, and fifty characters of a preview. -/
def Options.standard : Options :=
  ⟨20, 50, 50⟩

/-- Texts joined with a comma and a space. -/
def listed (parts : List String) : String :=
  ", ".intercalate parts

/-- One error for a canonical that is declared more than once, at its first declaration. -/
def duplicateIssue (token : String) (first : Location) (locations : List Location) : Issue :=
  { file := first.file
    line := some first.line
    rule := .duplicateCanonical
    severity := .error
    message := "canonical " ++ token ++ " is declared " ++ toString locations.length ++ " times: " ++
      listed (locations.map Location.text)
    suggestion := some "keep one declaration and point the others at it with a relation" }

def duplicateIssues (ix : Canonical.Index) : List Issue :=
  ix.duplicates.flatMap fun (token, locations) =>
    match locations with
    | [] => []
    | first :: _ => [duplicateIssue token first locations]

/-- The mention of other relations with the same canonical. -/
def othersText : Nat → String
  | 0 => ""
  | 1 => " (referenced from 1 other place)"
  | n => " (referenced from " ++ toString n ++ " other places)"

def danglingIssue (g : Canonical.Graph) (e : Canonical.Edge) : Issue :=
  { file := e.source.file
    line := some e.source.line
    rule := .danglingRelation
    severity := .error
    message := e.kind.name ++ ":" ++ String.ofList (Text.trim e.token.toList) ++
      " points at undeclared canonical" ++ othersText ((g.referrers e.token).length - 1)
    suggestion := some ("declare " ++ normalizeCanonical e.token ++
      " on the target waymark or fix the reference") }

def danglingIssues (g : Canonical.Graph) : List Issue :=
  g.dangling.map (danglingIssue g)

/-- The last line on which a file may have its summary. -/
def maxLine (o : Options) (file : String) : Nat :=
  if Language.ofPath? ⟨file⟩ = some .markdown then o.tldrMaxLineMarkdown else o.tldrMaxLine

/-- The error for more than one summary in a file, at the second one. -/
def multipleIssues (file : String) (lines : List Nat) : List Issue :=
  match lines with
  | _ :: second :: _ =>
    [{ file := file
       line := some second
       rule := .multipleTldr
       severity := .error
       message := toString lines.length ++ " tldr waymarks in one file (lines " ++
         listed (lines.map toString) ++ ")"
       suggestion := some "keep a single tldr per file" }]
  | _ => []

def positionIssue (file : String) (limit line : Nat) : Issue :=
  { file := file
    line := some line
    rule := .tldrPosition
    severity := .warning
    message := "tldr on line " ++ toString line ++ " is past line " ++ toString limit
    suggestion := some "move the tldr to the top of the file" }

/-- The start lines of the summaries of each file, by first summary. -/
def summaries (rs : List Record) : Grouped String Nat :=
  .ofList ((rs.filter Record.isSummary).map fun r => (r.file, r.startLine))

def tldrIssues (o : Options) (rs : List Record) : List Issue :=
  (summaries rs).groups.flatMap fun (file, lines) =>
    let limit := maxLine o file
    multipleIssues file lines ++
      (lines.filter fun l => limit < l).map (positionIssue file limit)

/-- The start of a text, with three dots for what is left out. -/
def preview (text : List Char) (limit : Nat) : List Char :=
  let t := Text.trim text
  if t.length ≤ limit then t else Text.trimEnd (t.take limit) ++ "...".toList

def flaggedIssue (o : Options) (r : Record) : Issue :=
  { file := r.file
    line := some r.startLine
    rule := .flaggedSignal
    severity := .warning
    message := "flagged " ++ r.marker ++ " waymark must be resolved before merge"
    suggestion := some (String.ofList (preview r.contents.toList o.previewLength)) }

def flaggedIssues (o : Options) (rs : List Record) : List Issue :=
  (rs.filter fun r => r.signals.flagged).map (flaggedIssue o)

/-- A record whose span is no span of lines. -/
structure Malformed where
  file : String
  startLine : Nat
  endLine : Nat
  deriving DecidableEq, Repr

def Malformed.message (m : Malformed) : String :=
  "malformed record in " ++ m.file ++ ": start line " ++ toString m.startLine ++ ", end line " ++
    toString m.endLine

/-- All issues of a list of records; the first record with a bad span stops the check. -/
def validate (o : Options) (rs : List Record) : Except Malformed (List Issue) :=
  match rs.find? fun r => !r.hasValidSpan with
  | some bad => .error ⟨bad.file, bad.startLine, bad.endLine⟩
  | none =>
    let g := Canonical.Graph.build rs
    .ok (duplicateIssues g.index ++ danglingIssues g ++ tldrIssues o rs ++ flaggedIssues o rs)

end Check
end Waymark
