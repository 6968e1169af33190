import Waymark.Check.Collect
import Waymark.Check.Run
import Waymark.Command.World
import Waymark.Report.Pretty

/-! The command that checks waymarks across files. -/
namespace Waymark
namespace Command

/-- The ways to show a report. -/
inductive ReportFormat where
  | pretty
  | json
  deriving DecidableEq, Repr

def ReportFormat.ofName? (s : String) : Option ReportFormat :=
  [("pretty", pretty), ("json", json)].lookup s

/-- Everything a check needs besides its files. -/
structure CheckPlan where
  format : ReportFormat
  config : Config
  configPath : Option Path
  grammar : Grammar
  /-- The directory that labels are relative to. -/
  base : Path

/-- The directory of a path: the path itself, or the one that holds the file. -/
def baseOf (p : Path) (isFile : Bool) : Path :=
  if isFile then p.parent?.getD ⟨""⟩ else p

def planCheck (w : World) (a : CheckArguments) : Except Outcome CheckPlan := do
  let format ←
    match ReportFormat.ofName? a.format with
    | some f => .ok f
    | none =>
      .error (refuse
        ["Error: invalid format " ++ quote a.format ++ ", must be 'pretty' or 'json'"])
  let (config, configPath) ← loadConfig w a.config
  let grammar ← loadGrammar w config
  match w.tree.contents? a.path with
  | .error e =>
    .error (refuse ["Error: cannot access path " ++
      String.ofList (Text.quoted .path a.path.raw.toList) ++ ": " ++ e.message])
  | .ok contents => .ok ⟨format, config, configPath, grammar, baseOf a.path contents.isSome⟩

/-- The mode that the command line asks for, or else the settings. -/
def checkMode (a : CheckArguments) (c : Config) : Mode :=
  if a.strict then .strict else c.mode

def showReport (w : World) (a : CheckArguments) (p : CheckPlan) (r : Report) : String :=
  let mode := checkMode a p.config
  match p.format with
  | .json => r.renderJson a.path.raw mode ++ "\n"
  | .pretty =>
    r.renderPretty (!a.noColor && w.terminal) a.path.raw (p.configPath.map Path.raw) mode

/-- The report of a check; the status tells whether the check has passed. -/
def concludeCheck (w : World) (a : CheckArguments) (p : CheckPlan) (r : Report) : Outcome :=
  let passed := (Summary.ofIssues r.issues).passed (checkMode a p.config)
  ⟨if passed then successStatus else failedStatus, showReport w a p r, ""⟩

def checkIn (w : World) (a : CheckArguments) : Except Failure Outcome :=
  match planCheck w a with
  | .error refusal => .ok refusal
  | .ok p =>
    match Check.collect w.tree p.config a.path with
    | .error e => .error (.walk e)
    | .ok [] => .ok ⟨successStatus, "", lines ["Warning: no files to scan"]⟩
    | .ok files =>
      match Check.run w.tree.read p.grammar p.config.checkOptions p.base files with
      | .error m => .ok (refuse ["Error: " ++ m.message])
      | .ok r => .ok (concludeCheck w a p r)

end Command
end Waymark
