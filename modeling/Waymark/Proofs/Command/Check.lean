import Waymark.Command.Run
import Waymark.Proofs.Check.Verdict
import Waymark.Proofs.Record.Wire
import Waymark.Proofs.Report.Document
import Waymark.Proofs.Report.Pretty

/-! How a check ends. It is refused for reasons that have nothing to do with strictness, or it has no
files to look at. Otherwise its report is the same in both modes, and the status agrees with what
the report says. -/
namespace Waymark
namespace Command

section Plan

variable {w : World} {a : CheckArguments} {p : CheckPlan}

/-- What a plan is made of. -/
structure Planned (w : World) (a : CheckArguments) (p : CheckPlan) : Prop where
  format : ReportFormat.ofName? a.format = some p.format
  loaded : Config.load w.tree a.config ⟨"."⟩ = .ok (p.config, p.configPath)
  valid : p.config.validate = .ok ()
  grammar : ∃ g, GrammarCommand.ofArguments? p.config.command = some g ∧
    p.grammar = g.grammar w.programs
  base : ∃ contents, w.tree.contents? a.path = .ok contents ∧
    p.base = baseOf a.path contents.isSome

/-- Why a check cannot do its work. -/
inductive Refused (w : World) (a : CheckArguments) : Prop
  | format (hformat : a.format ∉ ["pretty", "json"])
  | unloadable {e : Config.LoadError} (hload : Config.load w.tree a.config ⟨"."⟩ = .error e)
  | invalid {c : Config} {path : Option Path} {e : Config.Invalid}
      (hload : Config.load w.tree a.config ⟨"."⟩ = .ok (c, path)) (hinvalid : c.validate = .error e)
  | noGrammar {c : Config} {path : Option Path}
      (hload : Config.load w.tree a.config ⟨"."⟩ = .ok (c, path)) (hcommand : c.command = [])
  | inaccessible {e : SystemError} (hpath : w.tree.contents? a.path = .error e)
  | unwalkable {c : Config} {path : Option Path} {e : WalkError}
      (hload : Config.load w.tree a.config ⟨"."⟩ = .ok (c, path))
      (hwalk : Check.collect w.tree c a.path = .error e)
  | malformed {p : CheckPlan} {files : List Path} {r : Record} (hplan : Planned w a p)
      (hfiles : Check.collect w.tree p.config a.path = .ok files)
      (hr : r ∈ Check.corpus w.tree.read p.grammar p.base files)
      (hspan : ¬(1 ≤ r.startLine ∧ r.startLine ≤ r.endLine))

lemma ofName?_eq_none_iff {s : String} :
    ReportFormat.ofName? s = none ↔ s ∉ ["pretty", "json"] := by
  simp [ReportFormat.ofName?, List.lookup_eq_none_iff]

lemma ofArguments?_eq_none_iff {arguments : List String} :
    GrammarCommand.ofArguments? arguments = none ↔ arguments = [] := by
  cases arguments with
  | nil => simp [GrammarCommand.ofArguments?]
  | cons program arguments => simp [GrammarCommand.ofArguments?]

/-- Settings are refused if their file cannot be used or they make no sense. -/
lemma loadConfig_cases (w : World) (given : Option Path) :
    (∃ ls, loadConfig w given = .error (refuse ls) ∧
      ((∃ e, Config.load w.tree given ⟨"."⟩ = .error e) ∨
        ∃ c path e, Config.load w.tree given ⟨"."⟩ = .ok (c, path) ∧ c.validate = .error e)) ∨
    ∃ c path, Config.load w.tree given ⟨"."⟩ = .ok (c, path) ∧ c.validate = .ok () ∧
      loadConfig w given = .ok (c, path) := by
  rw [loadConfig]
  cases hload : Config.load w.tree given ⟨"."⟩ with
  | error e => exact .inl ⟨_, rfl, .inl ⟨e, rfl⟩⟩
  | ok loaded =>
    obtain ⟨c, path⟩ := loaded
    dsimp only
    cases hvalid : c.validate with
    | error e => exact .inl ⟨_, rfl, .inr ⟨c, path, e, rfl, hvalid⟩⟩
    | ok => exact .inr ⟨c, path, rfl, hvalid, rfl⟩

/-- The first step of a check fails only with a complaint, and then the check is refused. -/
lemma planCheck_cases (w : World) (a : CheckArguments) :
    (Refused w a ∧ ∃ ls, planCheck w a = .error (refuse ls)) ∨
      ∃ p, Planned w a p ∧ planCheck w a = .ok p := by
  rw [planCheck]
  cases hformat : ReportFormat.ofName? a.format with
  | none => exact .inl ⟨.format (ofName?_eq_none_iff.1 hformat), _, rfl⟩
  | some format =>
    obtain ⟨ls, hrefused, hwhy⟩ | ⟨c, path, hload, hvalid, hconfig⟩ := loadConfig_cases w a.config
    · rw [hrefused]
      obtain ⟨e, hload⟩ | ⟨c, path, e, hload, hinvalid⟩ := hwhy
      · exact .inl ⟨.unloadable hload, ls, rfl⟩
      · exact .inl ⟨.invalid hload hinvalid, ls, rfl⟩
    · rw [hconfig]
      simp only [bind, Except.bind, loadGrammar]
      cases hgrammar : GrammarCommand.ofArguments? c.command with
      | none => exact .inl ⟨.noGrammar hload (ofArguments?_eq_none_iff.1 hgrammar), _, rfl⟩
      | some g =>
        cases hcontents : w.tree.contents? a.path with
        | error e => exact .inl ⟨.inaccessible hcontents, _, rfl⟩
        | ok contents =>
          exact .inr ⟨⟨format, c, path, g.grammar w.programs, baseOf a.path contents.isSome⟩,
            ⟨hformat, hload, hvalid, ⟨g, hgrammar, rfl⟩, contents, hcontents, rfl⟩, rfl⟩

lemma Planned.planCheck_eq (h : Planned w a p) : planCheck w a = .ok p := by
  obtain ⟨g, hgrammar, hg⟩ := h.grammar
  obtain ⟨contents, hcontents, hbase⟩ := h.base
  simp only [planCheck, h.format, loadConfig, h.loaded, h.valid, loadGrammar, bind, Except.bind,
    hgrammar, hcontents, ← hg, ← hbase]

/-- What is planned does not depend on strictness. -/
lemma planCheck_strict (w : World) (a : CheckArguments) (strict : Bool) :
    planCheck w { a with strict := strict } = planCheck w a := rfl

/-- With a plan, a check is refused only for what it finds in the files. -/
lemma Planned.refused_iff (h : Planned w a p) :
    Refused w a ↔
      (∃ e, Check.collect w.tree p.config a.path = .error e) ∨
        ∃ files m, Check.collect w.tree p.config a.path = .ok files ∧
          Check.run w.tree.read p.grammar p.config.checkOptions p.base files = .error m := by
  have herror := Check.run_eq_error_iff w.tree.read p.grammar p.base p.config.checkOptions
  constructor
  · intro hrefused
    cases hrefused with
    | format hformat =>
      have hformat := h.format.symm.trans (ofName?_eq_none_iff.2 hformat)
      cases hformat
    | unloadable hload =>
      have hload := h.loaded.symm.trans hload
      cases hload
    | invalid hload hinvalid =>
      obtain ⟨rfl, -⟩ := Prod.mk.inj (Except.ok.inj (h.loaded.symm.trans hload))
      have hvalid := h.valid.symm.trans hinvalid
      cases hvalid
    | noGrammar hload hcommand =>
      obtain ⟨rfl, -⟩ := Prod.mk.inj (Except.ok.inj (h.loaded.symm.trans hload))
      obtain ⟨g, hgrammar, -⟩ := h.grammar
      have hgrammar := hgrammar.symm.trans (ofArguments?_eq_none_iff.2 hcommand)
      cases hgrammar
    | inaccessible hpath =>
      obtain ⟨contents, hcontents, -⟩ := h.base
      have hcontents := hcontents.symm.trans hpath
      cases hcontents
    | @unwalkable _ _ e hload hwalk =>
      obtain ⟨rfl, -⟩ := Prod.mk.inj (Except.ok.inj (h.loaded.symm.trans hload))
      exact .inl ⟨e, hwalk⟩
    | @malformed q files r hplan hfiles hr hspan =>
      obtain rfl := Except.ok.inj (h.planCheck_eq.symm.trans hplan.planCheck_eq)
      obtain ⟨m, hrun⟩ := (herror files).2 ⟨r, hr, by simpa [Record.hasValidSpan] using hspan⟩
      exact .inr ⟨files, m, hfiles, hrun⟩
  · rintro (⟨e, hwalk⟩ | ⟨files, m, hfiles, hrun⟩)
    · exact .unwalkable h.loaded hwalk
    · obtain ⟨r, hr, hspan⟩ := (herror files).1 ⟨m, hrun⟩
      exact .malformed h hfiles hr (by simpa [Record.hasValidSpan] using hspan)

end Plan

/-- The tree has no files to check. -/
def Idle (w : World) (a : CheckArguments) : Prop :=
  ∃ p, Planned w a p ∧ Check.collect w.tree p.config a.path = .ok []

/-- What a check that has files to look at finds in them. -/
structure Finds (w : World) (a : CheckArguments) (p : CheckPlan) (r : Report) : Prop where
  planned : Planned w a p
  ran : ∃ file files, Check.collect w.tree p.config a.path = .ok (file :: files) ∧
    Check.run w.tree.read p.grammar p.config.checkOptions p.base (file :: files) = .ok r

/-- How a check ends that is run with or without the flag for strictness, all else equal. -/
def outcome (w : World) (a : CheckArguments) (strict : Bool) : Outcome :=
  conclude (run w (.check { a with strict := strict })).1

section Ending

variable {w : World} {a : CheckArguments} {p : CheckPlan}

/-- The warning of a check that has no files to look at. -/
def idle : Outcome :=
  ⟨successStatus, "", lines ["Warning: no files to scan"]⟩

lemma Planned.idle_iff (h : Planned w a p) :
    Idle w a ↔ Check.collect w.tree p.config a.path = .ok [] := by
  constructor
  · rintro ⟨q, hq, hnone⟩
    obtain rfl := Except.ok.inj (h.planCheck_eq.symm.trans hq.planCheck_eq)
    exact hnone
  · intro hnone
    exact ⟨p, h, hnone⟩

lemma Finds.outcome_eq {r : Report} (h : Finds w a p r) (strict : Bool) :
    outcome w a strict = concludeCheck w { a with strict := strict } p r := by
  obtain ⟨file, files, hfiles, hrun⟩ := h.ran
  simp only [outcome, run, checkIn, planCheck_strict, h.planned.planCheck_eq, hfiles, hrun]
  rfl

variable (w a)

/-- A check is refused, has nothing to do, or shows a report. Which of the three it is and what the
report says does not depend on strictness. -/
theorem outcome_cases :
    (Refused w a ∧ ∃ ls, ∀ strict, outcome w a strict = refuse ls) ∨
    (¬Refused w a ∧ Idle w a ∧ ∀ strict, outcome w a strict = idle) ∨
    ¬Refused w a ∧ ¬Idle w a ∧ ∃ p r, Finds w a p r ∧ ∀ strict,
      outcome w a strict = concludeCheck w { a with strict := strict } p r := by
  obtain ⟨hrefused, ls, hcheck⟩ | ⟨p, hp, hcheck⟩ := planCheck_cases w a
  · refine .inl ⟨hrefused, ls, fun strict => ?_⟩
    simp only [outcome, run, checkIn, planCheck_strict, hcheck]
    rfl
  · -- With a plan it is all up to the files, and they are the same in both runs.
    rw [hp.refused_iff, hp.idle_iff]
    cases hfiles : Check.collect w.tree p.config a.path with
    | error e =>
      refine .inl ⟨.inl ⟨e, rfl⟩, ["Error: " ++ e.message], fun strict => ?_⟩
      simp only [outcome, run, checkIn, planCheck_strict, hcheck, hfiles]
      rfl
    | ok files =>
      cases files with
      | nil =>
        refine .inr (.inl ⟨?_, rfl, fun strict => ?_⟩)
        · rintro (⟨_, herror⟩ | ⟨_, m, hnone, hrun⟩)
          · cases herror
          · cases hnone
            obtain ⟨r, hr, -⟩ := (Check.run_eq_error_iff _ _ _ _ _).1 ⟨m, hrun⟩
            cases hr
        · simp only [outcome, run, checkIn, planCheck_strict, hcheck, hfiles]
          rfl
      | cons file files =>
        cases hrun : Check.run w.tree.read p.grammar p.config.checkOptions p.base
            (file :: files) with
        | error m =>
          refine .inl ⟨.inr ⟨_, m, rfl, hrun⟩, ["Error: " ++ m.message], fun strict => ?_⟩
          simp only [outcome, run, checkIn, planCheck_strict, hcheck, hfiles, hrun]
          rfl
        | ok r =>
          have hfinds : Finds w a p r := ⟨hp, file, files, hfiles, hrun⟩
          exact .inr (.inr ⟨by simp [hrun], by simp, p, r, hfinds, hfinds.outcome_eq⟩)

end Ending

section Report

/-- The word for the verdict, in green or red on a coloured terminal. -/
def verdict (color passed : Bool) : String :=
  match color, passed with
  | false, true => "✓ PASS"
  | false, false => "✗ FAIL"
  | true, true => "\x1b[32m✓ PASS\x1b[0m"
  | true, false => "\x1b[31m✗ FAIL\x1b[0m"

/-- A number of things. -/
def tally (n : Nat) (noun : String) : String :=
  if n = 1 then "1 " ++ noun else toString n ++ " " ++ noun ++ "s"

/-- An issue on a terminal: its severity, its rule and its place, and below them what it says. -/
def issueLines (color : Bool) (i : Issue) : String :=
  "    " ++
    (match i.severity with
      | .error => Style.red.paint color "ERROR"
      | .warning => Style.yellow.paint color "WARN ") ++
    "    " ++ Style.dimmed.paint color (Text.padded 20 i.rule.name) ++
    Style.blue.paint color i.file ++ Report.placeText color i.line ++ "\n            " ++
    i.message ++ "\n" ++ Report.hintText color i.suggestion ++ "\n"

/-- All issues on a terminal, behind their number. -/
def issueSection (color : Bool) : List Issue → String
  | [] => ""
  | i :: is => "  " ++ Style.bold.paint color "Issues" ++ " (" ++ toString (is.length + 1) ++
      "):\n\n" ++ String.join ((i :: is).map (issueLines color))

/-- What standard output shows of a report: its issues, how many files and records there were, and
whether the check has passed. -/
structure Shows (format path : String) (color : Bool) (r : Report) (passed : Bool)
    (stdout : String) : Prop where
  json : format = "json" → ∃ v, Json.parse stdout.toList = .ok v ∧
    Json.columns? ["passed", "issues", "files_scanned", "records"] v =
      some [some (.bool passed), some (.array (r.issues.map Issue.toJson)),
        some (.nat r.filesScanned), some (.nat r.records)] ∧
    ∀ i ∈ r.issues, i.WrittenAs i.toJson
  pretty : format = "pretty" → ∃ config mode,
    stdout = Report.header color path config mode ++ issueSection color r.issues ++
      ("  " ++ verdict color passed ++ "  " ++ tally r.filesScanned "file" ++ " scanned, " ++
        tally r.records "waymark" ++ ", " ++ tally (r.count .error) "error" ++ ", " ++
        tally (r.count .warning) "warning" ++ "\n") ++ "\n"

lemma counted_eq_tally (n : Nat) (noun : String) : Report.counted n noun = tally n noun := by
  rw [Report.counted, tally]
  split
  next hone =>
    subst hone
    rw [String.append_empty]
    rfl
  next => rfl

lemma issueText_eq_issueLines (color : Bool) (i : Issue) :
    Report.issueText color i = issueLines color i := by
  -- The gap behind the severity is made of two pieces.
  have hgap : ∀ rest, " " ++ ("   " ++ rest) = "    " ++ rest := by
    intro rest
    rw [← String.append_assoc]
    rfl
  rw [Report.issueText_eq]
  unfold issueLines
  cases i.severity <;> simp only [Report.severityTag, String.append_assoc, hgap]

lemma issuesText_eq_issueSection (color : Bool) (issues : List Issue) :
    Report.issuesText color issues = issueSection color issues := by
  have hlines : Report.issueText color = issueLines color :=
    funext (issueText_eq_issueLines color)
  cases issues with
  | nil => rfl
  | cons i is =>
    rw [Report.issuesText, hlines]
    rfl

lemma paint_verdict (color passed : Bool) :
    (if passed = true then Style.green.paint color "✓ PASS" else Style.red.paint color "✗ FAIL") =
      verdict color passed := by
  rw [Style.paint_of_cut_eq_none (by decide), Style.paint_of_cut_eq_none (by decide)]
  cases color <;> cases passed <;> decide

variable (w : World) {a : CheckArguments} {p : CheckPlan} (r : Report)

/-- The report says that the check has passed exactly when it has. -/
lemma shows_showReport (h : ReportFormat.ofName? a.format = some p.format) :
    Shows a.format a.path.raw (!a.noColor && w.terminal) r
      ((Summary.ofIssues r.issues).passed (checkMode a p.config)) (showReport w a p r) where
  json hname := by
    rw [hname] at h
    have hformat : .json = p.format := Option.some.inj h
    let d := Report.Document.ofReport a.path.raw r (checkMode a p.config)
    have hnames : Report.Document.fieldNames.Nodup := by decide
    have hcolumns : Json.columns? ["passed", "issues", "files_scanned", "records"] d.toJson =
        some [some (.bool d.passed), some (.array (d.issues.map Issue.toJson)),
          some (.nat d.filesScanned), some (.nat d.records)] := by
      exact Json.columns?_obj hnames (by rfl) _
    refine ⟨d.toJson, ?_, hcolumns, fun i _ => i.writtenAs_toJson⟩
    have hreads := Json.reads_pretty (Report.Document.natural_toJson d) 0
    simp only [showReport, ← hformat, Report.renderJson, Json.prettyText, String.toList_append,
      String.toList_ofList]
    exact hreads.parse_line
  pretty hname := by
    rw [hname] at h
    have hformat : .pretty = p.format := Option.some.inj h
    refine ⟨p.configPath.map Path.raw, checkMode a p.config, ?_⟩
    simp only [showReport, ← hformat, ← paint_verdict, ← counted_eq_tally,
      ← issuesText_eq_issueSection]
    rfl

variable (a p)

lemma concludeCheck_stdout_ne : (concludeCheck w a p r).stdout ≠ "" := by
  rw [concludeCheck, showReport]
  cases p.format with
  | json => simp
  | pretty => simp [Report.renderPretty]

lemma concludeCheck_status :
    (concludeCheck w a p r).status =
      if (Summary.ofIssues r.issues).passed (checkMode a p.config) then 0 else 1 :=
  rfl

variable {a p} in
/-- The status agrees with the verdict that is shown. -/
lemma concludeCheck_shows (h : ReportFormat.ofName? a.format = some p.format) :
    ((concludeCheck w a p r).status = 0 ∨ (concludeCheck w a p r).status = 1) ∧
    Shows a.format a.path.raw (!a.noColor && w.terminal) r
      (decide ((concludeCheck w a p r).status = 0)) (concludeCheck w a p r).stdout := by
  have hshows := shows_showReport w r h
  rw [concludeCheck_status]
  cases hpassed : (Summary.ofIssues r.issues).passed (checkMode a p.config) with
  | true =>
    rw [hpassed] at hshows
    exact ⟨.inl rfl, hshows⟩
  | false =>
    rw [hpassed] at hshows
    exact ⟨.inr rfl, hshows⟩

lemma concludeCheck_status_ne : (concludeCheck w a p r).status ≠ errorStatus := by
  rw [concludeCheck_status]
  split <;> decide

lemma passed_of_strict {s : Summary} (h : s.passed .strict = true) (mode : Mode) :
    s.passed mode = true := by
  cases mode with
  | default => exact (Bool.and_eq_true_iff.1 h).1
  | strict => exact h

lemma concludeCheck_of_strict (h : (concludeCheck w { a with strict := true } p r).status = 0) :
    (concludeCheck w { a with strict := false } p r).status = 0 := by
  rw [concludeCheck_status] at h ⊢
  split_ifs at h with hpassed
  rw [if_pos (passed_of_strict hpassed _)]

end Report

/-- Status, report and strictness agree. A check is refused with the flag exactly when it is
refused without it, and exactly for the reasons listed. It prints a report exactly when it is not
refused and has files to look at. The report says the same of the files in both runs, and the
status is that of the verdict it shows. What passes with the flag passes without. -/
theorem strictness_agrees (w : World) (a : CheckArguments) :
    ((outcome w a true).status = errorStatus ↔ (outcome w a false).status = errorStatus) ∧
    (∀ strict, (outcome w a strict).stdout ≠ "" ↔ ¬Refused w a ∧ ¬Idle w a) ∧
    (¬Refused w a → ¬Idle w a → ∃ p r, Finds w a p r ∧ ∀ strict,
      ((outcome w a strict).status = 0 ∨ (outcome w a strict).status = 1) ∧
      Shows a.format a.path.raw (!a.noColor && w.terminal) r
        (decide ((outcome w a strict).status = 0)) (outcome w a strict).stdout) ∧
    ((outcome w a true).status = 0 → (outcome w a false).status = 0) ∧
    ∀ strict, (outcome w a strict).status = errorStatus ↔ Refused w a := by
  obtain ⟨hrefused, ls, hends⟩ | ⟨hworks, hidle, hends⟩ | ⟨hworks, hfiles, p, r, hr, hends⟩ :=
    outcome_cases w a
  · simp only [hends, hrefused, iff_self, true_and]
    exact ⟨by simp [refuse], by simp, id, by simp [refuse]⟩
  · simp only [hends, hworks, hidle, iff_self, true_and]
    exact ⟨by simp [idle], by simp, id, fun _ => by decide⟩
  · simp only [hends, concludeCheck_status_ne, hworks, hfiles, iff_self, true_and]
    refine ⟨?_, ?_, concludeCheck_of_strict w a p r, by simp⟩
    · simp [concludeCheck_stdout_ne]
    · intro _ _
      refine ⟨p, r, hr, fun strict => ?_⟩
      exact concludeCheck_shows w r hr.planned.format

section Flagging

/-- A flagged waymark on the first line. -/
def flaggedRecord : Record :=
  { Record.new "a.rs" 1 "todo" with signals := ⟨true, false⟩, contents := "later" }

/-- A world whose grammar finds a flagged waymark in every file. -/
def flagging : World where
  tree :=
    { entries := [(["w"], .file "grammar:\n  command: [x]\n".toUTF8), (["a.rs"], .file ⟨#[]⟩)]
      distinct := by decide
      named := by decide }
  programs := fun _ =>
    .ok ⟨.exited 0, String.ofList (Json.print (Record.listToJson [flaggedRecord])), ""⟩
  terminal := false

def flaggingArguments (format : String) : CheckArguments :=
  ⟨⟨"a.rs"⟩, some ⟨"w"⟩, format, false, false⟩

def flaggingPlan (format : ReportFormat) : CheckPlan where
  format := format
  config := { Config.standard with command := ["x"] }
  configPath := some ⟨"w"⟩
  grammar := GrammarCommand.grammar ⟨"x", []⟩ flagging.programs
  base := ⟨""⟩

/-- What a terminal without colour shows of the flagged waymark. -/
def flaggedText (mode verdict : String) : String :=
  "\n  waymark v0.1.0\n\n" ++
  "  Scanning: a.rs\n  Config:   w\n  Mode:     " ++ mode ++ "\n\n" ++
  "  Issues (1):\n\n" ++
  "    WARN     flagged-signal      a.rs:1\n" ++
  "            flagged todo waymark must be resolved before merge\n" ++
  "            hint: later\n\n" ++
  "  " ++ verdict ++ "  1 file scanned, 1 waymark, 0 errors, 1 warning\n\n"

/-- A program that always writes the same text makes a grammar that always finds its records. -/
lemma grammar_eq_ok {programs : Programs} {file text : String} {rs : List Record}
    (hprogram : ∀ call, programs call = .ok ⟨.exited 0, text, ""⟩)
    (hdecode : decodeRecords text file = .ok rs) (c : GrammarCommand) (source : String) :
    c.grammar programs source file = .ok rs := by
  simp only [GrammarCommand.grammar, hprogram, if_true, hdecode]
  rfl

lemma run_singleton {read : Check.Reader} {g : Grammar} {base path : Path} {source : String}
    {rs : List Record} (hread : read path = .ok source)
    (hg : g source (Check.label base path) = .ok rs) (o : Check.Options) :
    Check.run read g o base [path] =
      (Check.validate o (rs.map (Record.stamp (Check.label base path)))).map fun issues =>
        ⟨issues, 1, rs.length⟩ := by
  simp [Check.run, Check.load, hread, hg, Check.failures, Check.parsed]

variable {name : String} {format : ReportFormat}

lemma planned_flagging (h : ReportFormat.ofName? name = some format) :
    Planned flagging (flaggingArguments name) (flaggingPlan format) where
  format := h
  loaded := by
    have hread : flagging.tree.read ⟨"w"⟩ = .ok "grammar:\n  command: [x]\n" := by decide +kernel
    have hparse : Config.parse "grammar:\n  command: [x]\n" =
        .ok { Config.standard with command := ["x"] } := by decide +kernel
    simp only [Config.load, flaggingArguments, Option.some_or, Config.parseFile, hread, hparse]
    rfl
  valid := by
    change Config.validate { Config.standard with command := ["x"] } = .ok ()
    decide +kernel
  grammar := ⟨⟨"x", []⟩, rfl, rfl⟩
  base := by
    have hcontents : flagging.tree.contents? ⟨"a.rs"⟩ = .ok (some ⟨#[]⟩) := by decide +kernel
    have hbase : (⟨""⟩ : Path) = baseOf ⟨"a.rs"⟩ true := by decide +kernel
    exact ⟨some ⟨#[]⟩, hcontents, hbase⟩

lemma run_flagging :
    Check.run flagging.tree.read (flaggingPlan format).grammar
      (flaggingPlan format).config.checkOptions (flaggingPlan format).base [⟨"a.rs"⟩] =
      .ok ⟨[Check.flaggedIssue .standard flaggedRecord], 1, 1⟩ := by
  have hread : flagging.tree.read ⟨"a.rs"⟩ = .ok "" := by decide +kernel
  have hlabel : Check.label ⟨""⟩ ⟨"a.rs"⟩ = "a.rs" := by decide +kernel
  have hdecode : decodeRecords (String.ofList (Json.print (Record.listToJson [flaggedRecord])))
      "a.rs" = .ok [flaggedRecord] :=
    decodeRecords_of_reads (by decide)
      (Json.reads_print (Json.natural_array_map Record.natural_toJson _)) "a.rs"
  have hprogram : ∀ call, flagging.programs call =
      .ok ⟨.exited 0, String.ofList (Json.print (Record.listToJson [flaggedRecord])), ""⟩ :=
    fun _ => rfl
  have hgrammar : (flaggingPlan format).grammar "" (Check.label ⟨""⟩ ⟨"a.rs"⟩) =
      .ok [flaggedRecord] := by
    rw [hlabel]
    exact grammar_eq_ok hprogram hdecode ⟨"x", []⟩ ""
  have hrun := run_singleton hread hgrammar (flaggingPlan format).config.checkOptions
  rw [hlabel] at hrun
  exact hrun

lemma finds_flagging (h : ReportFormat.ofName? name = some format) :
    Finds flagging (flaggingArguments name) (flaggingPlan format)
      ⟨[Check.flaggedIssue .standard flaggedRecord], 1, 1⟩ := by
  have hcollect : Check.collect flagging.tree { Config.standard with command := ["x"] } ⟨"a.rs"⟩ =
      .ok [⟨"a.rs"⟩] := by decide +kernel
  exact ⟨planned_flagging h, ⟨"a.rs"⟩, [], hcollect, run_flagging⟩

theorem strictness_agrees_flagged :
    (outcome flagging (flaggingArguments "pretty") true =
        ⟨1, flaggedText "strict" "✗ FAIL", ""⟩ ∧
      outcome flagging (flaggingArguments "pretty") false =
        ⟨0, flaggedText "default" "✓ PASS", ""⟩) ∧
    ((outcome flagging (flaggingArguments "json") true).status = 1 ∧
      (outcome flagging (flaggingArguments "json") false).status = 0) ∧
    ∀ format ∈ ["pretty", "json"],
      ¬Refused flagging (flaggingArguments format) ∧ ¬Idle flagging (flaggingArguments format) ∧
      ∃ p r, Finds flagging (flaggingArguments format) p r ∧ ∀ strict,
        Shows format "a.rs" false r
          (decide ((outcome flagging (flaggingArguments format) strict).status = 0))
          (outcome flagging (flaggingArguments format) strict).stdout := by
  have hpretty : ReportFormat.ofName? "pretty" = some .pretty := by decide
  have hjson : ReportFormat.ofName? "json" = some .json := by decide
  refine ⟨⟨?_, ?_⟩, ⟨?_, ?_⟩, fun format hformat => ?_⟩
  · rw [(finds_flagging hpretty).outcome_eq]
    decide +kernel
  · rw [(finds_flagging hpretty).outcome_eq]
    decide +kernel
  · rw [(finds_flagging hjson).outcome_eq]
    decide +kernel
  · rw [(finds_flagging hjson).outcome_eq]
    decide +kernel
  · obtain ⟨-, hprints, hreport, -⟩ := strictness_agrees flagging (flaggingArguments format)
    obtain ⟨shown, hshown⟩ := Option.ne_none_iff_exists'.1 fun hnone =>
      ofName?_eq_none_iff.1 hnone hformat
    have hprinted : (outcome flagging (flaggingArguments format) true).stdout ≠ "" := by
      rw [(finds_flagging hshown).outcome_eq]
      exact concludeCheck_stdout_ne _ _ _ _
    obtain ⟨hworks, hfiles⟩ := (hprints true).1 hprinted
    obtain ⟨p, r, hr, hshows⟩ := hreport hworks hfiles
    exact ⟨hworks, hfiles, p, r, hr, fun strict => (hshows strict).2⟩

end Flagging

end Command
end Waymark
