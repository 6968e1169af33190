import Mathlib.Data.List.Forall2
import Waymark.Proofs.Json.Decode
import Waymark.Report.Document

/-! The report of a check survives its journey through JSON text. What is written is one JSON value,
it is read back as the document it was written from, and this document says all there is to know
about the report: its issues in order, their number by severity, and the verdict. -/
namespace Waymark

open Json

lemma Rule.enum?_name (r : Rule) : enum? ofName? (.str r.name) = some r := by
  cases r <;> rfl

lemma Severity.enum?_name (s : Severity) : enum? ofName? (.str s.name) = some s := by
  cases s <;> rfl

lemma Mode.enum?_name (m : Mode) : enum? ofName? (.str m.name) = some m := by
  cases m <;> rfl

namespace Summary

lemma errors_add_warnings (issues : List Issue) :
    (ofIssues issues).errors + (ofIssues issues).warnings = (ofIssues issues).total := by
  have hother : issues.countP (fun i => i.severity = .warning) =
      issues.countP (fun i => ¬decide (i.severity = .error)) := by
    refine List.countP_congr fun i _ => ?_
    cases i.severity <;> simp
  rw [ofIssues, hother]
  exact (List.length_eq_countP_add_countP _).symm

lemma ofJson?_toJson {s : Summary} (htotal : s.total < wordLimit) (herrors : s.errors < wordLimit)
    (hwarnings : s.warnings < wordLimit) : ofJson? s.toJson = some s := by
  have hnames : ["total", "errors", "warnings"].Nodup := by decide
  have hcolumns : columns? ["total", "errors", "warnings"] s.toJson =
      some [some (.nat s.total), some (.nat s.errors), some (.nat s.warnings)] :=
    columns?_obj hnames (by rfl) _
  simp only [ofJson?, hcolumns, required?, nat?_nat htotal, nat?_nat herrors, nat?_nat hwarnings]
  rfl

lemma natural_toJson (s : Summary) : Natural s.toJson := by
  apply natural_obj
  simp only [List.forall_mem_cons]
  exact ⟨.nat _, .nat _, .nat _, List.forall_mem_nil _⟩

end Summary

namespace Issue

/-- An object with the fields of an issue. A line and a suggestion are there exactly if the issue
has them. -/
def WrittenAs (i : Issue) (v : Json) : Prop :=
  columns? ["file", "line", "rule", "severity", "message", "suggestion"] v =
    some [some (.str i.file), i.line.map .nat, some (.str i.rule.name),
      some (.str i.severity.name), some (.str i.message), i.suggestion.map .str]

lemma writtenAs_toJson (i : Issue) : i.WrittenAs i.toJson := by
  have hboth : ["file", "line", "rule", "severity", "message", "suggestion"].Nodup := by decide
  have hline : ["file", "line", "rule", "severity", "message"].Nodup := by decide
  have hsuggestion : ["file", "rule", "severity", "message", "suggestion"].Nodup := by decide
  have hnone : ["file", "rule", "severity", "message"].Nodup := by decide
  obtain ⟨file, line, rule, severity, message, suggestion⟩ := i
  cases line with
  | none =>
    cases suggestion with
    | none => exact columns?_obj hnone (by rfl) _
    | some s => exact columns?_obj hsuggestion (by rfl) _
  | some n =>
    cases suggestion with
    | none => exact columns?_obj hline (by rfl) _
    | some s => exact columns?_obj hboth (by rfl) _

lemma optional?_line {line : Option Nat} (h : ∀ n ∈ line, n < wordLimit) :
    optional? none (nullable? nat?) (line.map .nat) = some line := by
  cases line with
  | none => rfl
  | some n => exact congrArg (Option.map some) (nat?_nat (h n rfl))

lemma optional?_suggestion (suggestion : Option String) :
    optional? none (nullable? str?) (suggestion.map .str) = some suggestion := by
  cases suggestion <;> rfl

lemma ofJson?_toJson {i : Issue} (h : ∀ n ∈ i.line, n < wordLimit) :
    ofJson? i.toJson = some i := by
  have hcolumns := i.writtenAs_toJson
  rw [WrittenAs] at hcolumns
  simp only [ofJson?, hcolumns, required?, optional?_line h, optional?_suggestion,
    str?_str, Rule.enum?_name, Severity.enum?_name]
  rfl

lemma natural_fieldIfSome {α : Type} {f : α → Json} (hf : ∀ a, Natural (f a)) (name : String)
    (o : Option α) : ∀ x ∈ fieldIfSome name f o, Natural x.2 := by
  cases o with
  | none => exact List.forall_mem_nil _
  | some a => exact List.forall_mem_singleton.2 (hf a)

lemma natural_toJson (i : Issue) : Natural i.toJson := by
  apply natural_obj
  simp only [List.forall_mem_append, List.forall_mem_cons]
  exact ⟨⟨⟨⟨.string _, List.forall_mem_nil _⟩, natural_fieldIfSome .nat _ _⟩, .string _, .string _,
    .string _, List.forall_mem_nil _⟩, natural_fieldIfSome (fun s => .string (some s)) _ _⟩

end Issue

namespace Report

/-- Whether all numbers of a report fit a machine word. -/
structure Fits (r : Report) : Prop where
  filesScanned : r.filesScanned < wordLimit
  records : r.records < wordLimit
  issues : r.issues.length < wordLimit
  lines : ∀ i ∈ r.issues, ∀ n ∈ i.line, n < wordLimit

namespace Document

/-- What a document says of a report that is judged in a mode. -/
structure Describes (d : Document) (path : String) (r : Report) (mode : Mode) : Prop where
  passed : d.passed = (Summary.ofIssues r.issues).passed mode
  path : d.path = path
  mode : d.mode = mode
  filesScanned : d.filesScanned = r.filesScanned
  records : d.records = r.records
  issues : d.issues = r.issues
  errors : d.summary.errors = r.count .error
  warnings : d.summary.warnings = r.count .warning
  total : d.summary.total = r.issues.length
  split : d.summary.errors + d.summary.warnings = d.summary.total

lemma describes_ofReport (path : String) (r : Report) (mode : Mode) :
    (ofReport path r mode).Describes path r mode where
  passed := rfl
  path := rfl
  mode := rfl
  filesScanned := rfl
  records := rfl
  issues := rfl
  errors := rfl
  warnings := rfl
  total := rfl
  split := Summary.errors_add_warnings r.issues

lemma columns?_toJson (d : Document) :
    columns? fieldNames d.toJson =
      some [some (.str d.version), some (.str d.path), some (.str d.mode.name),
        some (.bool d.passed), some (.nat d.filesScanned), some (.nat d.records),
        some d.summary.toJson, some (.array (d.issues.map Issue.toJson))] := by
  have hnames : fieldNames.Nodup := by decide
  exact columns?_obj hnames (by rfl) fieldNames

lemma natural_toJson (d : Document) : Natural d.toJson := by
  apply natural_obj
  simp only [List.forall_mem_cons]
  exact ⟨.string _, .string _, .string _, .bool _, .nat _, .nat _, d.summary.natural_toJson,
    natural_array_map Issue.natural_toJson _, List.forall_mem_nil _⟩

lemma ofJson?_toJson {path : String} {r : Report} {mode : Mode} (h : r.Fits) :
    ofJson? (ofReport path r mode).toJson = some (ofReport path r mode) := by
  have hsplit := Summary.errors_add_warnings r.issues
  have htotal : (Summary.ofIssues r.issues).total < wordLimit := h.issues
  have hsummary : Summary.ofJson? (Summary.ofIssues r.issues).toJson =
      some (Summary.ofIssues r.issues) :=
    Summary.ofJson?_toJson htotal (by omega) (by omega)
  have hissues : list? Issue.ofJson? (.array (r.issues.map Issue.toJson)) = some r.issues :=
    list?_map fun i hi => Issue.ofJson?_toJson (h.lines i hi)
  simp only [ofJson?, columns?_toJson, ofReport, required?, nat?_nat h.filesScanned,
    nat?_nat h.records, hsummary, hissues, str?_str, bool?, Mode.enum?_name]
  rfl

end Document

/-- A written report is one JSON value, and it is read back as the document that describes the
report. Every issue stands in it with all its fields. -/
theorem parse_renderJson (path : String) (r : Report) (mode : Mode) (h : r.Fits) :
    ∃ v items, parse (r.renderJson path mode).toList = .ok v ∧
      Document.ofJson? v = some (.ofReport path r mode) ∧
      (Document.ofReport path r mode).Describes path r mode ∧
      columns? ["issues"] v = some [some (.array items)] ∧
      List.Forall₂ Issue.WrittenAs r.issues items := by
  have hreads := reads_pretty (Document.natural_toJson (.ofReport path r mode)) 0
  have hnames : Document.fieldNames.Nodup := by decide
  refine ⟨(Document.ofReport path r mode).toJson, r.issues.map Issue.toJson, ?_,
    Document.ofJson?_toJson h, Document.describes_ofReport path r mode,
    columns?_obj hnames (by rfl) _, ?_⟩
  · rw [renderJson, prettyText, String.toList_ofList]
    exact hreads.parse
  · exact List.forall₂_map_right_iff.2 (List.forall₂_same.2 fun i _ => i.writtenAs_toJson)

/-- A report with one issue about a whole file and one with everything that an issue can have. -/
def quotedReport : Report :=
  { issues :=
      [⟨"a \"b\".rs", none, .parseError, .error, "tab\t, bell\x07 and \\", none⟩,
        ⟨"ö.md", some (wordLimit - 1), .flaggedSignal, .warning, "", some "\n😀"⟩]
    filesScanned := 2
    records := 0 }

theorem parse_renderJson_quoted :
    quotedReport.Fits ∧
      ∃ v items, parse (quotedReport.renderJson "src/\"" .strict).toList = .ok v ∧
        Document.ofJson? v = some
          { version := "0.1.0"
            path := "src/\""
            mode := .strict
            passed := false
            filesScanned := 2
            records := 0
            summary := ⟨2, 1, 1⟩
            issues := quotedReport.issues } ∧
        columns? ["issues"] v = some [some (.array items)] ∧
        List.Forall₂ Issue.WrittenAs quotedReport.issues items := by
  have hfits : quotedReport.Fits :=
    ⟨by decide, by decide, by decide, by simp [quotedReport, wordLimit]⟩
  obtain ⟨v, items, hparse, hread, -, hissues, hitems⟩ :=
    parse_renderJson "src/\"" quotedReport .strict hfits
  exact ⟨hfits, v, items, hparse, hread, hissues, hitems⟩

end Report
end Waymark
