import Waymark.Proofs.Text.Search
import Waymark.Report.Pretty

/-! Colour changes nothing but colour: a report for a terminal, with the sequences for its styles
removed, is the report without colour. What is removed is said of texts alone, and every part of a
report in colour is the same part without colour once that is done. -/
namespace Waymark
namespace Style

/-- The character that opens a control sequence. -/
def escape : Char :=
  '\x1b'

/-- The characters between the bracket of a style sequence and its end. -/
def isParameter (c : Char) : Bool :=
  c.isDigit || c == ';'

/-- What follows a style sequence at the head of a text. -/
def afterSequence? (cs : List Char) : Option (List Char) :=
  (Text.after? [escape, '['] cs).bind fun rest => Text.after? ['m'] (rest.dropWhile isParameter)

lemma length_of_afterSequence? {cs rest : List Char} (h : afterSequence? cs = some rest) :
    rest.length < cs.length := by
  obtain ⟨tail, htail, hrest⟩ := Option.bind_eq_some_iff.1 h
  rw [Text.after?_eq_some_iff] at htail hrest
  have hle := (List.dropWhile_sublist isParameter (l := tail)).length_le
  rw [hrest, List.length_append] at hle
  rw [htail, List.length_append]
  simp only [List.length_cons, List.length_nil] at hle ⊢
  omega

/-- The text without its style sequences. -/
def bare : List Char → List Char
  | [] => []
  | c :: cs =>
    match _h : afterSequence? (c :: cs) with
    | some rest => bare rest
    | none => c :: bare cs
termination_by cs => cs.length
decreasing_by
  · exact length_of_afterSequence? _h
  · simp

@[simp] lemma bare_nil : bare [] = [] := by
  rw [bare]

lemma bare_of_afterSequence? {cs rest : List Char} (h : afterSequence? cs = some rest) :
    bare cs = bare rest := by
  cases cs with
  | nil => cases h
  | cons c cs =>
    rw [bare]
    split
    next hrest =>
      rw [h] at hrest
      rw [Option.some.inj hrest]
    next hnone =>
      rw [h] at hnone
      cases hnone

/-- Only an escape character opens a sequence. -/
lemma bare_cons {c : Char} (hc : c ≠ escape) (cs : List Char) : bare (c :: cs) = c :: bare cs := by
  have hnone : afterSequence? (c :: cs) = none := by
    simp [afterSequence?, Text.after?, Ne.symm hc]
  rw [bare]
  split
  next hrest =>
    rw [hnone] at hrest
    cases hrest
  next => rfl

lemma bare_append {x : List Char} (hx : escape ∉ x) (rest : List Char) :
    bare (x ++ rest) = x ++ bare rest := by
  induction x with
  | nil => rfl
  | cons c x ih =>
    obtain ⟨hc, hx⟩ := not_or.1 fun h => hx (List.mem_cons.2 h)
    rw [List.cons_append, bare_cons (Ne.symm hc), ih hx, List.cons_append]

lemma bare_sequence {parameters : String} (h : parameters.toList.all isParameter = true)
    (rest : List Char) : bare ((sequence parameters).toList ++ rest) = bare rest := by
  apply bare_of_afterSequence?
  have htext : (sequence parameters).toList ++ rest =
      [escape, '['] ++ (parameters.toList ++ 'm' :: rest) := by
    simp [sequence, escape]
  have hend : isParameter 'm' = false := by decide
  rw [afterSequence?, htext, Text.after?_eq_some_iff.2 rfl, Option.bind_some,
    List.dropWhile_append_of_pos (by simpa using h), List.dropWhile_cons_of_neg (by simp [hend])]
  rfl

lemma all_isParameter_code (s : Style) : s.code.toList.all isParameter = true := by
  cases s <;> decide

/-- A text without control sequences. -/
def IsPlain (text : String) : Prop :=
  escape ∉ text.toList

instance (text : String) : Decidable (IsPlain text) :=
  inferInstanceAs (Decidable (escape ∉ text.toList))

namespace IsPlain

lemma append {x y : String} (hx : IsPlain x) (hy : IsPlain y) : IsPlain (x ++ y) := by
  simp [IsPlain, String.toList_append, not_or.2 ⟨hx, hy⟩]

lemma toString (n : Nat) : IsPlain (toString n) := by
  intro h
  change escape ∈ (Nat.repr n).toList at h
  rw [Nat.toList_repr] at h
  exact absurd (Nat.isDigit_of_mem_toDigits (by decide) (by decide) h) (by decide)

lemma padded {x : String} (hx : IsPlain x) (width : Nat) : IsPlain (Text.padded width x) := by
  refine hx.append ?_
  intro h
  rw [String.toList_ofList] at h
  exact absurd (List.eq_of_mem_replicate h) (by decide)

/-- A plain text turns no style off. -/
lemma cut_reset {text : String} (h : IsPlain text) : Text.cut reset text.toList = none := by
  rw [Text.cut_eq_none_iff]
  intro hreset
  exact h (hreset.subset (by decide))

end IsPlain

/-- A text that turns no style off stands between the two sequences of its style. -/
lemma paint_of_cut_eq_none {text : String} (h : Text.cut reset text.toList = none)
    (color : Bool) (s : Style) :
    s.paint color text = if color then sequence s.code ++ text ++ sequence "0" else text := by
  cases color with
  | false => rw [paint, if_neg Bool.false_ne_true, if_neg Bool.false_ne_true]
  | true =>
    have hresume : ∀ on, resume on text.toList = text.toList := by
      intro on
      rw [resume]
      split
      next hcut =>
        rw [h] at hcut
        cases hcut
      next => rfl
    simp only [paint, if_true, hresume]
    rw [← String.toList_inj]
    simp [reset]

/-- A text in colour that says what the plain text says, whatever follows both. -/
structure Colors (colored plain : String) : Prop where
  bare : ∀ rest, bare (colored.toList ++ rest) = plain.toList ++ bare rest
  plain : IsPlain plain

namespace Colors

lemma refl {text : String} (h : IsPlain text) : Colors text text :=
  ⟨bare_append h, h⟩

lemma append {x x' y y' : String} (hx : Colors x x') (hy : Colors y y') :
    Colors (x ++ y) (x' ++ y') where
  bare rest := by
    rw [String.toList_append, String.toList_append, List.append_assoc, hx.bare, hy.bare,
      List.append_assoc]
  plain := hx.plain.append hy.plain

lemma paint (s : Style) {text : String} (h : IsPlain text) :
    Colors (s.paint true text) (s.paint false text) := by
  rw [paint_of_cut_eq_none h.cut_reset, paint_of_cut_eq_none h.cut_reset, if_pos rfl,
    if_neg Bool.false_ne_true]
  refine ⟨fun rest => ?_, h⟩
  rw [String.toList_append, String.toList_append, List.append_assoc, List.append_assoc,
    bare_sequence s.all_isParameter_code, bare_append h, bare_sequence (by decide)]

lemma join {α : Type} {f g : α → String} {xs : List α} (h : ∀ x ∈ xs, Colors (f x) (g x)) :
    Colors (String.join (xs.map f)) (String.join (xs.map g)) := by
  induction xs with
  | nil => exact refl (List.not_mem_nil (a := escape))
  | cons x xs ih =>
    rw [List.map_cons, List.map_cons, String.join_cons, String.join_cons]
    exact (h x List.mem_cons_self).append (ih fun y hy => h y (List.mem_cons_of_mem _ hy))

end Colors
end Style

/-- An issue whose texts hold no control sequences. -/
structure Issue.IsPlain (i : Issue) : Prop where
  file : Style.IsPlain i.file
  message : Style.IsPlain i.message
  suggestion : ∀ s ∈ i.suggestion, Style.IsPlain s

instance (i : Issue) : Decidable i.IsPlain :=
  decidable_of_iff
    (Style.IsPlain i.file ∧ Style.IsPlain i.message ∧ ∀ s ∈ i.suggestion, Style.IsPlain s)
    ⟨fun ⟨hfile, hmessage, hsuggestion⟩ => ⟨hfile, hmessage, hsuggestion⟩,
      fun h => ⟨h.file, h.message, h.suggestion⟩⟩

namespace Report

open Style

lemma isPlain_counted (n : Nat) {noun : String} (h : IsPlain noun) : IsPlain (counted n noun) := by
  have hends : IsPlain (if n = 1 then "" else "s") := by
    split <;> decide
  exact (((IsPlain.toString n).append (by decide)).append h).append hends

/-- A line of the header. -/
def field (color : Bool) (label text : String) : String :=
  "  " ++ Style.dimmed.paint color label ++ text ++ "\n"

lemma header_eq (color : Bool) (path : String) (config : Option String) (mode : Mode) :
    header color path config mode =
      "\n  " ++ Style.title.paint color "waymark" ++ (" v" ++ version ++ "\n\n") ++
        field color "Scanning: " path ++ field color "Config:   " (config.getD "(defaults)") ++
        field color "Mode:     " mode.name ++ "\n" := by
  have hend : "\n" ++ "\n" = "\n\n" := by decide
  unfold header field
  simp only [String.append_assoc]
  rw [hend]

lemma colors_field {label text : String} (hlabel : IsPlain label) (htext : IsPlain text) :
    Colors (field true label text) (field false label text) :=
  (Colors.refl (by decide)).append (.paint _ hlabel) |>.append (.refl htext)
    |>.append (.refl (by decide))

lemma colors_header {path : String} (hpath : IsPlain path) {config : Option String}
    (hconfig : ∀ c ∈ config, IsPlain c) (mode : Mode) :
    Colors (header true path config mode) (header false path config mode) := by
  have hsource : IsPlain (config.getD "(defaults)") := by
    cases config with
    | none => decide
    | some c => exact hconfig c rfl
  have hmode : IsPlain mode.name := by
    cases mode <;> decide
  rw [header_eq, header_eq]
  exact (Colors.refl (by decide)).append (.paint _ (by decide)) |>.append (.refl (by decide))
    |>.append (colors_field (by decide) hpath) |>.append (colors_field (by decide) hsource)
    |>.append (colors_field (by decide) hmode) |>.append (.refl (by decide))

lemma colors_severityTag (v : Severity) : Colors (severityTag true v) (severityTag false v) := by
  cases v <;>
    exact (Colors.refl (by decide)).append (.paint _ (by decide)) |>.append (.refl (by decide))

/-- The line of an issue, behind its file. -/
def placeText (color : Bool) (line : Option Nat) : String :=
  line.elim "" fun n => Style.dimmed.paint color (":" ++ toString n)

/-- The hint of an issue, on a line of its own. -/
def hintText (color : Bool) (suggestion : Option String) : String :=
  suggestion.elim "" fun s => "            " ++ Style.dimmed.paint color ("hint: " ++ s) ++ "\n"

lemma issueText_eq (color : Bool) (i : Issue) :
    issueText color i =
      severityTag color i.severity ++ "   " ++
        Style.dimmed.paint color (Text.padded 20 i.rule.name) ++ Style.blue.paint color i.file ++
        placeText color i.line ++ "\n            " ++ i.message ++ "\n" ++
        hintText color i.suggestion ++ "\n" := by
  unfold issueText placeText hintText
  cases i.line <;> cases i.suggestion <;> rfl

lemma colors_placeText (line : Option Nat) :
    Colors (placeText true line) (placeText false line) := by
  cases line with
  | none => exact .refl (by decide)
  | some n => exact .paint _ (IsPlain.append (by decide) (.toString n))

lemma colors_hintText {suggestion : Option String} (h : ∀ s ∈ suggestion, IsPlain s) :
    Colors (hintText true suggestion) (hintText false suggestion) := by
  cases suggestion with
  | none => exact .refl (by decide)
  | some s =>
    have hplain : IsPlain ("hint: " ++ s) := IsPlain.append (by decide) (h s rfl)
    exact (Colors.refl (by decide)).append (.paint _ hplain) |>.append (.refl (by decide))

lemma colors_issueText {i : Issue} (h : i.IsPlain) :
    Colors (issueText true i) (issueText false i) := by
  have hrule : IsPlain i.rule.name := by
    cases i.rule <;> decide
  rw [issueText_eq, issueText_eq]
  exact (colors_severityTag i.severity).append (.refl (by decide))
    |>.append (.paint _ (hrule.padded 20)) |>.append (.paint _ h.file)
    |>.append (colors_placeText i.line) |>.append (.refl (by decide))
    |>.append (.refl h.message) |>.append (.refl (by decide))
    |>.append (colors_hintText h.suggestion) |>.append (.refl (by decide))

lemma colors_issuesText {issues : List Issue} (h : ∀ i ∈ issues, i.IsPlain) :
    Colors (issuesText true issues) (issuesText false issues) := by
  unfold issuesText
  split
  · exact .refl (by decide)
  · exact (Colors.refl (by decide)).append (.paint _ (by decide)) |>.append (.refl (by decide))
      |>.append (.refl (.toString _)) |>.append (.refl (by decide))
      |>.append (.join fun i hi => colors_issueText (h i hi))

lemma colors_statusText (r : Report) (mode : Mode) :
    Colors (statusText true r mode) (statusText false r mode) := by
  have hstatus : ∀ passed : Bool, Colors
      (if passed then Style.green.paint true "✓ PASS" else Style.red.paint true "✗ FAIL")
      (if passed then Style.green.paint false "✓ PASS" else Style.red.paint false "✗ FAIL") := by
    intro passed
    cases passed <;> exact .paint _ (by decide)
  have hcounted : ∀ (n : Nat) {noun : String}, IsPlain noun →
      Colors (counted n noun) (counted n noun) :=
    fun n _ hnoun => .refl (isPlain_counted n hnoun)
  unfold statusText
  exact (Colors.refl (by decide)).append (hstatus _) |>.append (.refl (by decide))
    |>.append (hcounted _ (by decide)) |>.append (.refl (by decide))
    |>.append (hcounted _ (by decide)) |>.append (.refl (by decide))
    |>.append (hcounted _ (by decide)) |>.append (.refl (by decide))
    |>.append (hcounted _ (by decide)) |>.append (.refl (by decide))

/-- The report in colour with its style sequences removed is the report without colour, and that
has no control sequences at all. -/
theorem bare_renderPretty {path : String} (hpath : IsPlain path) {config : Option String}
    (hconfig : ∀ c ∈ config, IsPlain c) {r : Report} (hissues : ∀ i ∈ r.issues, i.IsPlain)
    (mode : Mode) :
    bare (renderPretty true path config r mode).toList =
      (renderPretty false path config r mode).toList ∧
    escape ∉ (renderPretty false path config r mode).toList := by
  have hcolors : Colors (renderPretty true path config r mode)
      (renderPretty false path config r mode) :=
    (colors_header hpath hconfig mode).append (colors_issuesText hissues)
      |>.append (colors_statusText r mode) |>.append (.refl (by decide))
  have hbare := hcolors.bare []
  rw [List.append_nil, bare_nil, List.append_nil] at hbare
  exact ⟨hbare, hcolors.plain⟩

/-- A file without a name is painted too, and what looks like the end of a sequence in a message is
no part of one. -/
theorem bare_renderPretty_nameless :
    let r : Report :=
      { issues :=
          [⟨"", some 4, .flaggedSignal, .warning, "flagged [0m", some "wire retries"⟩,
            ⟨"src/a.ts", none, .parseError, .error, "1;36m", none⟩]
        filesScanned := 1
        records := 2 }
    (∀ i ∈ r.issues, i.IsPlain) ∧
      bare (renderPretty true "." (some "waymark.yaml") r .strict).toList =
        (renderPretty false "." (some "waymark.yaml") r .strict).toList ∧
      escape ∉ (renderPretty false "." (some "waymark.yaml") r .strict).toList := by
  intro r
  have hissues : ∀ i ∈ r.issues, i.IsPlain := by decide
  exact ⟨hissues, bare_renderPretty (by decide) (by decide) hissues .strict⟩

end Report
end Waymark
