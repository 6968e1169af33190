import Waymark.Doc.Basic
import Waymark.Proofs.Preamble.Directive
import Waymark.Proofs.Text.Insert

/-! Summaries of contents. A summary is one trimmed line that is no tag line, and every such line is
its own summary. The paragraph that a summary is made of ends at a blank line or a tag line,
whatever comes after that. -/
namespace Waymark
namespace Doc
namespace Format

open Text

variable (f : Format)

/-- The lines that a summary joins. -/
def paragraph (content : List Char) : List (List Char) :=
  (((lines content).map trim).dropWhile List.isEmpty).takeWhile fun l =>
    !l.isEmpty && !f.isTagLine l

lemma summarize_eq (content : List Char) :
    f.summarize content = joinWith ' ' (f.paragraph content) := rfl

section TagLine

/-- Whether a text without blank space at its head opens a tag section. -/
def opensTag : List Char → Bool
  | '@' :: _ => true
  | ':' :: rest => f = .python && rest.head?.any Char.isAlpha
  | _ => false

lemma isTagLine_eq (l : List Char) : f.isTagLine l = f.opensTag (trimStart l) := rfl

lemma isAlpha_of_isBlank {c : Char} (h : isBlank c = true) : c.isAlpha = false := by
  have hall : (blankChars.all fun c => !c.isAlpha) = true := by decide
  simpa using List.all_eq_true.1 hall c (mem_blankChars h)

/-- A blank character cannot take part in a tag. -/
lemma opensTag_append_blank {l : List Char} (hl : l ≠ []) {c : Char} (hc : isBlank c = true)
    (rest : List Char) : f.opensTag (l ++ c :: rest) = f.opensTag l := by
  cases l with
  | nil => exact absurd rfl hl
  | cons d l =>
    by_cases hat : d = '@'
    · subst hat
      rfl
    · by_cases hcolon : d = ':'
      · subst hcolon
        cases l with
        | nil => simp [opensTag, isAlpha_of_isBlank hc]
        | cons e l => rfl
      · simp [opensTag, hat, hcolon]

lemma isTagLine_trim (l : List Char) : f.isTagLine (trim l) = f.isTagLine l := by
  have hend : IgnoresEnd f.isTagLine :=
    IgnoresEnd.comp_trimStart fun x c hx hc => f.opensTag_append_blank hx hc []
  rw [trim, hend.trimEnd, isTagLine_eq, trimStart_trimStart, isTagLine_eq]

end TagLine

/-- A text in the form that summaries have. -/
structure IsSummary (t : List Char) : Prop where
  line : '\n' ∉ t
  trimmed : trim t = t
  prose : f.isTagLine t = false

lemma isSummary_nil : f.IsSummary [] :=
  ⟨List.not_mem_nil, rfl, rfl⟩

variable {f} in
/-- A space between two summaries makes neither a tag nor blank space at an end. -/
lemma IsSummary.append {l t : List Char} (hl : f.IsSummary l) (hlne : l ≠ []) (ht : f.IsSummary t)
    (htne : t ≠ []) : f.IsSummary (l ++ ' ' :: t) := by
  obtain ⟨hhead, -⟩ := trim_eq_self_iff.1 hl.trimmed
  obtain ⟨-, hlast⟩ := trim_eq_self_iff.1 ht.trimmed
  have hstart : ∀ c ∈ (l ++ ' ' :: t).head?, isBlank c = false := by
    rwa [List.head?_append_of_ne_nil _ hlne]
  refine ⟨?_, trim_eq_self_iff.2 ⟨hstart, ?_⟩, ?_⟩
  · simp [hl.line, ht.line]
  · rwa [List.getLast?_append_cons, List.getLast?_cons_of_ne_nil htne]
  · rw [isTagLine_eq, trimStart_eq_self_iff.2 hstart, f.opensTag_append_blank hlne (by decide),
      ← trimStart_eq_self_iff.2 hhead, ← isTagLine_eq, hl.prose]

lemma isSummary_joinWith {ls : List (List Char)} (h : ∀ l ∈ ls, f.IsSummary l ∧ l ≠ []) :
    f.IsSummary (joinWith ' ' ls) := by
  induction ls with
  | nil => exact f.isSummary_nil
  | cons l ls ih =>
    obtain ⟨hl, hne⟩ := h l List.mem_cons_self
    have hrest := ih fun m hm => h m (List.mem_cons_of_mem _ hm)
    cases ls with
    | nil => rwa [joinWith_singleton]
    | cons m ls =>
      have hm := (h m (List.mem_cons_of_mem _ List.mem_cons_self)).2
      have hjoin : joinWith ' ' (m :: ls) ≠ [] := by
        cases ls <;> simp [joinWith_cons_cons, hm]
      rw [joinWith_cons_cons]
      exact hl.append hne hrest hjoin

lemma isSummary_of_mem_paragraph {c l : List Char} (h : l ∈ f.paragraph c) :
    f.IsSummary l ∧ l ≠ [] := by
  have hlast := List.mem_takeWhile_imp h
  have hmem := (List.dropWhile_sublist _).subset ((List.takeWhile_sublist _).subset h)
  obtain ⟨m, hm, rfl⟩ := List.mem_map.1 hmem
  simp only [Bool.and_eq_true, Bool.not_eq_true', List.isEmpty_eq_false_iff] at hlast
  refine ⟨⟨?_, trim_trim m, hlast.2⟩, hlast.1⟩
  exact fun hc => newline_notMem_of_mem_lines hm ((trim_isInfix m).subset hc)

theorem isSummary_summarize (c : List Char) : f.IsSummary (f.summarize c) :=
  f.isSummary_joinWith fun _ => f.isSummary_of_mem_paragraph

variable {f} in
lemma IsSummary.summarize_eq_self {t : List Char} (h : f.IsSummary t) : f.summarize t = t := by
  rw [summarize_eq, paragraph, lines_of_notMem h.line]
  by_cases hne : t = []
  · subst hne
    rfl
  · simp [hne, h.trimmed, h.prose]

/-- The texts that are their own summaries. -/
theorem summarize_eq_self_iff {t : List Char} : f.summarize t = t ↔ f.IsSummary t := by
  constructor
  · intro h
    rw [← h]
    exact f.isSummary_summarize t
  · exact IsSummary.summarize_eq_self

/-- A line that is blank or opens a tag section ends the paragraph above it. -/
lemma paragraph_eq_of_lines {c t : List Char} {l : List Char} {ls : List (List Char)}
    (hc : ∃ l ∈ lines c, isBlankText l = false)
    (ht : (lines t).map trim = (lines c).map trim ++ l :: ls)
    (hl : l = [] ∨ f.isTagLine l = true) : f.paragraph t = f.paragraph c := by
  have hshown : ((lines c).map trim).dropWhile List.isEmpty ≠ [] := by
    obtain ⟨m, hm, hblank⟩ := hc
    intro hnil
    have hempty := List.dropWhile_eq_nil_iff.1 hnil _ (List.mem_map_of_mem hm)
    rw [List.isEmpty_iff, trim_eq_nil_iff, hblank] at hempty
    cases hempty
  have hstop : (!l.isEmpty && !f.isTagLine l) = false := by
    rcases hl with rfl | hl
    · rfl
    · simp [hl]
  rw [paragraph, paragraph, ht, List.dropWhile_append, if_neg (by simpa using hshown),
    takeWhile_append_cons_of_neg (fun l => !l.isEmpty && !f.isTagLine l) hstop]

/-- A text is its own summary exactly when it is one trimmed line that opens no tag section, and
every summary is such a line. A content of which some line is not blank keeps its summary under
everything that a blank line or a tag line sets off. -/
theorem summarize_stable (c : List Char) :
    ('\n' ∉ f.summarize c ∧ trim (f.summarize c) = f.summarize c ∧
      f.summarize (f.summarize c) = f.summarize c) ∧
    (f.summarize c = c ↔ '\n' ∉ c ∧ trim c = c ∧ f.isTagLine c = false) ∧
    ((∃ l ∈ lines c, isBlankText l = false) → ∀ b rest, '\n' ∉ b →
      isBlankText b = true ∨ f.isTagLine b = true →
        f.summarize (c ++ '\n' :: b ++ '\n' :: rest) = f.summarize c) := by
  have hsummary := f.isSummary_summarize c
  refine ⟨⟨hsummary.line, hsummary.trimmed, hsummary.summarize_eq_self⟩, ?_, ?_⟩
  · rw [summarize_eq_self_iff]
    constructor
    · intro h
      exact ⟨h.line, h.trimmed, h.prose⟩
    · rintro ⟨hline, htrimmed, hprose⟩
      exact ⟨hline, htrimmed, hprose⟩
  · intro hc b rest hb hstop
    obtain ⟨y, hy, hlines⟩ := map_trim_lines_newline c (b ++ '\n' :: rest)
    rw [← List.cons_append, ← List.append_assoc] at hlines
    rw [summarize_eq, summarize_eq]
    rcases hy with rfl | rfl
    · rw [lines_newline hb, List.map_cons, trim_ended] at hlines
      refine congrArg _ (f.paragraph_eq_of_lines hc hlines ?_)
      rwa [trim_eq_nil_iff, isTagLine_trim]
    · -- The content ends with a newline, so that an empty line comes first.
      have hempty : ∀ x, lines ('\n' :: x) = [] :: lines x := lines_newline List.not_mem_nil
      rw [hempty, List.map_cons] at hlines
      exact congrArg _ (f.paragraph_eq_of_lines hc hlines (.inl rfl))

/-- A colon on a line of its own opens no tag section, nor does it in the summary, where the letter
of the next line comes behind a space. -/
theorem summarize_stable_colon :
    let c := " \n :\r\n\tparam x\r".toList
    Format.python.summarize c = ": param x".toList ∧
      Format.python.summarize ": param x".toList = ": param x".toList ∧
      Format.python.summarize (c ++ '\n' :: " :param y: it".toList ++ '\n' :: "More".toList) =
        ": param x".toList := by
  intro c
  have hsummary : Format.python.summarize c = ": param x".toList := by decide +kernel
  have hshown : ∃ l ∈ lines c, isBlankText l = false := by decide +kernel
  obtain ⟨⟨-, -, hidem⟩, -, hmore⟩ := summarize_stable .python c
  rw [hsummary] at hidem hmore
  exact ⟨hsummary, hidem, hmore hshown _ _ (by decide) (.inr (by decide))⟩

end Format
end Doc
end Waymark
