import Waymark.Doc.Extract
import Waymark.Proofs.Doc.Block
import Waymark.Proofs.Doc.Hash
import Waymark.Proofs.Doc.Literal
import Waymark.Proofs.Doc.Place
import Waymark.Proofs.Doc.Slash

/-! Content that was taken out of a comment can be wrapped and taken out again. Block, hash and
slash comments keep every content, but nothing is wrapped as nothing by the last two. A literal
keeps the content that cannot be mistaken for its own quotes and indentation, and no other text in
normal form. -/
namespace Waymark
namespace Doc

open Text

/-- Languages whose doc comments are comments, not literals. -/
def HasCommentDocs (language : Language) : Prop :=
  language = .javascript ∨ language = .typescript ∨ language = .ruby ∨ language = .rust

theorem extract_wrap_of_comment {language : Language} (hl : HasCommentDocs language)
    {text : List Char} {d : Comment} (h : extract language text = some d) :
    (d.format = .jsdoc ∨ d.content ≠ [] →
      ∃ d2, extract language (d.format.wrap d.content) = some d2 ∧ d2.content = d.content ∧
        d2.format = d.format ∧ d2.raw = d.format.wrap d.content ∧ d2.kind = .file ∧
        d2.startLine = 1) ∧
    (d.format ≠ .jsdoc → d.content = [] →
      d.format.wrap d.content = [] ∧ extract language (d.format.wrap d.content) = none) := by
  rcases hl with rfl | rfl | rfl | rfl
  · have hf := (Block.extract_eq_some h).2.1
    exact ⟨fun _ => ⟨_, Block.extract_wrap h, rfl, rfl, rfl, rfl, rfl⟩, fun hn => absurd hf hn⟩
  · have hf := (Block.extract_eq_some h).2.1
    exact ⟨fun _ => ⟨_, Block.extract_wrap h, rfl, rfl, rfl, rfl, rfl⟩, fun hn => absurd hf hn⟩
  · have hf := (Hash.extract_eq_some h).2.1
    constructor
    · rintro (hj | hne)
      · rw [hf] at hj
        cases hj
      · exact ⟨_, Hash.extract_wrap h hne, rfl, rfl, rfl, rfl, rfl⟩
    · intro _ hc
      rw [hf, hc]
      exact ⟨rfl, rfl⟩
  · obtain ⟨-, m, -, hf, -⟩ := Slash.extract_eq_some h
    constructor
    · rintro (hj | hne)
      · rw [hf] at hj
        cases m <;> cases hj
      · exact ⟨_, Slash.extract_wrap h hne, rfl, rfl, rfl, rfl, rfl⟩
    · intro _ hc
      rw [hf, hc]
      cases m <;> exact ⟨rfl, rfl⟩

/-- A line close to a magic comment and an empty one are kept. -/
theorem extract_wrap_near_magic :
    ∃ d d2, extract .ruby "#!/bin/sh\n  #Title\n#\n#   --coding: x\n".toList = some d ∧
      d.content = "Title\n\n  --coding: x".toList ∧
      extract .ruby "# Title\n#\n#   --coding: x".toList = some d2 ∧ d2.content = d.content := by
  let d : Comment := ⟨.ruby, .file, .ruby, "  #Title\n#\n#   --coding: x".toList,
    "Title\n\n  --coding: x".toList, 2, 4⟩
  have h : extract .ruby "#!/bin/sh\n  #Title\n#\n#   --coding: x\n".toList = some d := by
    decide +kernel
  have hne : d.content ≠ [] := by decide
  have hl : HasCommentDocs .ruby := .inr (.inr (.inl rfl))
  have hw : d.format.wrap d.content = "# Title\n#\n#   --coding: x".toList := by decide +kernel
  obtain ⟨d2, h2, hc, -⟩ := (extract_wrap_of_comment hl h).1 (.inr hne)
  exact ⟨d, d2, h, rfl, hw ▸ h2, hc⟩

/-- A docstring is always read back, and its content is the same exactly when it is
rewrappable. -/
theorem extract_wrap_of_literal {text : List Char} {d : Comment}
    (h : extract .python text = some d) :
    ∃ d2, extract .python (Format.python.wrap d.content) = some d2 ∧ d2.format = d.format ∧
      (d2.content = d.content ↔ Literal.Rewrappable d.content) := by
  have hformat := (Literal.extract_eq_some h).1
  have hw := Literal.extract_wrap h
  rwa [hformat] at hw ⊢

/-- A title at the margin of its paragraph is kept. -/
theorem extract_wrap_titled :
    ∃ d d2, extract .python "'''\nTitle\n\n  - item \"\"\nend\n'''\n".toList = some d ∧
      d.content = "Title\n\n  - item \"\"\nend".toList ∧
      extract .python (Format.python.wrap d.content) = some d2 ∧ d2.content = d.content := by
  let d : Comment := ⟨.python, .file, .python, "'''\nTitle\n\n  - item \"\"\nend\n'''".toList,
    "Title\n\n  - item \"\"\nend".toList, 1, 6⟩
  have h : extract .python "'''\nTitle\n\n  - item \"\"\nend\n'''\n".toList = some d := by
    decide +kernel
  have hr : Literal.Rewrappable d.content := by
    refine ⟨by decide +kernel, by decide +kernel, by decide +kernel, .inr ⟨"end".toList, ?_⟩⟩
    decide +kernel
  obtain ⟨d2, h2, -, hc⟩ := extract_wrap_of_literal h
  exact ⟨d, d2, h, rfl, h2, hc.2 hr⟩

/-- A title on the line after the quotes and an indented body lose the indentation. -/
theorem extract_wrap_indented :
    ¬∀ text d, extract .python text = some d →
      ∃ d2, extract .python (Format.python.wrap d.content) = some d2 ∧
        d2.content = d.content ∧ d2.format = d.format := by
  intro h
  let text := "\"\"\"\nTitle\n    body\n\"\"\"\n".toList
  let d : Comment := ⟨.python, .file, .python, "\"\"\"\nTitle\n    body\n\"\"\"".toList,
    "Title\n    body".toList, 1, 4⟩
  let again : Comment := ⟨.python, .file, .python, "\"\"\"Title\n    body\n\"\"\"".toList,
    "Title\nbody".toList, 1, 3⟩
  have hd : extract .python text = some d := by decide +kernel
  have ha : extract .python (Format.python.wrap d.content) = some again := by decide +kernel
  obtain ⟨d2, h2, hc, -⟩ := h text d hd
  rw [ha] at h2
  obtain rfl := Option.some.inj h2
  exact absurd hc (by decide)

/-- A text in the form of a content: no line ends in blank space, and the first and the last line
are not empty unless the text is. -/
structure IsNormalForm (c : List Char) : Prop where
  line : ∀ l ∈ c.splitOn '\n', ∀ x ∈ l.getLast?, isBlank x = false
  first : c ≠ [] → (c.splitOn '\n').head? ≠ some []
  last : c ≠ [] → (c.splitOn '\n').getLast? ≠ some []

lemma newline_notMem_of_mem_splitOn {text l : List Char} (h : l ∈ text.splitOn '\n') :
    '\n' ∉ l := by
  induction text using lineInduction with
  | last m hm =>
    rw [List.splitOn_eq_singleton hm, List.mem_singleton] at h
    rwa [h]
  | line m rest hm ih =>
    rw [List.splitOn_append_cons_self_of_not_mem hm, List.mem_cons] at h
    rcases h with rfl | h
    · exact hm
    · exact ih h

lemma IsNormalForm.isContent {c : List Char} (h : IsNormalForm c) : IsContent c := by
  by_cases hc : c = []
  · subst hc
    exact @isContent_normalize [] (by simp)
  · have hjoin : joinWith '\n' (c.splitOn '\n') = c := List.intercalate_splitOn '\n'
    have hnormal : Normal (c.splitOn '\n') :=
      ⟨fun l hl => ⟨newline_notMem_of_mem_splitOn hl, trimEnd_eq_self_iff.2 (h.line l hl)⟩,
        h.first hc, h.last hc⟩
    have hlines : lines c = c.splitOn '\n' := by
      conv_lhs => rw [← hjoin]
      exact hnormal.lines_joinWith
    exact ⟨hlines ▸ hnormal, hlines ▸ hjoin⟩

/-- What a text must be like to be read back from a literal, said of its lines. -/
lemma rewrappable_iff {c : List Char} (hc : IsContent c) :
    Literal.Rewrappable c ↔
      ¬"\"\"\"".toList <:+: c ∧
      ((c.splitOn '\n').length = 1 → c.getLast? ≠ some '"') ∧
      (∀ l ∈ (c.splitOn '\n').head?, ∀ x ∈ l.head?, isBlank x = false) ∧
      (1 < (c.splitOn '\n').length →
        ∃ l ∈ (c.splitOn '\n').tail, ∃ x ∈ l.head?, isBlank x = false) := by
  have hquotes : contains Literal.quotes c = false ↔ ¬"\"\"\"".toList <:+: c := by
    rw [contains_eq_false_iff, cut_eq_none_iff, Literal.quotes]
  have hmargin : ∀ l : List Char, l ≠ [] ∧ trimStart l = l ↔ ∃ x ∈ l.head?, isBlank x = false := by
    intro l
    cases l with
    | nil => simp
    | cons x l => simp [trimStart_eq_self_iff]
  by_cases hne : c = []
  · subst hne
    exact iff_of_true ⟨rfl, by simp, rfl, .inl (by simp)⟩
      ⟨by decide, by simp, by simp, by simp⟩
  · obtain ⟨first, rest, hl⟩ := List.exists_cons_of_ne_nil (hc.lines_ne_nil hne)
    have hhead : trimStart c = c ↔ ∀ x ∈ first.head?, isBlank x = false := by
      rw [trimStart_eq_self_iff, hc.head?_eq hl]
    rw [splitOn_content hc hne]
    constructor
    · rintro ⟨hq, hlast, hfirst, hrest⟩
      refine ⟨hquotes.1 hq, fun hone => hlast hone.le, ?_, fun hmany => ?_⟩
      · rw [hl]
        rintro l ⟨⟩
        exact hhead.1 hfirst
      · obtain ⟨l, hmem, hflush⟩ := hrest.resolve_left (by omega)
        exact ⟨l, hmem, (hmargin l).1 hflush⟩
    · rintro ⟨hq, hlast, hfirst, hrest⟩
      have hpos : 0 < (lines c).length := by simp [hl]
      refine ⟨hquotes.2 hq, fun hone => hlast (by omega), hhead.2 ?_, ?_⟩
      · exact hfirst first (by rw [hl]; rfl)
      · by_cases hmany : 1 < (lines c).length
        · obtain ⟨l, hmem, hflush⟩ := hrest hmany
          exact .inr ⟨l, hmem, (hmargin l).2 hflush⟩
        · exact .inl (by omega)

/-- Wrapping content of the normal form as a literal and taking it out again gives the same content
exactly when no quotes close the literal early, no blank space stands at its head, and one of its
further lines, if there are any, holds the margin. -/
theorem extract_wrap_eq_self_iff {c : List Char} (hc : IsNormalForm c) :
    ∃ d, extract .python (Format.python.wrap c) = some d ∧
      (d.content = c ↔
        ¬"\"\"\"".toList <:+: c ∧
        ((c.splitOn '\n').length = 1 → c.getLast? ≠ some '"') ∧
        (∀ l ∈ (c.splitOn '\n').head?, ∀ x ∈ l.head?, isBlank x = false) ∧
        (1 < (c.splitOn '\n').length →
          ∃ l ∈ (c.splitOn '\n').tail, ∃ x ∈ l.head?, isBlank x = false)) := by
  obtain ⟨body, after, hcut, -⟩ := cut_first Literal.quotes (Literal.enclosed c) []
  rw [List.append_nil] at hcut
  rw [Literal.wrap_eq]
  refine ⟨_, Literal.extract_quoted hcut, ?_⟩
  dsimp only
  rw [Literal.strip_eq_iff_rewrappable hc.isContent hcut, rewrappable_iff hc.isContent]

/-- Two quotes inside and a quote at the end of many lines do no harm. -/
theorem extract_wrap_eq_self_margin :
    let c := "Title \"\"\n\n  - item\nend\"".toList
    ∃ d, extract .python (Format.python.wrap c) = some d ∧ d.content = c := by
  intro c
  have hsplit : c.splitOn '\n' =
      ["Title \"\"".toList, [], "  - item".toList, "end\"".toList] := by
    decide +kernel
  have hc : IsNormalForm c := by
    constructor <;> rw [hsplit] <;> simp [isBlank]
  obtain ⟨d, hd, hiff⟩ := extract_wrap_eq_self_iff hc
  refine ⟨d, hd, hiff.2 ⟨by decide +kernel, ?_⟩⟩
  rw [hsplit]
  exact ⟨by simp, by simp [isBlank], fun _ => ⟨"end\"".toList, by simp, 'e', rfl, rfl⟩⟩

end Doc
end Waymark
