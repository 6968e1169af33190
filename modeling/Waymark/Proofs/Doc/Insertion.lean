import Waymark.Doc.Extract
import Waymark.Proofs.Doc.Block
import Waymark.Proofs.Doc.Hash
import Waymark.Proofs.Doc.Literal
import Waymark.Proofs.Preamble.Header

/-! A summary at the end of the preamble moves the doc comment one line down and changes nothing
else. The reason is that the search for a comment passes over the lines of a header, whichever form
the comments of the language have. -/
namespace Waymark
namespace Doc

open Text Preamble

namespace Block

variable {language : Language} {l : List Char}

/-- Without a block comment at its head, a line is judged as a whole. -/
lemma passes_of_not_open (hopen : "/*".toList.isPrefixOf (trimStart l) = false)
    (hpre : isPreambleResidue language (trim l) = true) : Passes language l := by
  have hres : residue false l = (trim l, false) := dropComments_trim_of_not_open hopen
  refine ⟨?_, by rw [hres], by rwa [hres]⟩
  rw [opensComment, ← Bool.not_eq_true, List.isPrefixOf_iff_prefix]
  intro hc
  have : "/*".toList <+: trimStart l := (by decide : "/*".toList <+: opening).trans hc
  rw [List.isPrefixOf_iff_prefix.2 this] at hopen
  cases hopen

lemma passes_of_line_comment {rest : List Char} (h : trimStart l = '/' :: '/' :: rest) :
    Passes language l := by
  apply passes_of_not_open
  · rw [h]
    rfl
  · have hp : "//".toList.isPrefixOf (trim l) = true := by
      rw [trim, (ignoresEnd_isPrefixOf (by decide)).trimEnd, h]
      rfl
    simp only [isPreambleResidue, hp, Bool.or_true, Bool.true_or]

lemma passes_of_isShebang (h : isShebang l = true) : Passes language l := by
  have hp : "#!".toList.isPrefixOf l = true := by
    rw [isShebang, Bool.and_eq_true] at h
    exact h.1
  obtain ⟨rest, rfl⟩ := List.isPrefixOf_iff_prefix.1 hp
  have ht : trimStart ("#!".toList ++ rest) = "#!".toList ++ rest := rfl
  apply passes_of_not_open
  · rw [ht]
    rfl
  · have hs : isShebang (trim ("#!".toList ++ rest)) = true := by
      rw [trim, ignoresEnd_isShebang.trimEnd, ht, h]
    simp only [isPreambleResidue, hs, Bool.or_true, Bool.true_or]

lemma passes_of_isPrologue (hl : isDirective language = isScriptDirective)
    (h : isPrologue l = true) : Passes language l := by
  have hpro : isPrologue (trim l) = true := by
    rw [trim, ignoresEnd_isPrologue.trimEnd, isPrologue, trimStart_trimStart]
    exact h
  apply passes_of_not_open
  · -- The line begins with a quotation mark.
    obtain ⟨w, hw, hany⟩ := List.any_eq_true.1 h
    obtain ⟨rest, hrest, -⟩ := (Option.any_eq_true _ _).1 hany
    rw [after?_eq_some_iff.1 hrest]
    simp only [List.mem_cons, List.not_mem_nil, or_false] at hw
    rcases hw with rfl | rfl | rfl | rfl | rfl | rfl <;> rfl
  · simp [isPreambleResidue, hl, isScriptDirective, hpro]

/-- What a type-check switch is made of. -/
lemma exists_of_isBlockSwitch (h : isBlockSwitch l = true) :
    ∃ comment z, trimStart l = '/' :: '*' :: (comment ++ closing ++ z) ∧ '*' ∉ comment ∧
      comment ≠ [] ∧ isBlankText z = true := by
  obtain ⟨body, hbody, hword⟩ := (Option.any_eq_true _ _).1 h
  obtain ⟨w, hw, hany⟩ := List.any_eq_true.1 hword
  obtain ⟨tail, htail, hclose⟩ := (Option.any_eq_true _ _).1 hany
  obtain ⟨z, hz, hblank⟩ := (Option.any_eq_true _ _).1 hclose
  rw [after?_eq_some_iff] at hbody htail hz
  obtain ⟨x, hx, hbx⟩ := exists_eq_append_trimStart body
  obtain ⟨y, hy, hty⟩ := exists_eq_append_trimStart tail
  have hstar : ∀ b, isBlankText b = true → '*' ∉ b := by
    intro b hb hm
    exact absurd (List.all_eq_true.1 hb _ hm) (by decide)
  have hwords : ∀ w ∈ typeCheckWords, '*' ∉ w.toList ∧ w.toList ≠ [] := by decide
  obtain ⟨hwstar, hwne⟩ := hwords w hw
  refine ⟨x ++ w.toList ++ y, z, ?_, ?_, by simp [hwne], hblank⟩
  · rw [hbody, hbx, htail, hty, hz]
    simp [closing]
  · simp [hstar x hx, hstar y hy, hwstar]

/-- The comment of a type-check switch is the whole line. -/
lemma passes_of_isBlockSwitch (h : isBlockSwitch l = true) : Passes language l := by
  obtain ⟨comment, z, hl, hstar, hne, hz⟩ := exists_of_isBlockSwitch h
  have hcut : cut closing (comment ++ closing ++ z) = some (comment, z) := by
    rw [List.append_assoc]
    exact cut_append_of_notMem hstar ['/'] z
  have hres : residue false l = ([], false) := by
    change dropComments (trim l) = _
    rw [dropComments_trim_of_open hl, closeComment, hcut, Option.elim_some, trim_eq_nil_iff.2 hz]
    exact dropComments_of_not_open rfl
  refine ⟨?_, by rw [hres], by rw [hres]; rfl⟩
  rw [opensComment, hl]
  cases comment with
  | nil => exact absurd rfl hne
  | cons c comment =>
    have hc : '*' ≠ c := fun he => hstar (he ▸ List.mem_cons_self)
    simp [opening, List.isPrefixOf, hc]

lemma passes_of_isScriptDirective (hl : isDirective language = isScriptDirective)
    (h : isScriptDirective l = true) : Passes language l := by
  simp only [isScriptDirective, Bool.or_eq_true] at h
  rcases h with ((h | h) | h) | h
  · obtain ⟨rest, hrest, -⟩ := (Option.any_eq_true _ _).1 h
    exact passes_of_line_comment (after?_eq_some_iff.1 hrest)
  · obtain ⟨rest, hrest, -⟩ := (Option.any_eq_true _ _).1 h
    exact passes_of_line_comment (after?_eq_some_iff.1 hrest)
  · exact passes_of_isBlockSwitch h
  · exact passes_of_isPrologue hl h

/-- Every line of a header may stand above a comment and opens none. -/
lemma passes_of_isHeaderLine (hl : language = .javascript ∨ language = .typescript) {index : Nat}
    (h : isHeaderLine language l index = true) : Passes language l := by
  have hd : isDirective language = isScriptDirective := by
    rcases hl with rfl | rfl <;> rfl
  have hhead : summaryHead language = summaryHead .javascript := by
    rcases hl with rfl | rfl <;> rfl
  simp only [isHeaderLine, Bool.or_eq_true, Bool.and_eq_true, List.isPrefixOf_iff_prefix] at h
  rcases h with (⟨-, h⟩ | h) | h
  · exact passes_of_isShebang h
  · exact passes_of_isScriptDirective hd (hd ▸ h)
  · rw [hhead] at h
    obtain ⟨rest, rfl⟩ := h
    exact passes_of_line_comment rfl

end Block

namespace Literal

/-- Every line of a header is a comment. -/
lemma isCode_of_isHeaderLine {l : List Char} {index : Nat}
    (h : isHeaderLine .python l index = true) : isCode l = false := by
  have hhash : ∀ x rest, isBlankText x = true → isCode (x ++ '#' :: rest) = false := by
    intro x rest hx
    rw [isCode_eq, trimStart_append_of_blank hx]
    rfl
  simp only [isHeaderLine, Bool.or_eq_true, Bool.and_eq_true, List.isPrefixOf_iff_prefix] at h
  rcases h with (⟨-, h⟩ | h) | h
  · rw [isShebang, Bool.and_eq_true, List.isPrefixOf_iff_prefix] at h
    obtain ⟨rest, rfl⟩ := h.1
    exact hhash [] _ rfl
  · change isEncoding l = true at h
    unfold isEncoding at h
    split at h
    · rename_i rest hdrop
      have hx := List.takeWhile_append_dropWhile
        (p := fun c => c == ' ' || c == '\t' || c == '\x0c') (l := l)
      rw [hdrop] at hx
      rw [← hx]
      apply hhash
      rw [isBlankText, List.all_eq_true]
      intro c hc
      have := List.mem_takeWhile_imp hc
      simp only [Bool.or_eq_true, beq_iff_eq] at this
      rcases this with (rfl | rfl) | rfl <;> rfl
    · cases h
  · obtain ⟨rest, rfl⟩ := h
    exact hhash [] _ rfl

end Literal

namespace Hash

/-- No line of a header belongs to a comment, and each may stand before one. -/
lemma role_of_isHeaderLine {l : Line} {index : Nat}
    (h : isHeaderLine .ruby l.body index = true) :
    isDoc (l, index) = false ∧ isPreamble (l, index) = true := by
  simp only [isHeaderLine, Bool.or_eq_true, Bool.and_eq_true, beq_iff_eq,
    List.isPrefixOf_iff_prefix] at h
  rcases h with (⟨rfl, h⟩ | h) | h
  · have ht : trimStart l.body = l.body := by
      rw [isShebang, Bool.and_eq_true, List.isPrefixOf_iff_prefix] at h
      obtain ⟨rest, hrest⟩ := h.1
      rw [← hrest]
      rfl
    have hs : isShebang (trim l.body) = true := by
      rw [trim, ignoresEnd_isShebang.trimEnd, ht, h]
    simp [isDoc, isPreamble, isShebangAt, ht, h, hs]
  · change isMagicComment l.body = true at h
    have hs : isMagicComment (trimStart l.body) = true := by
      rwa [isMagicComment_eq, trimStart_trimStart, ← isMagicComment_eq]
    have ht : isMagicComment (trim l.body) = true := by
      rw [trim, ignoresEnd_isMagicComment.trimEnd, hs]
    simp [isDoc, isPreamble, hs, ht]
  · obtain ⟨rest, hrest⟩ := h
    have ht : trimStart l.body = l.body := by
      rw [← hrest]
      rfl
    have hhead : summaryHead .ruby <+: trim l.body := by
      rw [trim, ht, ← List.isPrefixOf_iff_prefix, (ignoresEnd_isPrefixOf (by decide)).trimEnd,
        ← hrest]
      simp
    have hw : ∀ x, summaryHead .ruby <+: x → isWaymarkLine x = true := by
      intro x hx
      rw [isWaymarkLine, contains_iff]
      exact (by decide : sigil.toList <:+ summaryHead .ruby).isInfix.trans hx.isInfix
    simp [isDoc, isPreamble, hw _ hhead, hw (trimStart l.body) (by rw [ht, ← hrest]; simp)]

end Hash

/-- The comment of a text that a header stands above. -/
def extractBelow (language : Language) (text : List Char) : Option Comment :=
  if language = .ruby then Hash.extractBelow text else extract language text

lemma startLine_pos_of_extractBelow {language : Language} (hl : HasLineDirectives language)
    {text : List Char} {d : Comment} (h : extractBelow language text = some d) :
    1 ≤ d.startLine := by
  rcases hl with rfl | rfl | rfl | rfl
  · exact (Block.extract_eq_some h).2.2.1
  · exact (Block.extract_eq_some h).2.2.1
  · exact (Literal.extract_eq_some h).2.1
  · exact Hash.startLine_pos h

section Header

variable {language : Language} (hl : HasLineDirectives language)
include hl

/-- A header is passed over. Under an empty one, the first line must not become an interpreter line
when blank space in front of it is dropped. -/
theorem extract_header_append {a b : List Char} (hab : Divides a b)
    (ha : IsHeader language (lines a))
    (hb : language = .ruby → lines a = [] →
      ∀ l ∈ (lines b).head?, isShebang (trimStart l) = false) :
    extract language (a ++ b) =
      (extractBelow language b).map (Comment.shift (lines a).length) := by
  have hline : ∀ l ∈ lines a, ∃ index, isHeaderLine language l index = true := by
    intro l hm
    rw [← List.zipIdx_map_fst 0 (lines a)] at hm
    obtain ⟨p, hp, rfl⟩ := List.mem_map.1 hm
    exact ⟨p.2, ha p hp⟩
  have hscript : language = .javascript ∨ language = .typescript →
      ∀ l ∈ lines a, Block.Passes language l := by
    intro hjs l hm
    obtain ⟨index, h⟩ := hline l hm
    exact Block.passes_of_isHeaderLine hjs h
  rcases hl with rfl | rfl | rfl | rfl
  · exact Block.extract_append hab (hscript (.inl rfl))
  · exact Block.extract_append hab (hscript (.inr rfl))
  · apply Literal.extract_append hab
    intro l hm
    obtain ⟨index, h⟩ := hline l hm
    exact Literal.isCode_of_isHeaderLine h
  · refine Hash.extract_append hab ?_ (hb rfl)
    rintro ⟨l, index⟩ hm
    apply Hash.role_of_isHeaderLine
    apply ha (l.body, index)
    rw [lines, List.zipIdx_map]
    exact List.mem_map_of_mem hm

end Header

/-- A summary at the end of the preamble leaves the preamble as it was and moves the doc comment,
which stands below it, one line down. -/
theorem extract_insertLine {language : Language} (hl : HasLineDirectives language)
    {text words ending : List Char} {k : Nat}
    (hfront : FrontMatter.scan (lines text) (cursor (lines text)) = .absent)
    (hruby : language = .ruby → ∀ l ∈ (lines text).head?,
      ¬∃ x, x ≠ [] ∧ isBlankText x = true ∧ x ++ "#!".toList <+: l)
    (hk : endOfText text language = some k) (hw : '\n' ∉ words)
    (hd : isDirective language (summaryLine language words) = false)
    (he : CanEnd k text ending) :
    let text' := insertLine k (summaryLine language words) ending text
    endOfText text' language = some k ∧
      (extract language text = none ↔ extract language text' = none) ∧
      ∀ d, extract language text = some d → k + 1 ≤ d.startLine ∧
        extract language text' =
          some { d with startLine := d.startLine + 1, endLine := d.endLine + 1 } := by
  intro text'
  refine ⟨endOfText_insertLine hl hfront hk hw hd he, ?_⟩
  obtain ⟨a, a', b, htext, htext', hab, hab', ha, hb, ha'⟩ :=
    insertLine_eq (newline_notMem_summaryLine language hw) (summaryLine_ne_nil language words) he
  have hheader : IsHeader language ((lines text).take k) := isHeader_take hl hfront hk
  have hlen : (lines a).length = k := by
    rw [ha, List.length_take, Nat.min_eq_left (endOf_le hl hfront hk)]
  have hlen' : (lines a').length = k + 1 := by
    have := congrArg List.length ha'
    rw [List.length_map, List.length_map, List.length_append, ← ha, hlen] at this
    exact this
  have hold : extract language text = (extractBelow language b).map (Comment.shift k) := by
    rw [htext, ← hlen]
    apply extract_header_append hl hab (ha ▸ hheader)
    intro hr hnil
    obtain rfl : k = 0 := by rw [← hlen, hnil, List.length_nil]
    rw [hb, List.drop_zero]
    intro l hm
    rw [← Bool.not_eq_true]
    exact fun hs => hruby hr l hm (isShebang_trimStart_of_empty hl hfront hk l hm hs)
  have hnew : extract language text' = (extractBelow language b).map (Comment.shift (k + 1)) := by
    rw [← hlen']
    refine (congrArg _ htext').trans (extract_header_append hl hab' ?_ ?_)
    · exact (hheader.concat_summary words).of_map_trimEnd hl ha'
    · intro _ hnil
      rw [hnil] at hlen'
      cases hlen'
  rw [hold, hnew]
  cases hc : extractBelow language b with
  | none => simp
  | some c =>
    have hpos := startLine_pos_of_extractBelow hl hc
    refine ⟨by simp, ?_⟩
    rintro d hd
    obtain rfl := Option.some.inj hd
    exact ⟨by simp only [Comment.shift]; omega, rfl⟩

/-- The summary goes below the magic comment and above the doc comment. -/
theorem extract_insertLine_ruby :
    let text := "#!ruby\n# typed: true\n# Title\n\nputs 1\n".toList
    let text' := "#!ruby\n# typed: true\n# tldr ::: greets\n# Title\n\nputs 1\n".toList
    let d : Comment := ⟨.ruby, .file, .ruby, "# Title".toList, "Title".toList, 3, 3⟩
    endOfText text' .ruby = some 2 ∧ extract .ruby text = some d ∧
      extract .ruby text' = some { d with startLine := 4, endLine := 4 } := by
  intro text text' d
  have hl : HasLineDirectives .ruby := .inr (.inr (.inr rfl))
  have hfront : FrontMatter.scan (lines text) (cursor (lines text)) = .absent := by decide +kernel
  have hruby : ∀ l ∈ (lines text).head?,
      ¬∃ x, x ≠ [] ∧ isBlankText x = true ∧ x ++ "#!".toList <+: l := by
    have hhead : (lines text).head? = some "#!ruby".toList := by decide +kernel
    rintro l hm ⟨x, hne, hblank, hp⟩
    obtain rfl : "#!ruby".toList = l := Option.some.inj (hhead.symm.trans hm)
    cases x with
    | nil => exact hne rfl
    | cons c x =>
      obtain rfl : c = '#' := (List.cons_prefix_cons.1 hp).1
      cases hblank
  have hk : endOfText text .ruby = some 2 := by decide +kernel
  have hd : isDirective .ruby (summaryLine .ruby "greets".toList) = false := by decide +kernel
  have htext : insertLine 2 (summaryLine .ruby "greets".toList) ['\n'] text = text' := by
    decide +kernel
  have hdoc : extract .ruby text = some d := by decide +kernel
  have h := extract_insertLine hl hfront (fun _ => hruby) hk (by decide) hd (.inl rfl)
  rw [htext] at h
  exact ⟨h.1, hdoc, (h.2.2 d hdoc).2⟩

end Doc
end Waymark
