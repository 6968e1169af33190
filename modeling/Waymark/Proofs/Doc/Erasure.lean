import Waymark.Proofs.Doc.Block

/-! Comments character by character. A text may stand before a comment that documents its file
exactly when nothing but lines of a preamble is left of it once its comments are erased. The test by
lines keeps a flag from line to line; here one reader goes through the text, and what it leaves of
each line is compared with what the test looks at. -/
namespace Waymark
namespace Doc
namespace Block

open Text

/-- Where a reader of a text stands: at the head of a line, with only blank space and comments
before it there, behind other text of the line, or inside a comment. -/
inductive Region where
  | head
  | text
  | comment
  deriving DecidableEq, Repr

/-- The text without the block comments that begin at the head of a line. A comment ends behind the
first closing after the two characters that open it, or else at the end of the text. -/
def eraseFrom : Region → List Char → List Char
  | _, [] => []
  | .head, '/' :: '*' :: cs => eraseFrom .comment cs
  | .head, c :: cs => c :: eraseFrom (if isBlank c then .head else .text) cs
  | .text, c :: cs => c :: eraseFrom (if c = '\n' then .head else .text) cs
  | .comment, '*' :: '/' :: cs => eraseFrom .head cs
  | .comment, _ :: cs => eraseFrom .comment cs

/-- The text without its comments, read from its first line on. -/
def erase (text : List Char) : List Char :=
  eraseFrom .head text

/-- Whether a line ends before this text. -/
def EndsLine (rest : List Char) : Prop :=
  ∀ c ∈ rest.head?, c = '\n'

section Reader

lemma eraseFrom_head_cons {c : Char} {cs : List Char} (h : ¬"/*".toList <+: c :: cs) :
    eraseFrom .head (c :: cs) = c :: eraseFrom (if isBlank c then .head else .text) cs := by
  rw [eraseFrom]
  rintro rest rfl rfl
  exact h (List.prefix_append "/*".toList rest)

/-- A comment is erased up to the first closing. -/
lemma eraseFrom_comment (cs : List Char) :
    eraseFrom .comment cs = (cut closing cs).elim [] fun p => eraseFrom .head p.2 := by
  induction cs with
  | nil => rfl
  | cons c cs ih =>
    by_cases hp : closing <+: c :: cs
    · obtain ⟨tail, htail⟩ := hp
      rw [← htail, cut_append_self, Option.elim_some]
      rfl
    · rw [cut_cons_of_not_isPrefix hp, eraseFrom, ih]
      · cases cut closing cs <;> rfl
      · rintro rest rfl rfl
        exact hp (List.prefix_append closing rest)

/-- A line without a closing is erased to its end. -/
lemma eraseFrom_comment_of_none {x : List Char} (hx : cut closing x = none) {rest : List Char}
    (hrest : EndsLine rest) : eraseFrom .comment (x ++ rest) = eraseFrom .comment rest := by
  cases rest with
  | nil =>
    rw [List.append_nil, eraseFrom_comment, hx]
    rfl
  | cons c cs =>
    obtain rfl := hrest c rfl
    have hnewline : eraseFrom .comment ('\n' :: cs) = eraseFrom .comment cs := rfl
    rw [hnewline, eraseFrom_comment, eraseFrom_comment, cut_append_cons hx (by decide)]
    cases cut closing cs <;> rfl

lemma eraseFrom_blank {x : List Char} (hx : isBlankText x = true) (rest : List Char) :
    eraseFrom .head (x ++ rest) = x ++ eraseFrom .head rest := by
  induction x with
  | nil => rfl
  | cons c x ih =>
    rw [isBlankText, List.all_cons, Bool.and_eq_true] at hx
    have hopen : ¬"/*".toList <+: c :: (x ++ rest) := by
      intro h
      obtain rfl := (List.cons_prefix_cons.1 h).1
      exact absurd hx.1 (by decide)
    rw [List.cons_append, eraseFrom_head_cons hopen, if_pos hx.1, ih hx.2, List.cons_append]

/-- Behind text that is no comment nothing is erased up to the end of the line. -/
lemma eraseFrom_text {x : List Char} (hx : '\n' ∉ x) {rest : List Char} (hrest : EndsLine rest) :
    eraseFrom .text (x ++ rest) = x ++ eraseFrom .head rest := by
  induction x with
  | nil =>
    cases rest with
    | nil => rfl
    | cons c cs =>
      obtain rfl := hrest c rfl
      rfl
  | cons c x ih =>
    obtain ⟨hc, hx⟩ := not_or.1 fun h => hx (List.mem_cons.2 h)
    rw [List.cons_append, eraseFrom, if_neg (Ne.symm hc), ih hx, List.cons_append]

/-- A line of text that is no comment stays as it is. -/
lemma eraseFrom_head_of_not_open {x : List Char} (hx : '\n' ∉ x)
    (hopen : ¬"/*".toList <+: trimStart x) {rest : List Char} (hrest : EndsLine rest) :
    eraseFrom .head (x ++ rest) = x ++ eraseFrom .head rest := by
  obtain ⟨blank, hblank, hsplit⟩ := exists_eq_append_trimStart x
  cases hshown : trimStart x with
  | nil =>
    rw [hshown, List.append_nil] at hsplit
    rw [hsplit]
    exact eraseFrom_blank hblank rest
  | cons c cs =>
    rw [hshown] at hsplit hopen
    have hc : isBlank c = false := trimStart_head c (by rw [hshown]; rfl)
    have hcs : '\n' ∉ cs := fun h => hx (by rw [hsplit]; simp [h])
    -- The end of the line cannot complete the two characters that open a comment.
    have hopen' : ¬"/*".toList <+: c :: (cs ++ rest) := by
      cases rest with
      | nil => rwa [List.append_nil]
      | cons d rest =>
        obtain rfl := hrest d rfl
        rwa [← List.cons_append, prefix_append_cons_iff (by decide)]
    rw [hsplit, List.append_assoc, eraseFrom_blank hblank, List.cons_append,
      eraseFrom_head_cons hopen', if_neg (by simp [hc]), eraseFrom_text hcs hrest]
    simp

end Reader

section Line

/-- The region in which a reader stands behind a line. -/
def regionOf (inBlock : Bool) : Region :=
  if inBlock then .comment else .head

/-- A reader leaves `x` of a line, which is `r.1` up to blank space, and stands in the region `r.2`
behind it. -/
structure Leaves (place : Region) (line x : List Char) (r : List Char × Bool) : Prop where
  newline : '\n' ∉ x
  trimmed : trim x = r.1
  blank : r.2 = true → isBlankText x = true
  erased : ∀ rest, EndsLine rest →
    eraseFrom place (line ++ rest) = x ++ eraseFrom (regionOf r.2) rest

/-- Blank space before a comment stays, and the comment is read from behind its opening. -/
lemma Leaves.of_comment {blank body x : List Char} {r : List Char × Bool}
    (h : Leaves .comment body x r) (hblank : isBlankText blank = true) (hnewline : '\n' ∉ blank) :
    Leaves .head (blank ++ ("/*".toList ++ body)) (blank ++ x) r where
  newline := by simp [hnewline, h.newline]
  trimmed := by rw [trim_append_of_blank hblank, h.trimmed]
  blank hr := by rw [isBlankText_append, hblank, h.blank hr, Bool.and_true]
  erased rest hrest := by
    rw [List.append_assoc, eraseFrom_blank hblank, List.append_assoc, List.append_assoc,
      ← h.erased rest hrest]
    rfl

/-- What is left of a text that begins inside a comment, if that is known of the texts behind its
closings. -/
lemma exists_leaves_comment {l : List Char} (hl : '\n' ∉ l)
    (ih : ∀ tail, tail.length < l.length → '\n' ∉ tail →
      ∃ x, Leaves .head tail x (dropComments (trim tail))) :
    ∃ x, Leaves .comment l x (closeComment l) := by
  cases hcut : cut closing l with
  | none =>
    have hclose : closeComment l = ([], true) := by rw [closeComment, hcut, Option.elim_none]
    rw [hclose]
    refine ⟨[], by simp, rfl, fun _ => rfl, ?_⟩
    exact fun rest hrest => eraseFrom_comment_of_none hcut hrest
  | some p =>
    obtain ⟨comment, tail⟩ := p
    have hclose : closeComment l = dropComments (trim tail) := by
      rw [closeComment, hcut, Option.elim_some]
    have htail : '\n' ∉ tail := fun h => hl (by rw [cut_eq_some hcut]; simp [h])
    obtain ⟨x, hx⟩ := ih tail (cut_length_lt (by decide) hcut) htail
    rw [hclose]
    refine ⟨x, hx.newline, hx.trimmed, hx.blank, ?_⟩
    intro rest hrest
    rw [eraseFrom_comment, cut_append_of_some hcut, Option.elim_some, hx.erased rest hrest]

/-- What is left of a text that begins at the head of a line. -/
lemma exists_leaves_head {l : List Char} (hl : '\n' ∉ l) :
    ∃ x, Leaves .head l x (dropComments (trim l)) := by
  induction hn : l.length using Nat.strong_induction_on generalizing l with
  | _ n ih =>
    by_cases hopen : "/*".toList <+: trimStart l
    · obtain ⟨body, hbody⟩ := hopen
      obtain ⟨blank, hblank, hstart⟩ := exists_eq_append_trimStart l
      have hdrop : dropComments (trim l) = closeComment body := dropComments_trim_of_open hbody.symm
      rw [hdrop]
      rw [← hbody] at hstart
      rw [hstart] at hl hn ⊢
      simp only [List.mem_append, not_or] at hl
      simp only [List.length_append] at hn
      obtain ⟨x, hx⟩ := exists_leaves_comment hl.2.2 fun tail htail hnewline =>
        ih tail.length (by omega) hnewline rfl
      exact ⟨blank ++ x, hx.of_comment hblank hl.1⟩
    · have hclosed : "/*".toList.isPrefixOf (trimStart l) = false := by
        rwa [← Bool.not_eq_true, List.isPrefixOf_iff_prefix]
      rw [dropComments_trim_of_not_open hclosed]
      refine ⟨l, hl, rfl, fun h => ?_, ?_⟩
      · cases h
      · exact fun rest hrest => eraseFrom_head_of_not_open hl hopen hrest

/-- A reader leaves of every line what the test by lines looks at. -/
lemma exists_leaves_residue {l : List Char} (hl : '\n' ∉ l) (inBlock : Bool) :
    ∃ x, Leaves (regionOf inBlock) l x (residue inBlock l) := by
  cases inBlock with
  | false => exact exists_leaves_head hl
  | true =>
    have hresidue : residue true l = closeComment l := by
      rw [← closeComment_trim, closeComment, residue, if_pos rfl]
      cases cut closing (trim l) <;> rfl
    rw [hresidue]
    exact exists_leaves_comment hl fun tail _ hnewline => exists_leaves_head hnewline

end Line

section Text

variable (language : Language)

/-- The test of all lines of a text, each without the blank space at its ends. -/
def allResidues (text : List Char) : Bool :=
  (lines text).all fun l => isPreambleResidue language (trim l)

lemma allResidues_of_notMem {l : List Char} (hl : '\n' ∉ l) :
    allResidues language l = isPreambleResidue language (trim l) := by
  rw [allResidues, lines_of_notMem hl]
  by_cases hnil : l = []
  · subst hnil
    rfl
  · simp [hnil]

lemma allResidues_newline {l : List Char} (hl : '\n' ∉ l) (rest : List Char) :
    allResidues language (l ++ '\n' :: rest) =
      (isPreambleResidue language (trim l) && allResidues language rest) := by
  rw [allResidues, lines_newline hl, List.all_cons, trim_ended, allResidues]

lemma isPreambleFrom_of_notMem {l : List Char} (hl : '\n' ∉ l) (inBlock : Bool) :
    isPreambleFrom language inBlock (lines l) =
      isPreambleResidue language (residue inBlock l).1 := by
  rw [lines_of_notMem hl]
  by_cases hnil : l = []
  · subst hnil
    have hresidue : (residue inBlock []).1 = [] := by
      cases inBlock with
      | false => exact congrArg Prod.fst (dropComments_of_not_open rfl)
      | true => rfl
    rw [hresidue]
    rfl
  · rw [if_neg hnil]
    exact Bool.and_true _

lemma isPreambleFrom_newline {l : List Char} (hl : '\n' ∉ l) (rest : List Char) (inBlock : Bool) :
    isPreambleFrom language inBlock (lines (l ++ '\n' :: rest)) =
      (isPreambleResidue language (residue inBlock l).1 &&
        isPreambleFrom language (residue inBlock l).2 (lines rest)) := by
  have hended : residue inBlock (ended l).body = residue inBlock l := by
    rw [residue, trim_ended, residue]
  rw [lines_newline hl, ← hended]
  rfl

/-- The test by lines, begun in either region, judges the lines of the erased text. Blank space may
stand before that, as a comment that is closed on a later line leaves it. -/
theorem isPreambleFrom_eq_allResidues (text : List Char) (inBlock : Bool) (blank : List Char)
    (hblank : isBlankText blank = true) (hnewline : '\n' ∉ blank) :
    isPreambleFrom language inBlock (lines text) =
      allResidues language (blank ++ eraseFrom (regionOf inBlock) text) := by
  induction text using lineInduction generalizing inBlock blank with
  | last l hl =>
    obtain ⟨x, hx⟩ := exists_leaves_residue hl inBlock
    have herased : eraseFrom (regionOf inBlock) l = x := by
      have h := hx.erased [] (by simp [EndsLine])
      rwa [List.append_nil, eraseFrom, List.append_nil] at h
    have hline : '\n' ∉ blank ++ x := by simp [hnewline, hx.newline]
    rw [isPreambleFrom_of_notMem language hl, herased, allResidues_of_notMem language hline,
      trim_append_of_blank hblank, hx.trimmed]
  | line l rest hl ih =>
    obtain ⟨x, hx⟩ := exists_leaves_residue hl inBlock
    have hline : '\n' ∉ blank ++ x := by simp [hnewline, hx.newline]
    have herased := hx.erased ('\n' :: rest) (by simp [EndsLine])
    rw [isPreambleFrom_newline language hl, herased, ← List.append_assoc, ← hx.trimmed]
    cases hopen : (residue inBlock l).2 with
    | false =>
      have hnext : eraseFrom (regionOf false) ('\n' :: rest) =
          '\n' :: eraseFrom (regionOf false) rest := rfl
      rw [hnext, allResidues_newline language hline, trim_append_of_blank hblank,
        ih false [] rfl (by simp), List.nil_append]
    | true =>
      -- The line goes on inside the comment, behind what is left of this one.
      have hnext : eraseFrom (regionOf true) ('\n' :: rest) = eraseFrom (regionOf true) rest := rfl
      have hx' := hx.blank hopen
      have hblank' : isBlankText (blank ++ x) = true := by
        rw [isBlankText_append, hblank, hx', Bool.and_true]
      rw [hnext, ih true (blank ++ x) hblank' hline, trim_eq_nil_iff.2 hx']
      rfl

end Text

/-- A text may stand before a comment that documents its file exactly when every line that is left
of it without its comments is blank, a line comment, an interpreter line, a waymark or a directive
of the language. -/
theorem isPreamble_iff_erase (language : Language) (before : List Char) :
    isPreamble language before = true ↔ ∀ l ∈ lines (erase before),
      trim l = [] ∨ "//".toList <+: trim l ∨ Preamble.isShebang (trim l) = true ∨
        ":::".toList <:+: trim l ∨ Preamble.isDirective language (trim l) = true := by
  have hlines := isPreambleFrom_eq_allResidues language before false [] rfl (by simp)
  rw [isPreamble, hlines, allResidues, List.all_eq_true]
  simp only [isPreambleResidue, Bool.or_eq_true, List.isEmpty_iff, List.isPrefixOf_iff_prefix,
    isWaymarkLine, contains_iff, or_assoc]
  rfl

example : erase "/*/ a\n */ /* b */x\n /**/ // c /*".toList = " x\n  // c /*".toList := by decide

end Block
end Doc
end Waymark
