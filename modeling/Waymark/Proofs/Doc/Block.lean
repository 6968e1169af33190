import Waymark.Doc.Block
import Waymark.Proofs.Doc.Basic
import Waymark.Proofs.Preamble.Directive
import Waymark.Proofs.Text.Insert
import Waymark.Proofs.Text.Search

/-! Block comments: wrapped content is one comment again, with the same content. Lines above a
comment that open none and may stand before it do not change it. -/
namespace Waymark
namespace Doc
namespace Block

open Text Format

lemma undecorate_isInfix (l : List Char) : undecorate l <:+: l := by
  unfold undecorate
  split
  · rename_i rest h
    exact ((dropSpace_isSuffix rest).trans (List.suffix_cons _ _)).isInfix.trans
      (h ▸ trim_isInfix l)
  · exact trim_isInfix l

/-- What a comment that was found is made of. -/
lemma extract_eq_some {language : Language} {text : List Char} {d : Comment}
    (h : extract language text = some d) :
    d.language = language ∧ d.format = .jsdoc ∧ 1 ≤ d.startLine ∧
      ∃ inner, cut closing inner = none ∧ d.content = strip inner := by
  unfold extract at h
  split at h
  · cases h
  · split at h
    · cases h
    · rename_i inner after hcut
      obtain rfl := Option.some.inj h
      exact ⟨rfl, rfl, Nat.le_add_left _ _, inner, cut_before (by decide) hcut, rfl⟩

/-- The lines that stand between the delimiters of a wrapped content. -/
def starred (ls : List (List Char)) : List Char :=
  ls.flatMap fun l => decorate " *".toList l ++ ['\n']

lemma starred_cons (l : List Char) (ls : List (List Char)) :
    starred (l :: ls) = decorate " *".toList l ++ '\n' :: starred ls := by
  simp [starred]

lemma wrap_eq (c : List Char) :
    Format.jsdoc.wrap c = "/**\n".toList ++ starred (lines c) ++ " */".toList := rfl

/-- A star in front of a line does not close the comment. -/
lemma cut_closing_decorate {l : List Char} (h : cut closing l = none) :
    cut closing (decorate " *".toList l) = none := by
  by_cases hl : l = []
  · subst hl
    decide
  · rw [decorate_of_ne_nil hl, cut_append_cons (by decide) (by decide), h]
    rfl

/-- The comment is closed after its last line and not before. -/
lemma cut_closing_starred {ls : List (List Char)} (h : ∀ l ∈ ls, cut closing l = none) :
    cut closing (starred ls ++ ' ' :: closing) = some (starred ls ++ [' '], []) := by
  induction ls with
  | nil => decide
  | cons l ls ih =>
    rw [starred_cons, List.append_assoc, List.cons_append,
      cut_append_cons (cut_closing_decorate (h l List.mem_cons_self)) (by decide),
      ih fun m hm => h m (List.mem_cons_of_mem _ hm)]
    simp

lemma decorate_star_plain {l : List Char} (hl : '\n' ∉ l ∧ trimEnd l = l) :
    '\n' ∉ decorate " *".toList l ∧ (decorate " *".toList l).getLast? ≠ some '\r' := by
  by_cases h : l = []
  · subst h
    decide
  · rw [decorate_of_ne_nil h]
    refine ⟨by simp [hl.1], ?_⟩
    rw [List.getLast?_append_cons, List.getLast?_cons_of_ne_nil h]
    exact getLast?_ne_return hl.2

lemma lines_starred {ls : List (List Char)} (h : ∀ l ∈ ls, '\n' ∉ l ∧ trimEnd l = l)
    (rest : List Char) :
    lines (starred ls ++ rest) = ls.map (decorate " *".toList) ++ lines rest := by
  induction ls with
  | nil => rfl
  | cons l ls ih =>
    obtain ⟨hn, hr⟩ := decorate_star_plain (h l List.mem_cons_self)
    rw [starred_cons, List.append_assoc, List.cons_append, lines_newline hn, ended_of_ne hr,
      ih fun m hm => h m (List.mem_cons_of_mem _ hm)]
    rfl

/-- Taking the star away is the inverse of decorating. -/
lemma undecorate_decorate {l : List Char} (h : trimEnd l = l) :
    undecorate (decorate " *".toList l) = l := by
  by_cases hl : l = []
  · subst hl
    rfl
  · have ht : trim (decorate " *".toList l) = '*' :: ' ' :: l := by
      rw [decorate_of_ne_nil hl]
      exact trimEnd_append_of_trimmed "* ".toList hl h
    rw [undecorate, ht]
    rfl

/-- The content is read back from between the delimiters. -/
lemma strip_starred {c : List Char} (hc : IsContent c) :
    strip ('\n' :: (starred (lines c) ++ [' '])) = c := by
  have hl : lines ('\n' :: (starred (lines c) ++ [' '])) =
      [] :: (lines c).map (decorate " *".toList) ++ [[' ']] := by
    have hnil : '\n' ∉ ([] : List Char) := by simp
    rw [← List.nil_append ('\n' :: _), lines_newline hnil, lines_starred hc.normal.line]
    rfl
  have hu : ((lines c).map (decorate " *".toList)).map undecorate = lines c := by
    rw [List.map_map, List.map_congr_left, List.map_id]
    intro l hm
    exact undecorate_decorate (hc.normal.line l hm).2
  rw [strip, hl, List.map_append, List.map_cons, hu]
  exact (normalize_between (lines c) rfl rfl).trans hc.normalize_lines

lemma classify_alone (language : Language) (content : List Char) :
    classify language [] content [] = .file := by
  unfold classify
  split_ifs with htag howned hpre
  · rfl
  · exact absurd howned (by simp [following, isBlankText])
  · rfl
  · exact absurd rfl hpre

/-- A text that is one comment. -/
lemma extract_alone (language : Language) {inner : List Char}
    (hopen : refusesOpening (inner ++ closing) = false)
    (hcut : cut closing (inner ++ closing) = some (inner, [])) :
    extract language (opening ++ (inner ++ closing)) = some
      { language := language
        kind := .file
        format := .jsdoc
        raw := opening ++ inner ++ closing
        content := strip inner
        startLine := 1
        endLine := 1 + newlines inner } := by
  have hfind : findOpen (opening ++ (inner ++ closing)) = some ([], inner ++ closing) := by
    rw [findOpen, findOpenFrom]
    split
    · rename_i h
      rw [cut_append_self] at h
      cases h
    · rename_i skipped tail h
      rw [cut_append_self] at h
      obtain ⟨rfl, rfl⟩ := Prod.mk.inj (Option.some.inj h)
      simp [hopen, lastLine, isBlankText]
  rw [extract, hfind]
  dsimp only
  rw [hcut]
  dsimp only
  rw [classify_alone]
  rfl

theorem extract_wrap {language : Language} {text : List Char} {d : Comment}
    (h : extract language text = some d) :
    extract language (d.format.wrap d.content) = some
      { d with
        kind := .file
        raw := d.format.wrap d.content
        startLine := 1
        endLine := 1 + newlines (d.format.wrap d.content) } := by
  obtain ⟨hlanguage, hformat, -, inner, hinner, hcontent⟩ := extract_eq_some h
  have hn : ∀ l ∈ (lines inner).map undecorate, '\n' ∉ l ∧ cut closing l = none := by
    intro l hl
    obtain ⟨x, hx, rfl⟩ := List.mem_map.1 hl
    have hi := undecorate_isInfix x
    refine ⟨fun hc => newline_notMem_of_mem_lines hx (hi.subset hc), ?_⟩
    rw [cut_eq_none_iff] at hinner ⊢
    exact fun hc => hinner (hc.trans (hi.trans (isInfix_of_mem_lines hx)))
  have hc : IsContent d.content := hcontent ▸ isContent_normalize fun l hl => (hn l hl).1
  -- A closing delimiter inside a content line would have closed the first comment there.
  have hcut : ∀ l ∈ lines d.content, cut closing l = none := by
    intro l hl
    rw [hcontent, strip, lines_normalize fun l hl => (hn l hl).1] at hl
    obtain ⟨m, hm, rfl⟩ := mem_normalLines hl
    have hm := (hn m hm).2
    rw [cut_eq_none_iff] at hm ⊢
    exact fun hi => hm (hi.trans (trimEnd_isPrefix m).isInfix)
  have hw : d.format.wrap d.content =
      opening ++ ('\n' :: (starred (lines d.content) ++ [' ']) ++ closing) := by
    rw [hformat, wrap_eq]
    simp [opening, closing]
  have hclose : cut closing ('\n' :: (starred (lines d.content) ++ [' ']) ++ closing) =
      some ('\n' :: (starred (lines d.content) ++ [' ']), []) := by
    have hnil : cut closing [] = none := rfl
    have hcons := cut_append_cons hnil (s := '\n') (by decide)
      (starred (lines d.content) ++ ' ' :: closing)
    rw [cut_closing_starred hcut] at hcons
    simpa using hcons
  rw [hw, extract_alone language rfl hclose, strip_starred hc, hlanguage, hformat]
  simp [newlines, opening, closing]

lemma findOpenFrom_of_none (before : List Char) {rest : List Char}
    (h : cut opening rest = none) : findOpenFrom before rest = none := by
  rw [findOpenFrom]
  split
  · rfl
  · rename_i hc
    rw [h] at hc
    cases hc

lemma findOpenFrom_of_some (before : List Char) {rest skipped tail : List Char}
    (h : cut opening rest = some (skipped, tail)) :
    findOpenFrom before rest =
      if !refusesOpening tail && isBlankText (lastLine (before ++ skipped)) then
        some (before ++ skipped, tail)
      else findOpenFrom (before ++ skipped ++ opening) tail := by
  rw [findOpenFrom]
  split
  · rename_i hc
    rw [h] at hc
    cases hc
  · rename_i hc
    rw [h] at hc
    obtain ⟨rfl, rfl⟩ := Prod.mk.inj (Option.some.inj hc)
    rfl

/-- Whole lines above the searched text do not count. -/
lemma findOpenFrom_append {w : List Char} (hw : Whole w) (before rest : List Char) :
    findOpenFrom (w ++ before) rest =
      (findOpenFrom before rest).map fun (lead, tail) => (w ++ lead, tail) := by
  induction hn : rest.length using Nat.strong_induction_on generalizing before rest with
  | _ n ih =>
    cases hc : cut opening rest with
    | none => rw [findOpenFrom_of_none _ hc, findOpenFrom_of_none _ hc, Option.map_none]
    | some r =>
      obtain ⟨skipped, tail⟩ := r
      have hlt : tail.length < n := hn ▸ cut_length_lt (by decide) hc
      rw [findOpenFrom_of_some _ hc, findOpenFrom_of_some _ hc, List.append_assoc w,
        lastLine_append hw]
      split
      · rfl
      · rw [List.append_assoc w, ih _ hlt _ _ rfl]

/-- No opening on the rest of the line is the first thing on it. -/
def OpensNone (before rest : List Char) : Prop :=
  ∀ x y, rest = x ++ opening ++ y → isBlankText (lastLine (before ++ x)) = false

lemma OpensNone.step {before rest skipped tail : List Char} (h : OpensNone before rest)
    (hc : cut opening rest = some (skipped, tail)) :
    isBlankText (lastLine (before ++ skipped)) = false ∧
      OpensNone (before ++ skipped ++ opening) tail := by
  have hrest := cut_eq_some hc
  refine ⟨h skipped tail hrest, ?_⟩
  rintro x y rfl
  have := h (skipped ++ opening ++ x) y (by rw [hrest]; simp)
  simpa using this

lemma findOpenFrom_last {before rest : List Char} (h : OpensNone before rest) :
    findOpenFrom before rest = none := by
  induction hn : rest.length using Nat.strong_induction_on generalizing before rest with
  | _ n ih =>
    cases hc : cut opening rest with
    | none => exact findOpenFrom_of_none before hc
    | some r =>
      obtain ⟨skipped, tail⟩ := r
      have hlt : tail.length < n := hn ▸ cut_length_lt (by decide) hc
      obtain ⟨hblank, hnext⟩ := h.step hc
      rw [findOpenFrom_of_some _ hc, hblank, Bool.and_false, if_neg (by simp)]
      exact ih _ hlt hnext rfl

lemma findOpenFrom_line {before l : List Char} (h : OpensNone before l) (rest : List Char) :
    findOpenFrom before (l ++ '\n' :: rest) = findOpenFrom (before ++ l ++ ['\n']) rest := by
  induction hn : l.length using Nat.strong_induction_on generalizing before l with
  | _ n ih =>
    cases hc : cut opening l with
    | none =>
      have hcut := cut_append_cons hc (s := '\n') (by decide) rest
      cases hr : cut opening rest with
      | none =>
        rw [hr, Option.map_none] at hcut
        rw [findOpenFrom_of_none _ hcut, findOpenFrom_of_none _ hr]
      | some r =>
        obtain ⟨skipped, tail⟩ := r
        rw [hr, Option.map_some] at hcut
        rw [findOpenFrom_of_some _ hcut, findOpenFrom_of_some _ hr]
        simp only [List.append_assoc, List.singleton_append]
    | some r =>
      obtain ⟨skipped, tail⟩ := r
      have hlt : tail.length < n := hn ▸ cut_length_lt (by decide) hc
      obtain ⟨hblank, hnext⟩ := h.step hc
      rw [findOpenFrom_of_some _ (cut_append_of_some hc _), hblank, Bool.and_false,
        if_neg (by simp), ih _ hlt hnext rfl]
      rw [cut_eq_some hc]
      simp only [List.append_assoc]

/-- Whether the line opens a comment. -/
def opensComment (l : List Char) : Bool :=
  opening.isPrefixOf (trimStart l)

lemma ignoresEnd_opensComment : IgnoresEnd opensComment :=
  (ignoresEnd_isPrefixOf (by decide)).trimStart

lemma opensNone_of_line {l : List Char} (hn : '\n' ∉ l) (h : opensComment l = false) :
    OpensNone [] l := by
  rintro x y rfl
  have hx : '\n' ∉ x := fun hc => hn (by simp [hc])
  rw [List.nil_append, lastLine_of_notMem hx, ← Bool.not_eq_true]
  intro hblank
  have hopen : opensComment (x ++ opening ++ y) = true := by
    rw [opensComment, List.append_assoc, trimStart_append_of_blank hblank]
    rfl
  rw [hopen] at h
  cases h

/-- The search passes over lines that open no comment. -/
theorem findOpen_append {a b : List Char} (hab : Divides a b)
    (ha : ∀ l ∈ lines a, opensComment l = false) :
    findOpen (a ++ b) = (findOpen b).map fun (lead, tail) => (a ++ lead, tail) := by
  induction a using lineInduction with
  | last l h =>
    rcases hab with hw | rfl
    · rw [eq_nil_of_whole hw h]
      simp
    · have hl : opensComment l = false := by
        by_cases hnil : l = []
        · subst hnil
          rfl
        · exact ha l (by simp [lines_of_notMem h, hnil])
      rw [List.append_nil, findOpen, findOpenFrom_last (opensNone_of_line h hl)]
      rw [findOpen, findOpenFrom_of_none [] rfl]
      rfl
  | line l rest h ih =>
    rw [lines_newline h] at ha
    have hl : opensComment l = false := by
      rw [← ignoresEnd_opensComment.trimEnd, ← trimEnd_ended, ignoresEnd_opensComment.trimEnd]
      exact ha _ List.mem_cons_self
    have hrest := ih (hab.imp_left (whole_newline_iff l rest).1)
      fun m hm => ha m (List.mem_cons_of_mem _ hm)
    have hw : Whole (l ++ ['\n']) := whole_concat_newline l
    have happ := findOpenFrom_append hw [] (rest ++ b)
    rw [List.append_nil] at happ
    rw [List.append_assoc, List.cons_append, findOpen,
      findOpenFrom_line (opensNone_of_line h hl), List.nil_append, happ, ← findOpen, hrest,
      Option.map_map]
    simp [Function.comp_def]

lemma dropComments_of_not_open {line : List Char} (h : "/*".toList.isPrefixOf line = false) :
    dropComments line = (line, false) := by
  rw [dropComments]
  rintro body rfl
  simp at h

/-- What is left of a text that begins inside a comment, and whether one is open at its end. -/
def closeComment (body : List Char) : List Char × Bool :=
  (cut closing body).elim ([], true) fun p => dropComments (trim p.2)

lemma dropComments_open (body : List Char) :
    dropComments ('/' :: '*' :: body) = closeComment body := by
  rw [dropComments, closeComment]
  split
  next hcut => rw [hcut, Option.elim_some]
  next hcut => rw [hcut, Option.elim_none]

lemma trimEnd_append_closing (x y : List Char) :
    trimEnd (x ++ closing ++ y) = x ++ closing ++ trimEnd y := by
  have hclosing : trimEnd (closing ++ y) = closing ++ trimEnd y := by
    rw [closing]
    exact (trimEnd_cons (by decide) ('/' :: y)).trans (congrArg _ (trimEnd_cons (by decide) y))
  rw [List.append_assoc, trimEnd, dropEndWhile_append_of_neg x ⟨'*', by simp [closing], by decide⟩,
    ← trimEnd, hclosing, List.append_assoc]

/-- Blank space at the ends of a text plays no part in closings. -/
lemma map_cut_closing_trim (l : List Char) :
    (cut closing (trim l)).map (fun p => trim p.2) = (cut closing l).map fun p => trim p.2 := by
  obtain ⟨blank, hblank, hstart⟩ := exists_eq_append_trimStart l
  obtain ⟨z, hz, hend⟩ := exists_eq_trimEnd_append (trimStart l)
  have hstar : '*' ∉ blank := fun h => absurd (List.all_eq_true.1 hblank _ h) (by decide)
  have hclosing : closing = '*' :: ['/'] := rfl
  have hcut := cut_append_of_head_notMem hstar ['/'] (trimStart l)
  rw [← hstart, ← hclosing] at hcut
  rw [hcut, Option.map_map]
  cases htrim : cut closing (trim l) with
  | some p =>
    rw [hend, ← trim, cut_append_of_some htrim]
    simp [trim_append_of_blank_right _ hz]
  | none =>
    have hnone : cut closing (trimStart l) = none := by
      rw [cut_eq_none_iff] at htrim ⊢
      rintro ⟨x, y, hxy⟩
      apply htrim
      rw [trim, ← hxy, trimEnd_append_closing]
      exact ⟨x, trimEnd y, rfl⟩
    rw [hnone]
    rfl

lemma closeComment_trim (l : List Char) : closeComment (trim l) = closeComment l := by
  have h := map_cut_closing_trim l
  have helim : ∀ body, closeComment body =
      ((cut closing body).map fun p => trim p.2).elim ([], true) dropComments := by
    intro body
    rw [closeComment]
    cases cut closing body <;> rfl
  rw [helim, helim, h]

lemma dropComments_trim_of_open {l body : List Char} (h : trimStart l = '/' :: '*' :: body) :
    dropComments (trim l) = closeComment body := by
  rw [trim, h, trimEnd_cons (by decide), trimEnd_cons (by decide), dropComments_open,
    ← closeComment_trim, trim_trimEnd, closeComment_trim]

lemma dropComments_trim_of_not_open {l : List Char}
    (h : "/*".toList.isPrefixOf (trimStart l) = false) :
    dropComments (trim l) = (trim l, false) := by
  apply dropComments_of_not_open
  rw [trim, (ignoresEnd_isPrefixOf (by decide)).trimEnd]
  exact h

/-- A line that may stand above a comment which documents its file, and opens none. -/
structure Passes (language : Language) (l : List Char) : Prop where
  opens : opensComment l = false
  closed : (residue false l).2 = false
  preamble : isPreambleResidue language (residue false l).1 = true

lemma isPreambleFrom_append {language : Language} {xs : List (List Char)}
    (h : ∀ l ∈ xs, Passes language l) (ls : List (List Char)) :
    isPreambleFrom language false (xs ++ ls) = isPreambleFrom language false ls := by
  induction xs with
  | nil => rfl
  | cons l xs ih =>
    obtain ⟨-, hopen, hpre⟩ := h l List.mem_cons_self
    rw [List.cons_append, isPreambleFrom]
    change (isPreambleResidue language (residue false l).1 &&
      isPreambleFrom language (residue false l).2 (xs ++ ls)) = _
    rw [hopen, hpre, Bool.true_and]
    exact ih fun m hm => h m (List.mem_cons_of_mem _ hm)

lemma classify_append {language : Language} {a : List Char} (hw : Whole a)
    (ha : ∀ l ∈ lines a, Passes language l) (before content after : List Char) :
    classify language (a ++ before) content after = classify language before content after := by
  have hpre : isPreamble language (wholeLines (a ++ before)) =
      isPreamble language (wholeLines before) := by
    rw [isPreamble, isPreamble, wholeLines_append hw, lines_append hw, isPreambleFrom_append ha]
  rw [classify, classify, hpre]

/-- Lines that may stand above a comment move it down and leave it as it is. -/
theorem extract_append {language : Language} {a b : List Char} (hab : Divides a b)
    (ha : ∀ l ∈ lines a, Passes language l) :
    extract language (a ++ b) = (extract language b).map (Comment.shift (lines a).length) := by
  have hfind := findOpen_append hab fun l hl => (ha l hl).opens
  rw [extract, extract, hfind]
  rcases hab with hw | rfl
  · have hlen : newlines a = (lines a).length := by
      rw [newlines_eq_length hw, lines, List.length_map]
    cases findOpen b with
    | none => rfl
    | some r =>
      obtain ⟨before, tail⟩ := r
      dsimp only [Option.map_some]
      cases cut closing tail with
      | none => rfl
      | some c =>
        have hnew : newlines (a ++ before) = (lines a).length + newlines before := by
          rw [← hlen, newlines, List.count_append, newlines, newlines]
        simp only [Option.map_some, Comment.shift, classify_append hw ha, hnew, Option.some.injEq,
          Comment.mk.injEq, true_and]
        omega
  · have hnil : findOpen [] = none := findOpenFrom_of_none [] rfl
    rw [hnil]
    rfl

end Block
end Doc
end Waymark
