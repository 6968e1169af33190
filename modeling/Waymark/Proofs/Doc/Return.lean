import Waymark.Doc.Extract
import Waymark.Preamble.Basic
import Waymark.Proofs.Doc.Block
import Waymark.Proofs.Doc.Hash
import Waymark.Proofs.Doc.Literal
import Waymark.Proofs.Text.Return

/-! Line endings do not matter: with a carriage return before every newline, a text has the same
preamble and the same doc comment, which only stands in the text with these endings. -/
namespace Waymark

namespace Language

open Text

/-- Blank space ends the word that decides. -/
lemma ignoresEnd_isOwnerLine {l : Language} (hl : l ≠ .ruby) : IgnoresEnd l.isOwnerLine := by
  have hword : ∀ line, l.ownerWord line =
      (trimStart line).takeWhile fun c => !endsOwnerWord c :=
    fun line => if_neg fun h => hl h.1
  have hopens : IgnoresEnd fun t =>
      l.ownerKeywords.contains (String.ofList (t.takeWhile fun c => !endsOwnerWord c)) := by
    intro x c hc
    have hend : (!endsOwnerWord c) = false := by simp [endsOwnerWord, hc]
    dsimp only
    rw [takeWhile_append_cons_of_neg (fun c => !endsOwnerWord c) hend]
  intro x c hc
  rw [isOwnerLine, isOwnerLine, hword, hword]
  exact hopens.trimStart x c hc

end Language

namespace Doc

open Text

/-- The same comment in a text with carriage returns. -/
def Comment.withReturns (d : Comment) : Comment :=
  { d with raw := Text.withReturns d.raw }

namespace Block

lemma refusesOpening_withReturns (tail : List Char) :
    refusesOpening (withReturns tail) = refusesOpening tail := by
  cases tail with
  | nil => rfl
  | cons c cs =>
    by_cases hc : c = '\n'
    · subst hc
      rfl
    · rw [withReturns_cons_of_ne hc]
      unfold refusesOpening
      split <;> simp_all

lemma findOpenFrom_withReturns (before rest : List Char) :
    findOpenFrom (withReturns before) (withReturns rest) =
      (findOpenFrom before rest).map fun (lead, tail) => (withReturns lead, withReturns tail) := by
  induction hn : rest.length using Nat.strong_induction_on generalizing before rest with
  | _ n ih =>
    have hcut : cut opening (withReturns rest) =
        (cut opening rest).map fun (lead, tail) => (withReturns lead, withReturns tail) :=
      cut_withReturns (by decide) (by decide) rest
    cases hc : cut opening rest with
    | none =>
      rw [hc, Option.map_none] at hcut
      rw [findOpenFrom_of_none _ hc, findOpenFrom_of_none _ hcut, Option.map_none]
    | some r =>
      obtain ⟨skipped, tail⟩ := r
      have hlt : tail.length < n := hn ▸ cut_length_lt (by decide) hc
      have hopening : withReturns opening = opening := withReturns_of_notMem (by decide)
      have hnext := ih _ hlt (before ++ skipped ++ opening) tail rfl
      rw [hc, Option.map_some] at hcut
      rw [withReturns_append, withReturns_append, hopening] at hnext
      rw [findOpenFrom_of_some _ hc, findOpenFrom_of_some _ hcut, refusesOpening_withReturns,
        ← withReturns_append, lastLine_withReturns, withReturns_append, hnext]
      split
      · simp
      · rfl

lemma following_newline {l : List Char} (h : '\n' ∉ l) (rest : List Char) :
    following (l ++ '\n' :: rest) =
      if isBlankText l then (lines rest).find? fun l => (trimStart l).head? ≠ some '@'
      else some l := by
  have htake : (l ++ '\n' :: rest).takeWhile (· ≠ '\n') = l := by
    have hl : ∀ c ∈ l, decide (c ≠ '\n') = true := by
      intro c hc
      simpa using fun he : c = '\n' => h (he ▸ hc)
    rw [List.takeWhile_append_of_pos hl]
    simp
  have hdrop : (l ++ '\n' :: rest).drop (l.length + 1) = rest := by
    rw [List.append_cons]
    exact List.drop_left' (by simp)
  simp only [following, htake, hdrop]

/-- The carriage return after the rest of the closing line does not count. -/
lemma any_following_withReturns {p : List Char → Bool} (hp : IgnoresEnd p) {after : List Char}
    (h : '\r' ∉ after) : (following (withReturns after)).any p = (following after).any p := by
  by_cases hn : '\n' ∈ after
  · obtain ⟨l, rest, rfl, hl⟩ := List.eq_append_cons_of_mem hn
    have hrest : '\r' ∉ rest := fun hc => h (by simp [hc])
    have hreturn : isBlank '\r' = true := by decide
    rw [withReturns_append, withReturns_newline_cons, withReturns_of_notMem hl,
      List.append_cons l '\r', following_newline (by simpa using hl), following_newline hl,
      ignoresEnd_isBlankText l '\r' hreturn, lines_withReturns hrest]
    split
    · rfl
    · exact hp l '\r' hreturn
  · rw [withReturns_of_notMem hn]

lemma classify_withReturns {language : Language} (hl : language ≠ .ruby) {before after : List Char}
    (hb : '\r' ∉ before) (content : List Char) (ha : '\r' ∉ after) :
    classify language (withReturns before) content (withReturns after) =
      classify language before content after := by
  have hwhole : '\r' ∉ wholeLines before := fun hc => hb (mem_of_mem_dropEndWhile hc)
  have howner := any_following_withReturns (Language.ignoresEnd_isOwnerLine hl) ha
  unfold classify
  rw [howner, wholeLines_withReturns, isPreamble, isPreamble, lines_withReturns hwhole]

/-- What is found is a part of the text searched. -/
lemma findOpenFrom_eq {before rest lead tail : List Char}
    (h : findOpenFrom before rest = some (lead, tail)) :
    before ++ rest = lead ++ opening ++ tail := by
  induction hn : rest.length using Nat.strong_induction_on generalizing before rest with
  | _ n ih =>
    cases hc : cut opening rest with
    | none => simp [findOpenFrom_of_none _ hc] at h
    | some r =>
      obtain ⟨skipped, tail'⟩ := r
      have hlt : tail'.length < n := hn ▸ cut_length_lt (by decide) hc
      have hrest := cut_eq_some hc
      rw [findOpenFrom_of_some _ hc] at h
      split at h
      · obtain ⟨rfl, rfl⟩ := Prod.mk.inj (Option.some.inj h)
        rw [hrest]
        simp
      · rw [← ih _ hlt h rfl, hrest]
        simp

theorem extract_withReturns {language : Language} (hl : language ≠ .ruby) {text : List Char}
    (h : '\r' ∉ text) :
    extract language (withReturns text) = (extract language text).map Comment.withReturns := by
  have hfind : findOpen (withReturns text) = (findOpen text).map _ :=
    findOpenFrom_withReturns [] text
  unfold extract
  rw [hfind]
  cases ho : findOpen text with
  | none => rfl
  | some r =>
    obtain ⟨before, tail⟩ := r
    have htext : text = before ++ opening ++ tail := findOpenFrom_eq ho
    dsimp only [Option.map_some]
    rw [cut_withReturns (by decide) (by decide)]
    cases hc : cut closing tail with
    | none => rfl
    | some c =>
      obtain ⟨inner, after⟩ := c
      rw [cut_eq_some hc] at htext
      have hparts : '\r' ∉ before ∧ '\r' ∉ inner ∧ '\r' ∉ after := by
        refine ⟨?_, ?_, ?_⟩ <;> exact fun hm => h (by simp [htext, hm])
      have hstrip : strip (withReturns inner) = strip inner := by
        rw [strip, strip, lines_withReturns hparts.2.1]
      have hraw : withReturns (opening ++ inner ++ closing) =
          opening ++ withReturns inner ++ closing := by
        rw [withReturns_append, withReturns_append,
          withReturns_of_notMem (l := opening) (by decide),
          withReturns_of_notMem (l := closing) (by decide)]
      simp only [Option.map_some, hstrip, classify_withReturns hl hparts.1 _ hparts.2.2,
        newlines_withReturns, Comment.withReturns, hraw]

end Block

namespace Literal

/-- What an opening is made of. -/
lemma opening?_eq_some {cs : List Char} {o : Opening} (h : opening? cs = some o) :
    cs = o.letter ++ (o.quotes ++ o.tail) ∧ (∀ c ∈ o.letter, c ∈ letters) ∧
      o.quotes ∈ quoteStyles := by
  obtain ⟨q, hq, rfl⟩ := Option.map_eq_some_iff.1 h
  have hletter : cs = (cs.take 1).filter letters.contains ++
      cs.drop ((cs.take 1).filter letters.contains).length := by
    cases cs with
    | nil => rfl
    | cons c cs => by_cases hc : c ∈ letters <;> simp [hc]
  refine ⟨?_, ?_, List.mem_of_find?_eq_some hq⟩
  · have hprefix := List.find?_some hq
    obtain ⟨t, ht⟩ := List.isPrefixOf_iff_prefix.1 hprefix
    conv_lhs => rw [hletter]
    dsimp only
    rw [← ht, List.drop_left]
  · intro c hc
    simpa using (List.mem_filter.1 hc).2

/-- The line on which a docstring is found, what it opens there, and the lines around it. -/
lemma exists_of_findFrom {before : List (List Char)} {ls : List Line} {site : Site} {kind : Kind}
    (h : findFrom before ls = some (site, kind)) :
    ∃ xs l ys, ls = xs ++ l :: ys ∧ opening? (trimStart l.body) = some site.opening ∧
      site.before = before ++ xs.map Line.body ∧
      site.rest = site.opening.tail ++ l.ending ++ concat ys := by
  induction ls generalizing before with
  | nil => cases h
  | cons l ls ih =>
    have hlater : findFrom (before ++ [l.body]) ls = some (site, kind) →
        ∃ xs m ys, l :: ls = xs ++ m :: ys ∧ opening? (trimStart m.body) = some site.opening ∧
          site.before = before ++ xs.map Line.body ∧
          site.rest = site.opening.tail ++ m.ending ++ concat ys := by
      intro hfind
      obtain ⟨xs, m, ys, rfl, hopening, hbefore, hrest⟩ := ih hfind
      exact ⟨l :: xs, m, ys, rfl, hopening, by simp [hbefore], hrest⟩
    rw [findFrom] at h
    split at h
    · rename_i o ho
      split at h
      · obtain ⟨rfl, -⟩ := Prod.mk.inj (Option.some.inj h)
        exact ⟨[], l, ls, rfl, ho, by simp, rfl⟩
      · exact hlater h
    · exact hlater h

/-- The place of a docstring lies in the text searched. -/
lemma findFrom_eq_some {before : List (List Char)} {ls : List Line} {site : Site} {kind : Kind}
    (h : findFrom before ls = some (site, kind)) :
    site.rest <:+ concat ls ∧ (∀ c ∈ site.opening.letter, c ∈ letters) ∧
      site.opening.quotes ∈ quoteStyles := by
  obtain ⟨xs, l, ys, rfl, hopening, -, hrest⟩ := exists_of_findFrom h
  obtain ⟨hbody, hletter, hquotes⟩ := opening?_eq_some hopening
  refine ⟨?_, hletter, hquotes⟩
  obtain ⟨x, hx⟩ := trimStart_isSuffix l.body
  refine ⟨concat xs ++ x ++ site.opening.letter ++ site.opening.quotes, ?_⟩
  have hline : l.body =
      x ++ (site.opening.letter ++ (site.opening.quotes ++ site.opening.tail)) := by
    rw [← hbody, hx]
  simp [concat, Line.full, hline, hrest]

lemma findFrom_map_withReturn (before : List (List Char)) {ls : List Line}
    (h : ∀ l ∈ ls, '\n' ∉ l.body) :
    findFrom before (ls.map Line.withReturn) =
      (findFrom before ls).map fun (site, kind) =>
        ({ site with rest := withReturns site.rest }, kind) := by
  induction ls generalizing before with
  | nil => rfl
  | cons l ls ih =>
    have hls : ∀ m ∈ ls, '\n' ∉ m.body := fun m hm => h m (List.mem_cons_of_mem _ hm)
    rw [List.map_cons, findFrom, findFrom, Line.withReturn_body, ih _ hls]
    split
    · rename_i o ho
      split
      · have htail : '\n' ∉ o.tail := by
          intro hc
          have hmem : '\n' ∈ trimStart l.body := by simp [(opening?_eq_some ho).1, hc]
          exact h l List.mem_cons_self ((trimStart_isSuffix l.body).subset hmem)
        simp [concat_map_withReturn hls, withReturns_of_notMem htail]
      · rfl
    · rfl

theorem extract_withReturns {text : List Char} (h : '\r' ∉ text) :
    extract (withReturns text) = (extract text).map Comment.withReturns := by
  have hfind := findFrom_map_withReturn [] fun l (hl : l ∈ rawLines text) => newline_notMem_body hl
  rw [← rawLines_withReturns h] at hfind
  unfold extract
  rw [hfind]
  cases hs : findFrom [] (rawLines text) with
  | none => rfl
  | some r =>
    obtain ⟨site, kind⟩ := r
    obtain ⟨hrest, hletter, hquotes⟩ := findFrom_eq_some hs
    have hstyles : ∀ q ∈ quoteStyles, '\r' ∉ q ∧ '\n' ∉ q := by decide
    obtain ⟨hqr, hqn⟩ := hstyles _ hquotes
    have hln : '\n' ∉ site.opening.letter := fun hc => absurd (hletter _ hc) (by decide)
    dsimp only [Option.map_some]
    rw [cut_withReturns hqr hqn]
    cases hc : cut site.opening.quotes site.rest with
    | none => rfl
    | some c =>
      obtain ⟨body, after⟩ := c
      have hbody : '\r' ∉ body := by
        intro hm
        rw [concat_rawLines, cut_eq_some hc] at hrest
        exact h (hrest.subset (by simp [hm]))
      have hstrip : strip (withReturns body) = strip body := by
        rw [strip, strip, lines_withReturns hbody]
      simp [hstrip, Comment.withReturns, withReturns_of_notMem hqn, withReturns_of_notMem hln]

end Literal

namespace Hash

def Role.withReturn (r : Role) : Role :=
  { r with line := r.line.withReturn }

lemma ofRoles_map_withReturn {rs : List Role} (h : ∀ r ∈ rs, '\n' ∉ r.line.body) :
    ofRoles (rs.map Role.withReturn) = (ofRoles rs).map Comment.withReturns := by
  have hbefore : (fun l : Role => !l.doc) ∘ Role.withReturn = fun l => !l.doc := rfl
  have hdoc : Role.doc ∘ Role.withReturn = Role.doc := rfl
  simp only [ofRoles, List.span_eq_takeWhile_dropWhile, List.takeWhile_map, List.dropWhile_map,
    hbefore, hdoc, List.isEmpty_map]
  split
  · rfl
  · have hblock : ∀ l ∈ ((rs.dropWhile fun l => !l.doc).takeWhile Role.doc).map Role.line,
        '\n' ∉ l.body := by
      intro l hl
      obtain ⟨r, hr, rfl⟩ := List.mem_map.1 hl
      exact h r ((List.dropWhile_sublist _).subset ((List.takeWhile_sublist _).subset hr))
    have hline : Role.line ∘ Role.withReturn = Line.withReturn ∘ Role.line := rfl
    simp only [Option.map_some, Comment.withReturns, List.map_map, hline]
    rw [← List.map_map, joinRaw_map_withReturn hblock]
    simp only [List.all_map, List.head?_map, Option.any_map, List.length_map]
    rfl

theorem extract_withReturns {text : List Char} (h : '\r' ∉ text) :
    extract (withReturns text) = (extract text).map Comment.withReturns := by
  have hroles : ((rawLines (withReturns text)).zipIdx.map role) =
      ((rawLines text).zipIdx.map role).map Role.withReturn := by
    rw [rawLines_withReturns h, List.zipIdx_map, List.map_map, List.map_map]
    rfl
  rw [extract_eq_ofRoles, extract_eq_ofRoles, hroles, ofRoles_map_withReturn]
  intro r hr
  obtain ⟨l, hl, rfl⟩ := List.mem_map.1 hr
  exact newline_notMem_body (List.fst_mem_of_mem_zipIdx hl)

end Hash

namespace Slash

theorem extract_withReturns {text : List Char} (h : '\r' ∉ text) :
    extract (withReturns text) = (extract text).map Comment.withReturns := by
  have hnone : (fun l : Line => (marker? l.body).isNone) ∘ Line.withReturn =
      fun l => (marker? l.body).isNone := rfl
  have hhead : ∀ ls : List Line, ((ls.map Line.withReturn).head?.bind fun l => marker? l.body) =
      ls.head?.bind fun l => marker? l.body := by
    intro ls
    cases ls <;> rfl
  simp only [extract, rawLines_withReturns h, List.span_eq_takeWhile_dropWhile, List.takeWhile_map,
    List.dropWhile_map, hnone, hhead]
  split
  · rfl
  · rename_i m _
    have hmark : (fun l : Line => marker? l.body == some m) ∘ Line.withReturn =
        fun l => marker? l.body == some m := rfl
    have hbody : Line.body ∘ Line.withReturn = Line.body := rfl
    have hblock : ∀ l ∈ ((rawLines text).dropWhile fun l => (marker? l.body).isNone).takeWhile
        fun l => marker? l.body == some m, '\n' ∉ l.body := fun l hl =>
      newline_notMem_body ((List.dropWhile_sublist _).subset ((List.takeWhile_sublist _).subset hl))
    simp only [hmark, List.map_map, hbody, joinRaw_map_withReturn hblock, List.length_map,
      Option.map_some, Comment.withReturns]
    rfl

end Slash

/-- With a carriage return before every newline, the preamble ends at the same line, and the doc
comment is the same but for these characters in its raw text. -/
theorem endOfText_extract_withReturns {text : List Char} (h : '\r' ∉ text) (language : Language) :
    Preamble.endOfText (withReturns text) language = Preamble.endOfText text language ∧
      extract language (withReturns text) =
        (extract language text).map fun d => { d with raw := withReturns d.raw } := by
  refine ⟨?_, ?_⟩
  · rw [Preamble.endOfText, lines_withReturns h, Preamble.endOfText]
  · cases language with
    | javascript => exact Block.extract_withReturns (by decide) h
    | typescript => exact Block.extract_withReturns (by decide) h
    | python => exact Literal.extract_withReturns h
    | ruby => exact Hash.extract_withReturns h
    | rust => exact Slash.extract_withReturns h
    | go | markdown | shell => rfl

/-- The declaration that owns the comment begins on its closing line. -/
theorem extract_withReturns_owned :
    let text := "#!x\n/** Title\n * body\n */ class A\n".toList
    let text' := "#!x\r\n/** Title\r\n * body\r\n */ class A\r\n".toList
    let d : Comment := ⟨.typescript, .function, .jsdoc, "/** Title\n * body\n */".toList,
      "Title\nbody".toList, 2, 4⟩
    Preamble.endOfText text' .typescript = some 1 ∧ extract .typescript text = some d ∧
      extract .typescript text' =
        some { d with raw := "/** Title\r\n * body\r\n */".toList } := by
  intro text text' d
  have h : '\r' ∉ text := by decide +kernel
  have htext : withReturns text = text' := by decide +kernel
  have hend : Preamble.endOfText text .typescript = some 1 := by decide +kernel
  have hd : extract .typescript text = some d := by decide +kernel
  obtain ⟨hpreamble, hextract⟩ := endOfText_extract_withReturns h .typescript
  rw [htext] at hpreamble hextract
  refine ⟨hpreamble.trans hend, hd, ?_⟩
  rw [hextract, hd, Option.map_some]
  decide +kernel

end Doc
end Waymark
