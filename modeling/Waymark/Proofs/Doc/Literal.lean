import Waymark.Doc.Literal
import Waymark.Proofs.Doc.Basic
import Waymark.Proofs.Text.Insert
import Waymark.Proofs.Text.Search

/-! Docstrings: wrapped content always opens a docstring, which has the same content exactly when
the quotes and the indentation of that content survive. Lines without code above a docstring do not
change it. -/
namespace Waymark
namespace Doc
namespace Literal

open Text

lemma splitAt_append {cs x y : List Char} {n : Nat} (h : splitAt cs n = some (x, y)) :
    cs = x ++ y := by
  induction cs generalizing n x with
  | nil => cases n <;> simp_all [splitAt]
  | cons c cs ih =>
    cases n with
    | zero => simp_all [splitAt]
    | succ n =>
      rw [splitAt] at h
      split at h
      · cases h
      · obtain ⟨⟨a, b⟩, hab, he⟩ := Option.map_eq_some_iff.1 h
        obtain ⟨rfl, rfl⟩ := Prod.mk.inj he
        rw [List.cons_append, ← ih hab]

lemma dropBytes_isSuffix (n : Nat) (l : List Char) : dropBytes n l <:+ l := by
  unfold dropBytes
  cases h : splitAt l n with
  | none => exact List.nil_suffix
  | some r => exact ⟨r.1, (splitAt_append (y := r.2) h).symm⟩

@[simp] lemma dropBytes_zero (l : List Char) : dropBytes 0 l = l := by
  simp [dropBytes, splitAt]

/-- At least one character is lost with the first byte. -/
lemma dropBytes_length_lt {n : Nat} (hn : 0 < n) {l : List Char} (hl : l ≠ []) :
    (dropBytes n l).length < l.length := by
  match l, n with
  | [], _ => exact absurd rfl hl
  | c :: cs, n + 1 =>
    unfold dropBytes
    rw [splitAt]
    split
    · simp
    · cases h : splitAt cs (n + 1 - c.utf8Size) with
      | none => simp
      | some r =>
        have hlen := congrArg List.length (splitAt_append (y := r.2) h)
        rw [List.length_append] at hlen
        simp only [Option.map_some, Option.getD_some, List.length_cons]
        omega

lemma indentation_eq_zero {l : List Char} (h : trimStart l = l) : indentation l = 0 := by
  cases l with
  | nil => rfl
  | cons c cs =>
    have hc : isBlank c = false := trimStart_eq_self_iff.1 h c rfl
    simp [indentation, hc, size]

lemma indentation_pos {l : List Char} (h : trimStart l ≠ l) : 0 < indentation l := by
  cases l with
  | nil => exact absurd rfl h
  | cons c cs =>
    have hc : isBlank c = true := by
      rw [← Bool.not_eq_false]
      exact fun hc => h (trimStart_cons hc cs)
    have := Char.utf8Size_pos c
    simp only [indentation, List.takeWhile_cons_of_pos hc, size]
    omega

lemma commonIndentation_eq_zero {ls : List (List Char)} {l : List Char} (hl : l ∈ ls)
    (hne : l ≠ []) (ht : trimStart l = l) : commonIndentation ls = 0 := by
  have hb : isBlankText l = false := by
    rw [← Bool.not_eq_true, ← trimStart_eq_nil_iff, ht]
    exact hne
  have hm : 0 ∈ (ls.filter fun l => !isBlankText l).map indentation :=
    List.mem_map.2 ⟨l, List.mem_filter.2 ⟨hl, by simp [hb]⟩, indentation_eq_zero ht⟩
  have hmin : ((ls.filter fun l => !isBlankText l).map indentation).min? = some 0 :=
    List.min?_eq_some_iff.2 ⟨hm, fun _ _ => Nat.zero_le _⟩
  rw [commonIndentation, hmin]
  rfl

lemma commonIndentation_pos {ls : List (List Char)} (hex : ∃ l ∈ ls, isBlankText l = false)
    (h : ∀ l ∈ ls, l ≠ [] → trimStart l ≠ l) : 0 < commonIndentation ls := by
  obtain ⟨l, hl, hb⟩ := hex
  have hne : (ls.filter fun l => !isBlankText l).map indentation ≠ [] :=
    List.ne_nil_of_mem (List.mem_map_of_mem (List.mem_filter.2 ⟨hl, by simp [hb]⟩))
  obtain ⟨m, hm⟩ := Option.isSome_iff_exists.1 (List.isSome_min?_of_ne_nil hne)
  rw [commonIndentation, hm]
  obtain ⟨x, hx, rfl⟩ := List.mem_map.1 (List.min?_mem hm)
  obtain ⟨hxl, hxb⟩ := List.mem_filter.1 hx
  refine indentation_pos (h x hxl ?_)
  rintro rfl
  simp [isBlankText] at hxb

lemma strip_eq {body first : List Char} {rest : List (List Char)} (h : lines body = first :: rest) :
    strip body = normalize (trim first :: rest.map (dropBytes (commonIndentation rest))) := by
  rw [strip, h]

lemma strip_of_lines_eq_nil {body : List Char} (h : lines body = []) : strip body = [] := by
  rw [strip, h]

lemma length_dropBytes_le (n : Nat) (l : List Char) : (dropBytes n l).length ≤ l.length :=
  (dropBytes_isSuffix n l).length_le

lemma length_strip_le (body : List Char) : (strip body).length ≤ body.length := by
  cases h : lines body with
  | nil => simp [strip_of_lines_eq_nil h]
  | cons first rest =>
    have hn := length_normalize_le (trim first :: rest.map (dropBytes (commonIndentation rest)))
    have hrest := volume_map_le (length_dropBytes_le (commonIndentation rest)) rest
    have hfirst := trim_length_le first
    have hbody := volume_lines_le body
    rw [h] at hbody
    rw [strip_eq h]
    simp only [volume_cons] at hn hbody
    omega

/-- Trimming and cutting bring no newline into the lines of a body. -/
lemma newline_notMem_stripped {body first : List Char} {rest : List (List Char)}
    (h : lines body = first :: rest) :
    ∀ l ∈ trim first :: rest.map (dropBytes (commonIndentation rest)), '\n' ∉ l := by
  intro l hl hn
  rcases List.mem_cons.1 hl with rfl | hl
  · exact newline_notMem_of_mem_lines (h ▸ List.mem_cons_self) ((trim_isInfix first).subset hn)
  · obtain ⟨x, hx, rfl⟩ := List.mem_map.1 hl
    exact newline_notMem_of_mem_lines (h ▸ List.mem_cons_of_mem _ hx)
      ((dropBytes_isSuffix _ x).subset hn)

lemma isContent_strip (body : List Char) : IsContent (strip body) := by
  cases h : lines body with
  | nil =>
    have hnil : ∀ l ∈ ([] : List (List Char)), '\n' ∉ l := by simp
    rw [strip_of_lines_eq_nil h]
    exact isContent_normalize hnil
  | cons first rest =>
    rw [strip_eq h]
    exact isContent_normalize (newline_notMem_stripped h)

/-- Content whose indentation survives: it does not begin with blank space, and of its further
lines, if there are any, one begins without. -/
structure Flush (c : List Char) : Prop where
  first : trimStart c = c
  rest : (lines c).length ≤ 1 ∨ ∃ l ∈ (lines c).tail, l ≠ [] ∧ trimStart l = l

lemma Flush.commonIndentation {c first : List Char} {rest : List (List Char)} (h : Flush c)
    (hl : lines c = first :: rest) : commonIndentation rest = 0 := by
  rcases h.rest with hr | ⟨l, hm, hne, ht⟩
  · rw [hl, List.length_cons] at hr
    have : rest = [] := List.eq_nil_of_length_eq_zero (by omega)
    subst this
    rfl
  · rw [hl] at hm
    exact commonIndentation_eq_zero hm hne ht

/-- The last line of a content is not blank, so it counts for the indentation. -/
lemma exists_not_blank {c first : List Char} {rest : List (List Char)} (hc : IsContent c)
    (hl : lines c = first :: rest) (hne : rest ≠ []) : ∃ l ∈ rest, isBlankText l = false := by
  have hmem := List.getLast_mem hne
  have ht := (hc.normal.line _ (hl ▸ List.mem_cons_of_mem _ hmem)).2
  refine ⟨rest.getLast hne, hmem, ?_⟩
  rw [← Bool.not_eq_true, ← trimEnd_eq_nil_iff, ht]
  intro hnil
  apply hc.normal.last
  rw [hl, List.getLast?_cons_of_ne_nil hne, List.getLast?_eq_some_getLast hne, hnil]

/-- Stripping a content keeps it exactly when it is flush: otherwise characters get lost. -/
theorem strip_eq_iff_flush {c body : List Char} (hc : IsContent c) (hb : lines body = lines c) :
    strip body = c ↔ Flush c := by
  cases hl : lines c with
  | nil =>
    have hnil : c = [] := by
      rw [← hc.join, hl]
      rfl
    subst hnil
    rw [strip_of_lines_eq_nil (hb.trans hl)]
    exact ⟨fun _ => ⟨rfl, .inl (by simp)⟩, fun _ => rfl⟩
  | cons first rest =>
    have htrim : trimStart c = c ↔ trimStart first = first := by
      rw [trimStart_eq_self_iff, trimStart_eq_self_iff, hc.head?_eq hl]
    rw [strip_eq (hb.trans hl)]
    constructor
    · intro h
      have hlen : c.length = volume (first :: rest) - 1 := by
        rw [← length_joinWith, ← hl, hc.join]
      have hle := length_normalize_le (trim first :: rest.map (dropBytes (commonIndentation rest)))
      have hrest := volume_map_le (length_dropBytes_le (commonIndentation rest)) rest
      have hfirst := trim_length_le first
      rw [h, hlen, volume_cons, volume_cons] at hle
      constructor
      · rw [htrim]
        by_contra hne
        have hlt := length_trimStart_lt hne
        have hend : (trim first).length ≤ (trimStart first).length :=
          (trimEnd_isPrefix _).length_le
        omega
      · by_contra hno
        rw [not_or, hl, List.length_cons, List.tail_cons] at hno
        obtain ⟨hmany, hno⟩ := hno
        have hne : rest ≠ [] := fun hr => hmany (by simp [hr])
        obtain ⟨l, hm, hblank⟩ := exists_not_blank hc hl hne
        have hpos := commonIndentation_pos ⟨l, hm, hblank⟩
          fun x hx hxne hxt => hno ⟨x, hx, hxne, hxt⟩
        have hlne : l ≠ [] := by
          rintro rfl
          simp [isBlankText] at hblank
        have hlt := volume_map_lt (length_dropBytes_le _) hm (dropBytes_length_lt hpos hlne)
        omega
    · intro h
      have hline := hc.normal.line first (by simp [hl])
      have ht : trim first = first := by rw [trim, htrim.1 h.first, hline.2]
      have hmap : rest.map (dropBytes 0) = rest := by
        rw [List.map_congr_left fun l _ => dropBytes_zero l, List.map_id']
      rw [h.commonIndentation hl, ht, hmap, ← hl, hc.normalize_lines]

lemma extract_eq_some {text : List Char} {d : Comment} (h : extract text = some d) :
    d.format = .python ∧ 1 ≤ d.startLine ∧ ∃ body, d.content = strip body := by
  unfold extract at h
  split at h
  · cases h
  · split at h
    · cases h
    · obtain rfl := Option.some.inj h
      exact ⟨rfl, Nat.le_add_left _ _, _, rfl⟩

/-- The quotes that wrapping uses. -/
def quotes : List Char :=
  "\"\"\"".toList

/-- A text that begins with the quotes is a docstring of its module. -/
lemma extract_quoted {text body after : List Char} (h : cut quotes text = some (body, after)) :
    extract (quotes ++ text) = some
      { language := .python
        kind := .file
        format := .python
        raw := quotes ++ body ++ quotes
        content := strip body
        startLine := 1
        endLine := 1 + newlines body } := by
  have hplain : ∀ c ∈ quotes, c ≠ '\n' ∧ c ≠ '\r' := by simp [quotes]
  obtain ⟨tail, ending, ls, hraw, htext⟩ := rawLines_append_plain hplain (by decide) text
  have hopen : opening? (trimStart (quotes ++ tail)) = some ⟨[], quotes, tail⟩ := rfl
  have hfind : findFrom [] (rawLines (quotes ++ text)) =
      some (⟨[], ⟨[], quotes, tail⟩, text⟩, .file) := by
    rw [hraw, findFrom, hopen]
    dsimp only
    rw [htext]
    rfl
  rw [extract, hfind]
  dsimp only
  rw [h]
  rfl

/-- What wrapping puts between the quotes. -/
def enclosed (c : List Char) : List Char :=
  c ++ if (lines c).length ≤ 1 then [] else ['\n']

lemma wrap_eq (c : List Char) : Format.python.wrap c = quotes ++ (enclosed c ++ quotes) := by
  have h : Format.python.wrap c =
      quotes ++ c ++ (if (lines c).length ≤ 1 then [] else ['\n']) ++ quotes := rfl
  rw [h, enclosed, List.append_assoc, List.append_assoc, List.append_assoc]

lemma lines_enclosed {c : List Char} (hc : IsContent c) : lines (enclosed c) = lines c := by
  unfold enclosed
  split
  · rw [List.append_nil]
  · rename_i h
    apply hc.lines_newline
    rintro rfl
    simp at h

/-- Content that can be wrapped without loss: no quotes close the literal early, and the
indentation survives. -/
structure Rewrappable (c : List Char) : Prop where
  quotes : contains quotes c = false
  last : (lines c).length ≤ 1 → c.getLast? ≠ some '"'
  flush : Flush c

/-- An early close leaves less than the content. -/
lemma strip_ne_of_cut {c text body after : List Char} (h : cut quotes text = some (body, after))
    {x : List Char} (hx : ∃ y, text = x ++ quotes ++ y) (hlt : x.length < c.length) :
    strip body ≠ c := by
  obtain ⟨y, rfl⟩ := hx
  obtain ⟨before, rest, hcut, hle⟩ := cut_first quotes x y
  rw [hcut] at h
  obtain ⟨rfl, -⟩ := Prod.mk.inj (Option.some.inj h)
  rintro rfl
  have := length_strip_le before
  omega

lemma cut_enclosed {c : List Char} (hq : contains quotes c = false)
    (hlast : (lines c).length ≤ 1 → c.getLast? ≠ some '"') :
    cut quotes (enclosed c ++ quotes) = some (enclosed c, []) := by
  have hself : cut quotes quotes = some ([], []) := rfl
  rw [contains_eq_false_iff] at hq
  unfold enclosed
  split
  · rename_i h
    rcases List.eq_nil_or_concat c with rfl | ⟨x, s, rfl⟩
    · rfl
    · have hs : s ∉ quotes := by
        have hne : s ≠ '"' := by simpa using hlast h
        simp [quotes, hne]
      have hx : cut quotes x = none := by
        rw [cut_eq_none_iff, List.concat_eq_append] at hq
        rw [cut_eq_none_iff]
        exact fun hc => hq (hc.trans (List.prefix_append x [s]).isInfix)
      rw [List.append_nil, List.concat_eq_append, List.append_assoc, List.singleton_append,
        cut_append_cons hx hs, hself]
      rfl
  · rw [List.append_assoc, List.singleton_append, cut_append_cons hq (by decide), hself]
    rfl

/-- What is wrapped is read back exactly when nothing closes early and nothing is out-dented. -/
theorem strip_eq_iff_rewrappable {c body after : List Char} (hc : IsContent c)
    (h : cut quotes (enclosed c ++ quotes) = some (body, after)) :
    strip body = c ↔ Rewrappable c := by
  by_cases hq : contains quotes c = false
  · by_cases hlast : (lines c).length ≤ 1 → c.getLast? ≠ some '"'
    · rw [cut_enclosed hq hlast] at h
      obtain ⟨rfl, -⟩ := Prod.mk.inj (Option.some.inj h)
      rw [strip_eq_iff_flush hc (lines_enclosed hc)]
      exact ⟨fun hf => ⟨hq, hlast, hf⟩, fun hr => hr.flush⟩
    · -- The last character and two of the quotes close the literal.
      refine ⟨fun hs => absurd hs ?_, fun hr => absurd hr.last hlast⟩
      rw [Classical.not_imp, not_not] at hlast
      obtain ⟨hone, hlast⟩ := hlast
      obtain ⟨x, rfl⟩ := List.getLast?_eq_some_iff.1 hlast
      refine strip_ne_of_cut h (x := x) ⟨['"'], ?_⟩ (by simp)
      simp [enclosed, hone, quotes]
  · refine ⟨fun hs => absurd hs ?_, fun hr => absurd hr.quotes hq⟩
    rw [Bool.not_eq_false, contains_iff] at hq
    obtain ⟨x, y, rfl⟩ := hq
    refine strip_ne_of_cut h (x := x) ⟨_, by rw [enclosed, List.append_assoc, List.append_assoc]⟩ ?_
    simp [quotes]

theorem extract_wrap {text : List Char} {d : Comment} (h : extract text = some d) :
    ∃ d2, extract (d.format.wrap d.content) = some d2 ∧ d2.format = d.format ∧
      (d2.content = d.content ↔ Rewrappable d.content) := by
  obtain ⟨hformat, -, body, hcontent⟩ := extract_eq_some h
  have hc : IsContent d.content := hcontent ▸ isContent_strip body
  obtain ⟨b, a, hcut, -⟩ := cut_first quotes (enclosed d.content) []
  rw [List.append_nil] at hcut
  rw [hformat, wrap_eq]
  exact ⟨_, extract_quoted hcut, rfl, strip_eq_iff_rewrappable hc hcut⟩

/-- The first character decides whether a line holds code. -/
lemma isCode_eq (l : List Char) : isCode l = (trimStart l).head?.any (· != '#') := by
  unfold isCode trim
  cases h : trimStart l with
  | nil => rfl
  | cons c cs =>
    have hc : isBlank c = false := trimStart_head c (by rw [h]; rfl)
    rw [trimEnd_cons hc]
    by_cases hh : c = '#'
    · subst hh
      rfl
    · simp [hh]

lemma opening?_of_not_code {l : List Char} (h : isCode l = false) :
    opening? (trimStart l) = none := by
  rw [isCode_eq] at h
  cases ht : trimStart l with
  | nil => rfl
  | cons c cs =>
    rw [ht] at h
    obtain rfl : c = '#' := by simpa using h
    rfl

section Below

variable {xs : List (List Char)} (hxs : ∀ l ∈ xs, isCode l = false)
include hxs

lemma isPreamble_append (before : List (List Char)) :
    isPreamble (xs ++ before) = isPreamble before := by
  unfold isPreamble
  induction xs with
  | nil => rfl
  | cons l xs ih =>
    rw [List.cons_append, isPreambleFrom, hxs l List.mem_cons_self]
    exact ih fun m hm => hxs m (List.mem_cons_of_mem _ hm)

lemma lastCode?_append (before : List (List Char)) :
    lastCode? (xs ++ before) = lastCode? before := by
  have hnone : xs.reverse.find? isCode = none := by
    rw [List.find?_eq_none]
    intro l hl
    simp [hxs l (List.mem_reverse.1 hl)]
  rw [lastCode?, List.reverse_append, List.find?_append, hnone, Option.or_none, lastCode?]

/-- Lines without code above all others do not count for the place of a docstring. -/
lemma findFrom_below (before : List (List Char)) (ls : List Line) :
    findFrom (xs ++ before) ls =
      (findFrom before ls).map fun (site, kind) =>
        ({ site with before := xs ++ site.before }, kind) := by
  induction ls generalizing before with
  | nil => rfl
  | cons l ls ih =>
    have hlevel : Site.atModuleLevel (xs ++ before) l.body = Site.atModuleLevel before l.body := by
      rw [Site.atModuleLevel, Site.atModuleLevel, isPreamble_append hxs]
    have hheader : Site.afterHeader (xs ++ before) = Site.afterHeader before := by
      rw [Site.afterHeader, Site.afterHeader, lastCode?_append hxs]
    have hkind : Site.kind (xs ++ before) l.body = Site.kind before l.body := by
      rw [Site.kind, Site.kind, hlevel, lastCode?_append hxs]
    have hnext := ih (before ++ [l.body])
    rw [← List.append_assoc] at hnext
    rw [findFrom, findFrom, hlevel, hheader, hkind, hnext]
    split
    · split <;> rfl
    · rfl

end Below

/-- No docstring opens on a line without code. -/
lemma findFrom_append {ls : List Line} (h : ∀ l ∈ ls, isCode l.body = false)
    (before : List (List Char)) (rest : List Line) :
    findFrom before (ls ++ rest) = findFrom (before ++ ls.map Line.body) rest := by
  induction ls generalizing before with
  | nil => simp
  | cons l ls ih =>
    rw [List.cons_append, findFrom, opening?_of_not_code (h l List.mem_cons_self)]
    dsimp only
    rw [ih fun m hm => h m (List.mem_cons_of_mem _ hm)]
    simp

/-- Lines without code move a docstring down and leave it as it is. -/
theorem extract_append {a b : List Char} (hab : Divides a b)
    (ha : ∀ l ∈ lines a, isCode l = false) :
    extract (a ++ b) = (extract b).map (Comment.shift (lines a).length) := by
  have hbody : ∀ l ∈ rawLines a, isCode l.body = false :=
    fun l hl => ha _ (List.mem_map_of_mem hl)
  have hfind : findFrom [] (rawLines (a ++ b)) =
      (findFrom [] (rawLines b)).map fun (site, kind) =>
        ({ site with before := lines a ++ site.before }, kind) := by
    rw [hab.rawLines_append, findFrom_append hbody, ← findFrom_below ha, List.nil_append,
      List.append_nil, lines]
  rw [extract, extract, hfind]
  cases findFrom [] (rawLines b) with
  | none => rfl
  | some r =>
    obtain ⟨site, kind⟩ := r
    dsimp only [Option.map_some]
    cases cut site.opening.quotes site.rest with
    | none => rfl
    | some c =>
      simp only [Option.map_some, Comment.shift, List.length_append, Option.some.injEq,
        Comment.mk.injEq, true_and]
      omega

end Literal
end Doc
end Waymark
