import Waymark.Doc.Hash
import Waymark.Proofs.Doc.Basic
import Waymark.Proofs.Preamble.Header
import Waymark.Proofs.Text.Insert
import Waymark.Proofs.Text.Search

/-! Comments of hash lines: wrapped content is one comment again, with the same content. Lines above
a comment that may stand before it do not change it, but the first line of a text has a meaning of
its own. -/
namespace Waymark
namespace Doc
namespace Hash

open Text Format

lemma undecorate_isSuffix (l : List Char) : undecorate l <:+ l :=
  (dropSpace_isSuffix _).trans ((List.drop_suffix _ _).trans (trimStart_isSuffix l))

/-- What a comment that was found is made of. -/
lemma extract_eq_some {text : List Char} {d : Comment} (h : extract text = some d) :
    d.language = .ruby ∧ d.format = .ruby ∧ ∃ block : List Numbered,
      (∀ l ∈ block, isDoc l = true ∧ l.1 ∈ rawLines text) ∧
      d.content = normalize (block.map fun l => undecorate l.1.body) := by
  simp only [extract, List.span_eq_takeWhile_dropWhile] at h
  split at h
  · cases h
  · obtain rfl := Option.some.inj h
    refine ⟨rfl, rfl, _, ?_, rfl⟩
    intro l hl
    refine ⟨List.mem_takeWhile_imp hl, ?_⟩
    have hm := (List.dropWhile_sublist _).subset ((List.takeWhile_sublist _).subset hl)
    exact List.fst_mem_of_mem_zipIdx hm

/-- A text made of comment lines is one comment. -/
lemma extract_of_isDoc {text : List Char} (hne : rawLines text ≠ [])
    (h : ∀ l ∈ (rawLines text).zipIdx, isDoc l = true) :
    extract text = some
      { language := .ruby
        kind := .file
        format := .ruby
        raw := joinRaw (rawLines text)
        content := normalize ((lines text).map undecorate)
        startLine := 1
        endLine := (lines text).length } := by
  have hb : (rawLines text).zipIdx.isEmpty = false := by
    rw [List.isEmpty_eq_false_iff]
    exact fun hc => hne (List.zipIdx_eq_nil_iff.1 hc)
  have hfst : (rawLines text).zipIdx.map Prod.fst = rawLines text := List.zipIdx_map_fst 0 _
  have hbody : ((rawLines text).zipIdx.map fun l => undecorate l.1.body) =
      (lines text).map undecorate := by
    rw [lines, List.map_map]
    conv_rhs => rw [← hfst, List.map_map]
    rfl
  rw [extract, span_of_neg (fun l hl => by simp [h l hl])]
  dsimp only
  rw [span_of_pos h]
  simp [hb, hfst, hbody, lines]

lemma isMarker : IsMarker ['#'] := by
  constructor <;> decide

/-- Neither the space in front nor blank space at the end makes a magic comment. -/
lemma isMagicComment_decorate (rest : List Char) :
    Preamble.isMagicComment (decorate ['#'] (trimEnd (dropSpace rest))) =
      Preamble.isMagicComment ('#' :: rest) := by
  have hb : ∀ l, Preamble.isMagicComment (decorate ['#'] l) =
      Preamble.isMagicBody (trimStart l) := by
    intro l
    rw [Preamble.isMagicComment_eq, isMarker.trimStart_decorate]
    by_cases h : l = []
    · have hd : decorate ['#'] l = ['#'] := by rw [h]; rfl
      rw [hd, Preamble.afterHash, h]
    · rw [decorate_of_ne_nil h]
      exact congrArg Preamble.isMagicBody (trimStart_append_of_blank (x := [' ']) rfl l)
  have hs : trimStart (dropSpace rest) = trimStart rest := by
    unfold dropSpace
    split
    · exact (trimStart_append_of_blank (x := [' ']) rfl _).symm
    · rfl
  rw [hb, Preamble.ignoresEnd_isMagicBody.trimStart.trimEnd (dropSpace rest), hs]
  rfl

lemma isWaymarkLine_of_isInfix {x y : List Char} (hxy : x <:+: y) (h : isWaymarkLine y = false) :
    isWaymarkLine x = false := by
  rw [isWaymarkLine, contains_eq_false_iff, cut_eq_none_iff] at h ⊢
  exact fun hc => h (hc.trans hxy)

lemma isWaymarkLine_decorate {l : List Char} (h : isWaymarkLine l = false) :
    isWaymarkLine (decorate ['#'] l) = false := by
  rw [isWaymarkLine, contains_eq_false_iff, cut_eq_none_iff] at h ⊢
  intro hc
  by_cases hl : l = []
  · subst hl
    exact absurd (contains_iff.2 hc) (by decide)
  · rw [decorate_of_ne_nil hl] at hc
    simp [sigil, List.infix_cons_iff] at hc
    exact h hc

/-- A line of prose stays one behind a new mark, wherever it stands. -/
lemma isDoc_decorate {l : Numbered} (h : isDoc l = true) (ending : List Char) (i : Nat) :
    isDoc (⟨decorate ['#'] (trimEnd (undecorate l.1.body)), ending⟩, i) = true := by
  simp only [isDoc, Bool.and_eq_true, Bool.not_eq_true'] at h
  obtain ⟨⟨⟨hp, -⟩, hmagic⟩, hway⟩ := h
  obtain ⟨rest, hrest⟩ := List.isPrefixOf_iff_prefix.1 hp
  rw [List.singleton_append] at hrest
  have hu : undecorate l.1.body = dropSpace rest := by simp [undecorate, ← hrest]
  rw [← hrest] at hmagic hway
  have hinfix : trimEnd (dropSpace rest) <:+: '#' :: rest :=
    (trimEnd_isPrefix _).isInfix.trans
      ((dropSpace_isSuffix rest).trans (List.suffix_cons _ _)).isInfix
  have hshebang : Preamble.isShebang (decorate ['#'] (trimEnd (dropSpace rest))) = false := by
    by_cases hn : trimEnd (dropSpace rest) = []
    · rw [hn]
      rfl
    · rw [decorate_of_ne_nil hn]
      rfl
  simp only [isDoc, hu, isMarker.trimStart_decorate, isShebangAt, hshebang,
    isMagicComment_decorate, hmagic, isWaymarkLine_decorate (isWaymarkLine_of_isInfix hinfix hway)]
  simpa using prefix_decorate ['#'] _

/-- Every line of a content is prose behind a new mark. -/
lemma isDoc_of_mem_lines {text : List Char} {d : Comment} (h : extract text = some d) :
    IsContent d.content ∧ ∀ l ∈ lines d.content, ∀ ending i,
      isDoc (⟨decorate ['#'] l, ending⟩, i) = true := by
  obtain ⟨-, -, block, hblock, hcontent⟩ := extract_eq_some h
  have hn : ∀ l ∈ block.map fun l => undecorate l.1.body, '\n' ∉ l := by
    intro l hl hc
    obtain ⟨x, hx, rfl⟩ := List.mem_map.1 hl
    exact newline_notMem_of_mem_lines (List.mem_map_of_mem (hblock x hx).2)
      ((undecorate_isSuffix _).subset hc)
  rw [hcontent]
  refine ⟨isContent_normalize hn, ?_⟩
  intro l hl ending i
  rw [lines_normalize hn] at hl
  obtain ⟨m, hm, rfl⟩ := mem_normalLines hl
  obtain ⟨x, hx, rfl⟩ := List.mem_map.1 hm
  exact isDoc_decorate (hblock x hx).1 ending i

theorem extract_wrap {text : List Char} {d : Comment} (h : extract text = some d)
    (hne : d.content ≠ []) :
    extract (d.format.wrap d.content) = some
      { d with
        kind := .file
        raw := d.format.wrap d.content
        startLine := 1
        endLine := (lines d.content).length } := by
  obtain ⟨hlanguage, hformat, -⟩ := extract_eq_some h
  obtain ⟨hc, hdoc⟩ := isDoc_of_mem_lines h
  have hw : d.format.wrap d.content = marked ['#'] d.content := by rw [hformat]; rfl
  have hall : ∀ l ∈ (rawLines (marked ['#'] d.content)).zipIdx, isDoc l = true := by
    rintro ⟨⟨body, ending⟩, i⟩ hm
    obtain ⟨x, hx, rfl⟩ := isMarker.body_of_mem hc (List.fst_mem_of_mem_zipIdx hm)
    exact hdoc x hx ending i
  have hu : normalize ((lines (marked ['#'] d.content)).map undecorate) = d.content :=
    isMarker.normalize_undecorate hc
  rw [hw, extract_of_isDoc (isMarker.rawLines_marked_ne_nil hc hne) hall,
    isMarker.joinRaw_marked hc, hu, isMarker.lines_marked hc, List.length_map, hlanguage, hformat]

/-- A line with the two answers that decide what it is. -/
structure Role where
  line : Line
  doc : Bool
  preamble : Bool

def role (l : Numbered) : Role :=
  ⟨l.1, isDoc l, isPreamble l⟩

/-- The comment among lines whose roles are known. -/
def ofRoles (ls : List Role) : Option Comment :=
  let (before, rest) := ls.span fun l => !l.doc
  let (block, after) := rest.span Role.doc
  if block.isEmpty then none
  else
    let owned := after.head?.any fun l => Language.ruby.isOwnerLine l.line.body
    some
      { language := .ruby
        kind := if before.all Role.preamble && !owned then .file else .function
        format := .ruby
        raw := joinRaw (block.map Role.line)
        content := normalize (block.map fun l => undecorate l.line.body)
        startLine := before.length + 1
        endLine := before.length + block.length }

lemma extract_eq_ofRoles (text : List Char) :
    extract text = ofRoles ((rawLines text).zipIdx.map role) := by
  simp only [extract, ofRoles, List.span_eq_takeWhile_dropWhile, List.takeWhile_map,
    List.dropWhile_map, List.map_map, List.all_map, List.head?_map, Option.any_map,
    List.isEmpty_map, List.length_map]
  rfl

/-- Lines that may stand before a comment move it down and leave it as it is. -/
lemma ofRoles_append {xs : List Role} (h : ∀ l ∈ xs, l.doc = false ∧ l.preamble = true)
    (ls : List Role) : ofRoles (xs ++ ls) = (ofRoles ls).map (Comment.shift xs.length) := by
  have hdoc : ∀ l ∈ xs, (!l.doc) = true := fun l hl => by simp [(h l hl).1]
  have hall : xs.all Role.preamble = true := List.all_eq_true.2 fun l hl => (h l hl).2
  simp only [ofRoles, List.span_eq_takeWhile_dropWhile, List.takeWhile_append_of_pos hdoc,
    List.dropWhile_append_of_pos hdoc, List.all_append, hall, Bool.true_and, List.length_append]
  split
  · rfl
  · simp only [Option.map_some, Comment.shift, Option.some.injEq, Comment.mk.injEq, true_and]
    omega

/-- Only an interpreter line asks for its index. -/
lemma role_eq {l : Line} {i j : Nat}
    (h : Preamble.isShebang (trimStart l.body) = true → (i = 0 ↔ j = 0)) :
    role (l, i) = role (l, j) := by
  have ht : Preamble.isShebang (trim l.body) = Preamble.isShebang (trimStart l.body) :=
    Preamble.ignoresEnd_isShebang.trimEnd _
  simp only [role, isDoc, isPreamble, isShebangAt, ht]
  cases hs : Preamble.isShebang (trimStart l.body) with
  | false => simp
  | true =>
    have hij : (i == 0) = (j == 0) := by
      rw [Bool.eq_iff_iff, beq_iff_eq, beq_iff_eq]
      exact h hs
    rw [hij]

lemma map_role_zipIdx {ls : List Line} {m n : Nat}
    (h : ∀ l ∈ ls.head?, Preamble.isShebang (trimStart l.body) = true → (m = 0 ↔ n = 0)) :
    (ls.zipIdx m).map role = (ls.zipIdx n).map role := by
  apply List.ext_getElem
  · simp
  · intro i hi _
    rw [List.getElem_map, List.getElem_map, List.getElem_zipIdx, List.getElem_zipIdx]
    apply role_eq
    cases i with
    | zero =>
      have hi : 0 < ls.length := by simpa using hi
      simpa using h ls[0] (List.head?_eq_getElem? ▸ List.getElem?_eq_getElem hi)
    | succ i =>
      intro _
      omega

/-- The comment of a text that does not come first in its file. -/
def extractBelow (text : List Char) : Option Comment :=
  ofRoles (((rawLines text).zipIdx 1).map role)

lemma startLine_pos {text : List Char} {d : Comment} (h : extractBelow text = some d) :
    1 ≤ d.startLine := by
  simp only [extractBelow, ofRoles] at h
  split at h
  · cases h
  · obtain rfl := Option.some.inj h
    exact Nat.le_add_left _ _

theorem extract_append {a b : List Char} (hab : Divides a b)
    (ha : ∀ l ∈ (rawLines a).zipIdx, isDoc l = false ∧ isPreamble l = true)
    (hb : lines a = [] → ∀ l ∈ (lines b).head?, Preamble.isShebang (trimStart l) = false) :
    extract (a ++ b) = (extractBelow b).map (Comment.shift (lines a).length) := by
  have hroles : ∀ r ∈ (rawLines a).zipIdx.map role, r.doc = false ∧ r.preamble = true := by
    intro r hr
    obtain ⟨l, hl, rfl⟩ := List.mem_map.1 hr
    exact ha l hl
  have hindex : ((rawLines b).zipIdx (0 + (rawLines a).length)).map role =
      ((rawLines b).zipIdx 1).map role := by
    apply map_role_zipIdx
    intro l hl hs
    by_cases hn : rawLines a = []
    · have hhead : l.body ∈ (lines b).head? := by simp [lines, Option.mem_def.1 hl]
      simp [hb (by simp [lines, hn]) _ hhead] at hs
    · have := List.length_pos_iff.2 hn
      omega
  rw [extract_eq_ofRoles, hab.rawLines_append, List.zipIdx_append, List.map_append,
    ofRoles_append hroles, hindex, List.length_map, List.length_zipIdx, lines, List.length_map]
  rfl

end Hash
end Doc
end Waymark
