import Waymark.Proofs.Doc.Return
import Waymark.Proofs.Doc.Slash
import Waymark.Proofs.Text.Offset

/-! Where a doc comment stands. Its raw text occurs in the file, begins on the line that the comment
names as its first and ends on the line it names as its last, and its content is in normal form. -/
namespace Waymark
namespace Doc

open Text

/-- The raw text of a comment occurs on the lines that the comment names. -/
structure Placed (text : List Char) (d : Comment) : Prop where
  occurs : ∃ before after, text = before ++ d.raw ++ after ∧ d.startLine = newlines before + 1
  endLine : d.endLine = d.startLine + newlines d.raw
  ends : ¬Whole d.raw
  content : IsContent d.content

/-- What comes before a run, the run, and what comes after it are all there is. -/
lemma takeWhile_runs {α : Type} (p q : α → Bool) (xs : List α) :
    xs.takeWhile p ++ (xs.dropWhile p).takeWhile q ++ (xs.dropWhile p).dropWhile q = xs := by
  rw [List.append_assoc, List.takeWhile_append_dropWhile, List.takeWhile_append_dropWhile]

namespace Block

lemma isContent_strip (inner : List Char) : IsContent (strip inner) := by
  apply isContent_normalize
  intro l hl hn
  obtain ⟨x, hx, rfl⟩ := List.mem_map.1 hl
  exact newline_notMem_of_mem_lines hx ((undecorate_isInfix x).subset hn)

/-- A comment that is found stands between what comes before its opening and behind its end. -/
lemma eq_of_findOpen {text before tail inner after : List Char}
    (hopen : findOpen text = some (before, tail)) (hclose : cut closing tail = some (inner, after)) :
    text = before ++ (opening ++ inner ++ closing) ++ after := by
  have htext : text = before ++ opening ++ tail := findOpenFrom_eq hopen
  rw [htext, cut_eq_some hclose]
  simp

lemma newlines_enclosed (inner : List Char) :
    newlines (opening ++ inner ++ closing) = newlines inner := by
  have hopening : newlines opening = 0 := rfl
  have hclosing : newlines closing = 0 := rfl
  simp only [newlines_append, hopening, hclosing, Nat.zero_add, Nat.add_zero]

lemma not_whole_enclosed (inner : List Char) : ¬Whole (opening ++ inner ++ closing) :=
  not_whole_append _ (by simp [Whole, closing])

theorem placed_extract {language : Language} {text : List Char} {d : Comment}
    (h : extract language text = some d) : Placed text d := by
  unfold extract at h
  split at h
  · cases h
  · rename_i before tail hopen
    split at h
    · cases h
    · rename_i inner after hclose
      obtain rfl := Option.some.inj h
      refine ⟨⟨before, after, eq_of_findOpen hopen hclose, rfl⟩, ?_, not_whole_enclosed inner,
        isContent_strip inner⟩
      rw [newlines_enclosed]

end Block

namespace Literal

/-- The lines above a docstring, the blank space in front of it, and the text from there on. -/
lemma findFrom_place {before : List (List Char)} {ls : List Line} {site : Site} {kind : Kind}
    (h : findFrom before ls = some (site, kind)) :
    ∃ xs l ys indent, ls = xs ++ l :: ys ∧ site.before = before ++ xs.map Line.body ∧
      indent <+: l.body ∧ concat (l :: ys) =
        indent ++ (site.opening.letter ++ site.opening.quotes ++ site.rest) := by
  obtain ⟨xs, l, ys, hls, hopening, hbefore, hrest⟩ := exists_of_findFrom h
  obtain ⟨indent, -, hindent⟩ := exists_eq_append_trimStart l.body
  refine ⟨xs, l, ys, indent, hls, hbefore, ⟨_, hindent.symm⟩, ?_⟩
  rw [concat_cons, Line.full, hindent, (opening?_eq_some hopening).1, hrest]
  simp

/-- What stands around the body of a docstring holds no newline. -/
lemma newline_notMem_marks {before : List (List Char)} {ls : List Line} {site : Site} {kind : Kind}
    (h : findFrom before ls = some (site, kind)) :
    newlines site.opening.letter = 0 ∧ newlines site.opening.quotes = 0 ∧
      ¬Whole site.opening.quotes := by
  obtain ⟨-, hletter, hquotes⟩ := findFrom_eq_some h
  have hstyles : ∀ q ∈ quoteStyles, '\n' ∉ q ∧ q ≠ [] := by decide
  obtain ⟨hn, hne⟩ := hstyles _ hquotes
  exact ⟨newlines_of_notMem fun hc => absurd (hletter _ hc) (by decide), newlines_of_notMem hn,
    fun hw => hne (eq_nil_of_whole hw hn)⟩

theorem placed_extract {text : List Char} {d : Comment} (h : extract text = some d) :
    Placed text d := by
  unfold extract at h
  split at h
  · cases h
  · rename_i site kind hfind
    split at h
    · cases h
    · rename_i body after hcut
      obtain rfl := Option.some.inj h
      obtain ⟨xs, l, ys, indent, hls, hbefore, hindent, hplace⟩ := findFrom_place hfind
      obtain ⟨hletter, hquotes, hends⟩ := newline_notMem_marks hfind
      have hmem : l ∈ rawLines text := by simp [hls]
      have hblank : newlines indent = 0 :=
        newlines_of_notMem fun hc => newline_notMem_body hmem (hindent.subset hc)
      refine ⟨⟨concat xs ++ indent, after, ?_, ?_⟩, ?_, not_whole_append _ hends,
        isContent_strip body⟩
      · rw [← concat_rawLines text, hls, concat_append, hplace, cut_eq_some hcut]
        simp
      · have hxs := newlines_concat hls (List.cons_ne_nil l ys)
        simp [hbefore, newlines_append, hxs, hblank]
      · simp [newlines_append, hletter, hquotes]

end Literal

namespace Hash

lemma body_ne_nil {l : Numbered} (h : isDoc l = true) : l.1.body ≠ [] := by
  intro hnil
  simp [isDoc, hnil, trimStart] at h

theorem placed_extract {text : List Char} {d : Comment} (h : extract text = some d) :
    Placed text d := by
  have hcontent := (isDoc_of_mem_lines h).1
  simp only [extract, List.span_eq_takeWhile_dropWhile] at h
  split at h
  · cases h
  · rename_i hne
    obtain rfl := Option.some.inj h
    have hruns := congrArg (List.map Prod.fst)
      (takeWhile_runs (fun l => !isDoc l) isDoc (rawLines text).zipIdx)
    rw [List.map_append, List.map_append, List.zipIdx_map_fst] at hruns
    have hbody : ∀ l ∈ (((rawLines text).zipIdx.dropWhile fun l => !isDoc l).takeWhile isDoc).map
        Prod.fst, l.body ≠ [] := by
      intro l hl
      obtain ⟨n, hn, rfl⟩ := List.mem_map.1 hl
      exact body_ne_nil (List.mem_takeWhile_imp hn)
    obtain ⟨a, b, htext, ha, hblock, hends⟩ :=
      exists_joinRaw hruns.symm (by simpa using hne) hbody
    rw [List.length_map] at ha hblock
    refine ⟨⟨a, b, htext, ?_⟩, ?_, hends, hcontent⟩
    · simp only [ha]
    · simp only
      omega

end Hash

namespace Slash

lemma body_ne_nil {l : Line} {m : Marker} (h : marker? l.body = some m) : l.body ≠ [] := by
  intro hnil
  rw [hnil] at h
  cases h

theorem placed_extract {text : List Char} {d : Comment} (h : extract text = some d) :
    Placed text d := by
  simp only [extract, List.span_eq_takeWhile_dropWhile] at h
  split at h
  · cases h
  · rename_i m hm
    obtain rfl := Option.some.inj h
    have hruns := takeWhile_runs (fun l => (marker? l.body).isNone)
      (fun l => marker? l.body == some m) (rawLines text)
    have hne : ((rawLines text).dropWhile fun l => (marker? l.body).isNone).takeWhile
        (fun l => marker? l.body == some m) ≠ [] := by
      intro hnil
      obtain ⟨l, hl, hmark⟩ := Option.bind_eq_some_iff.1 hm
      obtain ⟨ls, hls⟩ := List.head?_eq_some_iff.1 hl
      simp [hls, hmark] at hnil
    have hmarked : ∀ l ∈ ((rawLines text).dropWhile fun l => (marker? l.body).isNone).takeWhile
        (fun l => marker? l.body == some m), marker? l.body = some m := fun l hl => by
      simpa using List.mem_takeWhile_imp hl
    obtain ⟨a, b, htext, ha, hblock, hends⟩ :=
      exists_joinRaw hruns.symm hne fun l hl => body_ne_nil (hmarked l hl)
    refine ⟨⟨a, b, htext, ?_⟩, ?_, hends, ?_⟩
    · simp only [ha]
    · simp only
      omega
    · apply isContent_normalize
      intro l hl hn
      obtain ⟨x, hx, rfl⟩ := List.mem_map.1 hl
      have hmem := (List.dropWhile_sublist _).subset ((List.takeWhile_sublist _).subset hx)
      exact newline_notMem_body hmem ((undecorate_isSuffix m _).subset hn)

end Slash

lemma placed_extract {language : Language} {text : List Char} {d : Comment}
    (h : extract language text = some d) : Placed text d := by
  cases language with
  | javascript => exact Block.placed_extract h
  | typescript => exact Block.placed_extract h
  | python => exact Literal.placed_extract h
  | ruby => exact Hash.placed_extract h
  | rust => exact Slash.placed_extract h
  | go | markdown | shell => cases h

/-- The lines of a content, each as it stands between newlines. -/
lemma splitOn_content {c : List Char} (h : IsContent c) (hne : c ≠ []) :
    c.splitOn '\n' = lines c := by
  conv_lhs => rw [← h.join]
  exact List.splitOn_intercalate '\n' (fun l hl => (h.normal.line l hl).1) (h.lines_ne_nil hne)

/-- A line of a content is blank only when it is empty. -/
lemma isBlankText_of_mem {ls : List (List Char)} (h : Normal ls) {l : List Char} (hl : l ∈ ls)
    (hne : l ≠ []) : isBlankText l = false := by
  rw [← Bool.not_eq_true, ← trimEnd_eq_nil_iff, (h.line l hl).2]
  exact hne

/-- A comment stands in the text on the lines that it names, and its content has neither blank
space at the end of a line nor a blank line at either end. -/
theorem extract_located {language : Language} {text : List Char} {d : Comment}
    (h : extract language text = some d) :
    (∃ before after, text = before ++ d.raw ++ after ∧
      lineAt text (size before) = d.startLine) ∧
    d.endLine = d.startLine + newlines d.raw ∧
    1 ≤ d.startLine ∧ d.startLine ≤ d.endLine ∧ d.endLine ≤ (lines text).length ∧
    (∀ l ∈ d.content.splitOn '\n', ∀ c ∈ l.getLast?, isBlank c = false) ∧
    (d.content ≠ [] →
      (∀ l ∈ (d.content.splitOn '\n').head?, isBlankText l = false) ∧
      ∀ l ∈ (d.content.splitOn '\n').getLast?, isBlankText l = false) := by
  obtain ⟨⟨before, after, htext, hstart⟩, hend, hends, hcontent⟩ := placed_extract h
  have hlast : d.endLine ≤ (lines text).length := by
    have hlt := newlines_lt_length (not_whole_append before hends) after
    rw [← htext, newlines_append] at hlt
    omega
  refine ⟨⟨before, after, htext, ?_⟩, hend, by omega, by omega, hlast, ?_⟩
  · rw [htext, List.append_assoc, lineAt_append, hstart]
  · by_cases hne : d.content = []
    · simp [hne]
    · rw [splitOn_content hcontent hne]
      refine ⟨fun l hl => trimEnd_eq_self_iff.1 (hcontent.normal.line l hl).2, fun _ => ⟨?_, ?_⟩⟩
      · intro l hl
        refine isBlankText_of_mem hcontent.normal (List.mem_of_mem_head? hl) ?_
        rintro rfl
        exact hcontent.normal.first hl
      · intro l hl
        refine isBlankText_of_mem hcontent.normal (List.mem_of_getLast? hl) ?_
        rintro rfl
        exact hcontent.normal.last hl

/-- An indented docstring behind a header, with a letter before its quotes and returns in it. -/
theorem extract_located_indented :
    let text := "é = 1\r\nclass A:\n\tr'''Two\r\n\n\t\tlines ''' ; pass".toList
    let d : Comment := ⟨.python, .function, .python, "r'''Two\r\n\n\t\tlines '''".toList,
      "Two\n\nlines".toList, 3, 5⟩
    extract .python text = some d ∧
      (∃ before after, text = before ++ d.raw ++ after ∧ lineAt text (size before) = 3) ∧
      d.endLine = 3 + newlines d.raw ∧ d.endLine ≤ (lines text).length ∧
      ∀ l ∈ d.content.splitOn '\n', ∀ c ∈ l.getLast?, isBlank c = false := by
  intro text d
  have h : extract .python text = some d := by decide +kernel
  obtain ⟨hoccurs, hend, -, -, hlines, hcontent, -⟩ := extract_located h
  exact ⟨h, hoccurs, hend, hlines, hcontent⟩

end Doc
end Waymark
