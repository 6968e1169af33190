import Waymark.Doc.Extract
import Waymark.Proofs.Doc.Return
import Waymark.Proofs.Text.Offset

/-! What stripping a docstring takes away. The common indentation is counted in bytes, so a cut can
fall inside a blank character of a line that is indented with wider ones; such a line gets lost as a
whole, and of every other line only blank space does. -/
namespace Waymark
namespace Text

/-- The lines that are not blank, without the blank space at their ends. -/
def visibleLines (ls : List (List Char)) : List (List Char) :=
  (ls.filter fun l => !isBlankText l).map trim

section Visible

variable {l : List Char}

lemma visibleLines_cons_of_blank (h : isBlankText l = true) (ls : List (List Char)) :
    visibleLines (l :: ls) = visibleLines ls := by
  simp [visibleLines, h]

lemma visibleLines_cons_of_shown (h : isBlankText l = false) (ls : List (List Char)) :
    visibleLines (l :: ls) = trim l :: visibleLines ls := by
  simp [visibleLines, h]

lemma visibleLines_cons (l : List Char) (ls : List (List Char)) :
    visibleLines (l :: ls) = visibleLines [l] ++ visibleLines ls := by
  rw [visibleLines, ← List.singleton_append, List.filter_append, List.map_append, visibleLines,
    visibleLines]

lemma visibleLines_cons_trim (l : List Char) (ls : List (List Char)) :
    visibleLines (trim l :: ls) = visibleLines (l :: ls) := by
  simp [visibleLines, List.filter_cons, isBlankText_trim, apply_ite (List.map trim), trim_trim]

lemma visibleLines_map_trimEnd (ls : List (List Char)) :
    visibleLines (ls.map trimEnd) = visibleLines ls := by
  simp [visibleLines, List.filter_map, Function.comp_def, isBlankText_trimEnd, trim_trimEnd]

lemma visibleLines_reverse (ls : List (List Char)) :
    visibleLines ls.reverse = (visibleLines ls).reverse := by
  rw [visibleLines, List.filter_reverse, List.map_reverse, visibleLines]

lemma visibleLines_dropWhile_isEmpty (ls : List (List Char)) :
    visibleLines (ls.dropWhile List.isEmpty) = visibleLines ls := by
  induction ls with
  | nil => rfl
  | cons l ls ih =>
    cases l with
    | nil => rw [List.dropWhile_cons_of_pos rfl, ih, visibleLines_cons_of_blank rfl]
    | cons c l => rw [List.dropWhile_cons_of_neg (by simp)]

/-- Only blank space and blank lines are lost in the normal form. -/
lemma visibleLines_normalLines (ls : List (List Char)) :
    visibleLines (normalLines ls) = visibleLines ls := by
  rw [normalLines, dropEndWhile, visibleLines_reverse, visibleLines_dropWhile_isEmpty,
    visibleLines_reverse, List.reverse_reverse, visibleLines_dropWhile_isEmpty,
    visibleLines_map_trimEnd]

end Visible

end Text

namespace Doc
namespace Literal

open Text

/-- Whether a line has a place between two characters at a byte offset. -/
def hasBoundary (n : Nat) (l : List Char) : Bool :=
  (splitAt l n).isSome

/-- The lines that stripping does not lose: the first, and those that can be cut at the common
indentation of all but the first. -/
def keptLines : List (List Char) → List (List Char)
  | [] => []
  | first :: rest => first :: rest.filter (hasBoundary (commonIndentation rest))

section Line

variable {n : Nat} {l : List Char}

lemma indentation_le_size (l : List Char) : indentation l ≤ size l := by
  have h := congrArg size (List.takeWhile_append_dropWhile (p := isBlank) (l := l))
  rw [size_append] at h
  rw [indentation]
  omega

lemma hasBoundary_iff (hn : n ≤ size l) :
    hasBoundary n l = true ↔ ∃ x, x <+: l ∧ size x = n := by
  rw [hasBoundary, Option.isSome_iff_exists]
  constructor
  · rintro ⟨⟨x, y⟩, h⟩
    exact ⟨x, ⟨y, (splitAt_append h).symm⟩, size_of_splitAt h hn⟩
  · rintro ⟨x, ⟨y, rfl⟩, rfl⟩
    exact ⟨(x, y), splitAt_size x y⟩

lemma dropBytes_of_not_hasBoundary (h : hasBoundary n l = false) : dropBytes n l = [] := by
  have hnone : splitAt l n = none := by simpa [hasBoundary] using h
  rw [dropBytes, hnone]
  rfl

/-- Within the indentation nothing but blank space is cut off. -/
lemma exists_blank_of_hasBoundary (h : hasBoundary n l = true) (hn : n ≤ indentation l) :
    ∃ x, isBlankText x = true ∧ l = x ++ dropBytes n l := by
  obtain ⟨⟨x, y⟩, hxy⟩ := Option.isSome_iff_exists.1 h
  have hl := splitAt_append hxy
  have hsize := size_of_splitAt hxy (hn.trans (indentation_le_size l))
  have hdrop : dropBytes n l = y := by
    rw [dropBytes, hxy]
    rfl
  refine ⟨x, ?_, hdrop ▸ hl⟩
  -- A longer beginning than the indentation would have more bytes.
  have hbegins : x <+: l.takeWhile isBlank :=
    prefix_of_size_le ⟨y, hl.symm⟩ (List.takeWhile_prefix isBlank) (hsize.trans_le hn)
  rw [isBlankText, List.all_eq_true]
  exact fun c hc => List.mem_takeWhile_imp (hbegins.subset hc)

end Line

lemma commonIndentation_le {ls : List (List Char)} {l : List Char} (hl : l ∈ ls)
    (hshown : isBlankText l = false) : commonIndentation ls ≤ indentation l := by
  have hmem : indentation l ∈ (ls.filter fun l => !isBlankText l).map indentation :=
    List.mem_map_of_mem (List.mem_filter.2 ⟨hl, by simp [hshown]⟩)
  obtain ⟨m, hm⟩ := Option.isSome_iff_exists.1
    (List.isSome_min?_of_ne_nil (List.ne_nil_of_mem hmem))
  rw [commonIndentation, hm]
  exact (List.min?_eq_some_iff.1 hm).2 _ hmem

/-- A cut within the indentation keeps what is seen of a line, or loses the line. -/
lemma visibleLines_map_dropBytes {n : Nat} {ls : List (List Char)}
    (h : ∀ l ∈ ls, isBlankText l = false → n ≤ indentation l) :
    visibleLines (ls.map (dropBytes n)) = visibleLines (ls.filter (hasBoundary n)) := by
  induction ls with
  | nil => rfl
  | cons l ls ih =>
    have hrest := ih fun m hm => h m (List.mem_cons_of_mem l hm)
    rw [List.map_cons]
    by_cases hblank : isBlankText l = true
    · have hdrop : isBlankText (dropBytes n l) = true := by
        rw [isBlankText, List.all_eq_true] at hblank ⊢
        exact fun c hc => hblank c ((dropBytes_isSuffix n l).subset hc)
      rw [visibleLines_cons_of_blank hdrop, hrest, List.filter_cons]
      split
      · rw [visibleLines_cons_of_blank hblank]
      · rfl
    · rw [Bool.not_eq_true] at hblank
      by_cases hcut : hasBoundary n l = true
      · obtain ⟨x, hx, hl⟩ := exists_blank_of_hasBoundary hcut (h l List.mem_cons_self hblank)
        have htrim : trim l = trim (dropBytes n l) := by
          conv_lhs => rw [hl, trim_append_of_blank hx]
        have hshown : isBlankText (dropBytes n l) = false := by
          rw [← isBlankText_trim, ← htrim, isBlankText_trim, hblank]
        rw [List.filter_cons_of_pos hcut, visibleLines_cons_of_shown hshown,
          visibleLines_cons_of_shown hblank, hrest, htrim]
      · rw [dropBytes_of_not_hasBoundary (by simpa using hcut), visibleLines_cons_of_blank rfl,
          hrest, List.filter_cons_of_neg hcut]

/-- What is seen of the content is what is seen of the lines that are kept. -/
theorem visibleLines_strip (body : List Char) :
    visibleLines (lines (strip body)) = visibleLines (keptLines (lines body)) := by
  cases h : lines body with
  | nil => rw [strip_of_lines_eq_nil h]; rfl
  | cons first rest =>
    have hrest : visibleLines (rest.map (dropBytes (commonIndentation rest))) =
        visibleLines (rest.filter (hasBoundary (commonIndentation rest))) :=
      visibleLines_map_dropBytes fun l hl hshown => commonIndentation_le hl hshown
    rw [strip_eq h, lines_normalize (newline_notMem_stripped h), visibleLines_normalLines,
      visibleLines_cons_trim, visibleLines_cons, hrest, ← visibleLines_cons, keptLines]

lemma visibleLines_filter_eq_iff {p : List Char → Bool} {ls : List (List Char)} :
    visibleLines (ls.filter p) = visibleLines ls ↔
      ∀ l ∈ ls, isBlankText l = false → p l = true := by
  have hshown : (∀ l ∈ ls, isBlankText l = false → p l = true) ↔
      ∀ l ∈ ls.filter fun l => !isBlankText l, p l = true := by
    simp [List.mem_filter]
  rw [visibleLines, visibleLines, List.filter_comm, hshown]
  constructor
  · intro h
    have hlength := congrArg List.length h
    rw [List.length_map, List.length_map] at hlength
    exact List.length_filter_eq_length_iff.1 hlength
  · intro h
    rw [List.filter_eq_self.2 h]

/-- All that is seen of a body is kept exactly when the common indentation cuts no character. -/
lemma visibleLines_keptLines_iff (ls : List (List Char)) :
    visibleLines (keptLines ls) = visibleLines ls ↔
      ∀ l ∈ ls.tail, isBlankText l = false →
        ∃ x, x <+: l ∧ size x = commonIndentation ls.tail := by
  cases ls with
  | nil => simp [keptLines]
  | cons first rest =>
    have hcut : ∀ l ∈ rest, isBlankText l = false →
        (hasBoundary (commonIndentation rest) l = true ↔
          ∃ x, x <+: l ∧ size x = commonIndentation rest) := fun l hl hshown =>
      hasBoundary_iff ((commonIndentation_le hl hshown).trans (indentation_le_size l))
    rw [keptLines, visibleLines_cons, visibleLines_cons first rest, List.append_cancel_left_eq,
      visibleLines_filter_eq_iff, List.tail_cons]
    exact forall₃_congr hcut

/-- The letter and the quotes of a literal are recognized again in front of any text. -/
lemma opening?_append {cs : List Char} {o : Opening} (h : opening? cs = some o) (t : List Char) :
    opening? (o.letter ++ o.quotes ++ t) = some ⟨o.letter, o.quotes, t⟩ := by
  obtain ⟨-, hletters, hquotes⟩ := opening?_eq_some h
  have hletter : o.letter = [] ∨ ∃ c ∈ letters, o.letter = [c] := by
    obtain ⟨q, -, rfl⟩ := Option.map_eq_some_iff.1 h
    cases cs with
    | nil => exact .inl rfl
    | cons c cs => by_cases hc : c ∈ letters <;> simp [hc]
  have hbare : ∀ q ∈ quoteStyles, opening? (q ++ t) = some ⟨[], q, t⟩ := by
    rw [quoteStyles, List.forall_mem_cons, List.forall_mem_singleton]
    exact ⟨rfl, rfl⟩
  have hmarked : ∀ c ∈ letters, ∀ q ∈ quoteStyles, opening? (c :: q ++ t) = some ⟨[c], q, t⟩ := by
    intro c hc
    rw [quoteStyles, List.forall_mem_cons, List.forall_mem_singleton]
    simp only [letters, List.mem_cons, List.not_mem_nil, or_false] at hc
    rcases hc with rfl | rfl | rfl | rfl <;> exact ⟨rfl, rfl⟩
  rcases hletter with hnone | ⟨c, hc, hone⟩
  · rw [hnone]
    exact hbare _ hquotes
  · rw [hone]
    exact hmarked c hc _ hquotes

/-- The raw text of a docstring is a literal, and its content is the body of that literal without
the indentation. -/
lemma exists_body {text : List Char} {d : Comment} (h : extract text = some d) :
    ∃ letter quotes body, opening? d.raw = some ⟨letter, quotes, body ++ quotes⟩ ∧
      d.content = strip body := by
  unfold extract at h
  split at h
  · cases h
  · rename_i site kind hfind
    split at h
    · cases h
    · rename_i body after hcut
      obtain rfl := Option.some.inj h
      obtain ⟨-, l, -, -, hopening, -⟩ := exists_of_findFrom hfind
      refine ⟨site.opening.letter, site.opening.quotes, body, ?_, rfl⟩
      dsimp only
      rw [List.append_assoc (site.opening.letter ++ site.opening.quotes)]
      exact opening?_append hopening _

end Literal

open Text

/-- What is seen of the content of a docstring, line by line and blank space at both ends of a line
left aside, is what is seen of the kept lines of its body. That is all of the body exactly when no
line that is not blank has a character across the common indentation, which is counted in bytes. -/
theorem visibleLines_content {text : List Char} {d : Comment}
    (h : extract .python text = some d) :
    ∃ letter quotes body, Literal.opening? d.raw = some ⟨letter, quotes, body ++ quotes⟩ ∧
      visibleLines (lines d.content) = visibleLines (Literal.keptLines (lines body)) ∧
      (visibleLines (lines d.content) = visibleLines (lines body) ↔
        ∀ l ∈ (lines body).tail, isBlankText l = false →
          ∃ x, x <+: l ∧ size x = Literal.commonIndentation (lines body).tail) := by
  obtain ⟨letter, quotes, body, hraw, hcontent⟩ := Literal.exists_body h
  have hvisible : visibleLines (lines d.content) =
      visibleLines (Literal.keptLines (lines body)) := by
    rw [hcontent, Literal.visibleLines_strip]
  refine ⟨letter, quotes, body, hraw, hvisible, ?_⟩
  rw [hvisible, Literal.visibleLines_keptLines_iff]

/-- Lines that begin with a blank character of two bytes and one of one byte are kept. -/
theorem visibleLines_content_wide :
    let text := "'''\n\u00a0 a\n\u00a0\tb\n'''\n".toList
    let body := "\n\u00a0 a\n\u00a0\tb\n".toList
    ∃ d, extract .python text = some d ∧
      Literal.opening? d.raw = some ⟨[], "'''".toList, body ++ "'''".toList⟩ ∧
      visibleLines (lines d.content) = visibleLines (lines body) := by
  intro text body
  let d : Comment := ⟨.python, .file, .python, "'''\n\u00a0 a\n\u00a0\tb\n'''".toList,
    "a\nb".toList, 1, 4⟩
  have h : extract .python text = some d := by decide +kernel
  have hraw : Literal.opening? d.raw = some ⟨[], "'''".toList, body ++ "'''".toList⟩ := by
    decide +kernel
  have hlines : lines body = [[], "\u00a0 a".toList, "\u00a0\tb".toList] := by decide +kernel
  have hcommon : Literal.commonIndentation ["\u00a0 a".toList, "\u00a0\tb".toList] = 3 := by
    decide +kernel
  obtain ⟨letter, quotes, body', hraw', -, hiff⟩ := visibleLines_content h
  obtain ⟨-, hquotes, htail⟩ := Literal.Opening.mk.inj (Option.some.inj (hraw.symm.trans hraw'))
  obtain rfl : body = body' := List.append_cancel_right (hquotes ▸ htail)
  refine ⟨d, h, hraw, hiff.2 ?_⟩
  rw [hlines, List.tail_cons, hcommon, List.forall_mem_cons, List.forall_mem_singleton]
  exact ⟨fun _ => ⟨"\u00a0 ".toList, by decide, by decide⟩,
    fun _ => ⟨"\u00a0\t".toList, by decide, by decide⟩⟩

/-- A line that is indented by one blank character of two bytes gets lost beside a line that is
indented by one space. -/
theorem visibleLines_content_lost :
    ¬∀ text d letter quotes body, extract .python text = some d →
      Literal.opening? d.raw = some ⟨letter, quotes, body ++ quotes⟩ →
      visibleLines (lines body) = visibleLines (lines d.content) := by
  intro h
  let text := "'''A\n x\n\u00a0y\n'''\n".toList
  let body := "A\n x\n\u00a0y\n".toList
  let d : Comment := ⟨.python, .file, .python, "'''A\n x\n\u00a0y\n'''".toList, "A\nx".toList, 1, 4⟩
  have hd : extract .python text = some d := by decide +kernel
  have hraw : Literal.opening? d.raw = some ⟨[], "'''".toList, body ++ "'''".toList⟩ := by
    decide +kernel
  exact absurd (h text d [] "'''".toList body hd hraw) (by decide +kernel)

end Doc
end Waymark
