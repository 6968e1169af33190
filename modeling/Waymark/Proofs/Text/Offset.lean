import Waymark.Proofs.Text.Insert
import Waymark.Text.Offset

/-! Places in a text. The line of a place is known from the newlines before it, and a run of lines
stands behind as many newlines as there are lines above it. -/
namespace Waymark
namespace Text

lemma newlines_append (a b : List Char) : newlines (a ++ b) = newlines a + newlines b :=
  List.count_append

lemma newlines_of_notMem {l : List Char} (h : '\n' ∉ l) : newlines l = 0 :=
  List.count_eq_zero.2 h

/-- The line of a place is one more than the number of newlines before it. -/
theorem lineAt_append (a b : List Char) : lineAt (a ++ b) (size a) = newlines a + 1 := by
  induction a with
  | nil => cases b <;> rfl
  | cons c a ih =>
    obtain ⟨n, hn⟩ : ∃ n, c.utf8Size + size a = n + 1 :=
      Nat.exists_eq_add_one.2 (Nat.add_pos_left c.utf8Size_pos _)
    have hrest : n + 1 - c.utf8Size = size a := by omega
    rw [List.cons_append, size, hn, lineAt, hrest, ih, newlines, newlines]
    by_cases hc : c = '\n' <;> simp [hc]

lemma size_append (x y : List Char) : size (x ++ y) = size x + size y := by
  induction x with
  | nil => simp [size]
  | cons c x ih =>
    rw [List.cons_append, size, ih, size]
    omega

/-- A text can be divided behind each of its beginnings. -/
lemma splitAt_size (x y : List Char) : splitAt (x ++ y) (size x) = some (x, y) := by
  induction x with
  | nil => simp [size, splitAt]
  | cons c x ih =>
    obtain ⟨n, hn⟩ : ∃ n, c.utf8Size + size x = n + 1 :=
      Nat.exists_eq_add_one.2 (Nat.add_pos_left c.utf8Size_pos _)
    have hrest : n + 1 - c.utf8Size = size x := by omega
    rw [List.cons_append, size, hn, splitAt, if_neg (by omega), hrest, ih]
    rfl

lemma size_of_splitAt {cs x y : List Char} {n : Nat} (h : splitAt cs n = some (x, y))
    (hn : n ≤ size cs) : size x = n := by
  induction cs generalizing n x with
  | nil =>
    obtain rfl : n = 0 := Nat.eq_zero_of_le_zero hn
    simp only [splitAt, Option.some.injEq, Prod.mk.injEq] at h
    rw [← h.1]
    rfl
  | cons c cs ih =>
    cases n with
    | zero =>
      simp only [splitAt, Option.some.injEq, Prod.mk.injEq] at h
      rw [← h.1]
      rfl
    | succ n =>
      rw [splitAt] at h
      split at h
      · cases h
      · obtain ⟨⟨a, b⟩, hab, he⟩ := Option.map_eq_some_iff.1 h
        obtain ⟨rfl, rfl⟩ := Prod.mk.inj he
        rw [size] at hn ⊢
        have hsize := ih hab (by omega)
        omega

/-- Of two beginnings of a text, the one with fewer bytes is a beginning of the other. -/
lemma prefix_of_size_le {text x y : List Char} (hx : x <+: text) (hy : y <+: text)
    (h : size x ≤ size y) : x <+: y := by
  rcases List.prefix_or_prefix_of_prefix hx hy with hp | ⟨z, rfl⟩
  · exact hp
  · cases z with
    | nil => simp
    | cons c z =>
      have hpos := c.utf8Size_pos
      rw [size_append, size] at h
      omega

lemma lines_ne_nil {text : List Char} (h : text ≠ []) : lines text ≠ [] := by
  intro hl
  apply h
  rw [← concat_rawLines text, List.map_eq_nil_iff.1 hl]
  rfl

/-- A part that does not end with a newline reaches into one more line. -/
theorem newlines_lt_length {a : List Char} (h : ¬Whole a) (b : List Char) :
    newlines a < (lines (a ++ b)).length := by
  induction a using lineInduction with
  | last l hl =>
    have hne : l ++ b ≠ [] := by
      intro hnil
      apply h
      rw [(List.append_eq_nil_iff.1 hnil).1]
      exact whole_nil
    rw [newlines_of_notMem hl]
    exact List.length_pos_iff.2 (lines_ne_nil hne)
  | line l rest hl ih =>
    rw [whole_newline_iff] at h
    have hrest := ih h
    rw [List.append_assoc, List.cons_append, lines_newline hl, newlines_append,
      newlines_of_notMem hl, ← List.singleton_append, newlines_append, List.length_cons]
    have hone : newlines ['\n'] = 1 := rfl
    omega

lemma joinRaw_cons {l : Line} {ls : List Line} (h : ls ≠ []) :
    joinRaw (l :: ls) = l.full ++ joinRaw ls := by
  cases ls with
  | nil => exact absurd rfl h
  | cons m ls => rfl

@[simp] lemma concat_append (xs ys : List Line) : concat (xs ++ ys) = concat xs ++ concat ys := by
  simp [concat]

/-- Only the ending of the last line is left out. -/
lemma joinRaw_isPrefix (ls : List Line) : joinRaw ls <+: concat ls := by
  induction ls with
  | nil => exact List.prefix_rfl
  | cons l ls ih =>
    by_cases hne : ls = []
    · subst hne
      simp [joinRaw, Line.full]
    · rw [joinRaw_cons hne, concat_cons]
      exact (List.prefix_append_right_inj _).2 ih

/-- The newlines of a run of lines stand between its lines. -/
lemma newlines_joinRaw {text : List Char} (h : rawLines text ≠ []) :
    newlines (joinRaw (rawLines text)) + 1 = (rawLines text).length := by
  induction text using lineInduction with
  | last l hl =>
    have hne : l ≠ [] := by
      rintro rfl
      exact h rfl
    simp [rawLines_of_notMem hl, hne, joinRaw, newlines_of_notMem hl]
  | line l rest hl ih =>
    rw [rawLines_newline hl] at h ⊢
    by_cases hne : rawLines rest = []
    · have hbody : '\n' ∉ (ended l).body := fun hc => hl ((ended_body_isPrefix l).subset hc)
      simp [hne, joinRaw, newlines_of_notMem hbody]
    · have hone : newlines ['\n'] = 1 := rfl
      have hrest := ih hne
      rw [joinRaw_cons hne, ended_full, newlines_append, newlines_append, newlines_of_notMem hl,
        List.length_cons]
      omega

lemma not_whole_append (a : List Char) {b : List Char} (h : ¬Whole b) : ¬Whole (a ++ b) := by
  have hne : b ≠ [] := fun hnil => h (hnil ▸ whole_nil)
  intro hw
  apply h
  intro c hc
  apply hw c
  rwa [List.getLast?_append_of_ne_nil _ hne]

lemma not_whole_joinRaw {ls : List Line} (hne : ls ≠ [])
    (h : ∀ l ∈ ls, l.body ≠ [] ∧ '\n' ∉ l.body) : ¬Whole (joinRaw ls) := by
  induction ls with
  | nil => exact absurd rfl hne
  | cons l ls ih =>
    by_cases hnil : ls = []
    · subst hnil
      obtain ⟨hbody, hn⟩ := h l List.mem_cons_self
      exact fun hw => hbody (eq_nil_of_whole hw hn)
    · rw [joinRaw_cons hnil]
      exact not_whole_append _ (ih hnil fun m hm => h m (List.mem_cons_of_mem _ hm))

/-- Lines that have others below them are whole, with a newline for each. -/
lemma newlines_concat {text : List Char} {xs ys : List Line} (h : rawLines text = xs ++ ys)
    (hne : ys ≠ []) : newlines (concat xs) = xs.length := by
  obtain ⟨a, b, -, hab, ha, hb⟩ := exists_divides text xs.length
  rw [h, List.take_left] at ha
  rw [h, List.drop_left] at hb
  have hwhole : Whole a := by
    rcases hab with hw | rfl
    · exact hw
    · exact absurd hb.symm hne
  rw [← ha, concat_rawLines, newlines_eq_length hwhole]

/-- A run of lines that are not empty, and where it stands in the text. -/
theorem exists_joinRaw {text : List Char} {before block after : List Line}
    (h : rawLines text = before ++ block ++ after) (hne : block ≠ [])
    (hbody : ∀ l ∈ block, l.body ≠ []) :
    ∃ a b, text = a ++ joinRaw block ++ b ∧ newlines a = before.length ∧
      newlines (joinRaw block) + 1 = block.length ∧ ¬Whole (joinRaw block) := by
  obtain ⟨ending, hending⟩ := joinRaw_isPrefix block
  have htext : text = concat before ++ (concat block ++ concat after) := by
    rw [← concat_rawLines text, h]
    simp
  have hbefore : newlines (concat before) = before.length := by
    rw [List.append_assoc] at h
    exact newlines_concat h (by simp [hne])
  -- The run is what is left of the text up to its end once the lines above are taken away.
  obtain ⟨b, hb⟩ : ∃ b, rawLines b = block := by
    obtain ⟨x, -, -, -, hx, -⟩ := exists_divides text (before ++ block).length
    rw [h, List.take_left] at hx
    obtain ⟨-, b, -, -, -, hb⟩ := exists_divides x before.length
    rw [hx, List.drop_left] at hb
    exact ⟨b, hb⟩
  refine ⟨concat before, ending ++ concat after, ?_, hbefore, ?_, ?_⟩
  · rw [htext, ← hending]
    simp
  · rw [← hb] at hne ⊢
    exact newlines_joinRaw hne
  · refine not_whole_joinRaw hne fun l hl => ⟨hbody l hl, ?_⟩
    rw [← hb] at hl
    exact newline_notMem_of_mem_lines (List.mem_map_of_mem hl)

end Text
end Waymark
