import Waymark.Proofs.Text.Blank
import Waymark.Text.Lines

/-! Lines of a text: the text they give back, what a newline divides, and the normal form in which
the content of a doc comment is kept. -/
namespace Waymark
namespace Text

/-- The line that stands before a newline, with a carriage return counted to its ending. -/
def ended (l : List Char) : Line :=
  if l.getLast? = some '\r' then ⟨l.dropLast, ['\r', '\n']⟩ else ⟨l, ['\n']⟩

lemma ended_of_ne {l : List Char} (h : l.getLast? ≠ some '\r') : ended l = ⟨l, ['\n']⟩ :=
  if_neg h

lemma ended_concat_return (l : List Char) : ended (l ++ ['\r']) = ⟨l, ['\r', '\n']⟩ := by
  simp [ended]

@[simp] lemma ended_full (l : List Char) : (ended l).full = l ++ ['\n'] := by
  by_cases h : l.getLast? = some '\r'
  · obtain ⟨x, rfl⟩ := List.getLast?_eq_some_iff.1 h
    simp [ended_concat_return, Line.full]
  · simp [ended_of_ne h, Line.full]

lemma ended_cons (c : Char) (l : List Char) :
    ended (c :: l) = if c = '\r' ∧ ended l = ⟨[], ['\n']⟩ then ⟨[], ['\r', '\n']⟩
      else ⟨c :: (ended l).body, (ended l).ending⟩ := by
  cases l with
  | nil => by_cases hc : c = '\r' <;> simp [ended, hc]
  | cons d l =>
    have hne : ended (d :: l) ≠ ⟨[], ['\n']⟩ := by
      intro h
      have hf := congrArg Line.full h
      rw [ended_full] at hf
      simp [Line.full] at hf
    rw [if_neg (fun h => hne h.2)]
    by_cases h : (d :: l).getLast? = some '\r' <;> simp [ended, h]

@[simp] lemma rawLines_nil : rawLines [] = [] := rfl

@[simp] lemma lines_nil : lines [] = [] := rfl

@[simp] lemma concat_nil : concat [] = [] := rfl

/-- A newline ends the first line. -/
lemma rawLines_newline {l : List Char} (h : '\n' ∉ l) (rest : List Char) :
    rawLines (l ++ '\n' :: rest) = ended l :: rawLines rest := by
  induction l with
  | nil => simp [rawLines, ended]
  | cons c l ih =>
    obtain ⟨hc, hl⟩ := not_or.1 (fun hm => h (List.mem_cons.2 hm))
    rw [List.cons_append, rawLines, if_neg (Ne.symm hc), ih hl, ended_cons]
    dsimp only
    split_ifs <;> rfl

/-- Without a newline there is one line at most. -/
lemma rawLines_of_notMem {l : List Char} (h : '\n' ∉ l) :
    rawLines l = if l = [] then [] else [⟨l, []⟩] := by
  induction l with
  | nil => simp [rawLines]
  | cons c l ih =>
    obtain ⟨hc, hl⟩ := not_or.1 (fun hm => h (List.mem_cons.2 hm))
    rw [rawLines, if_neg (Ne.symm hc), ih hl]
    by_cases hn : l = [] <;> simp [hn]

/-- A text is a last line without newline, or a line, a newline and a text. -/
@[elab_as_elim]
theorem lineInduction {motive : List Char → Prop} (last : ∀ l, '\n' ∉ l → motive l)
    (line : ∀ l rest, '\n' ∉ l → motive rest → motive (l ++ '\n' :: rest)) (text : List Char) :
    motive text := by
  induction hn : text.length using Nat.strong_induction_on generalizing text with
  | _ n ih =>
    by_cases h : '\n' ∈ text
    · obtain ⟨l, rest, rfl, hl⟩ := List.eq_append_cons_of_mem h
      refine line l rest hl (ih rest.length ?_ rest rfl)
      simp only [← hn, List.length_append, List.length_cons]
      omega
    · exact last text h

@[simp] lemma concat_cons (l : Line) (ls : List Line) : concat (l :: ls) = l.full ++ concat ls := by
  simp [concat]

@[simp] theorem concat_rawLines (text : List Char) : concat (rawLines text) = text := by
  induction text using lineInduction with
  | last l h => by_cases hl : l = [] <;> simp [rawLines_of_notMem h, hl, Line.full]
  | line l rest h ih => simp [rawLines_newline h, ih]

/-- The first line begins as the text does. -/
lemma rawLines_append_plain {p : List Char} (hp : ∀ c ∈ p, c ≠ '\n' ∧ c ≠ '\r') (hne : p ≠ [])
    (text : List Char) :
    ∃ tail ending ls, rawLines (p ++ text) = ⟨p ++ tail, ending⟩ :: ls ∧
      tail ++ ending ++ concat ls = text := by
  induction p with
  | nil => exact absurd rfl hne
  | cons c p ih =>
    obtain ⟨hn, hr⟩ := hp c List.mem_cons_self
    rw [List.cons_append, rawLines, if_neg hn]
    have htext := concat_rawLines (p ++ text)
    cases hls : rawLines (p ++ text) with
    | nil =>
      simp only [hls, concat_nil, List.nil_eq, List.append_eq_nil_iff] at htext
      exact ⟨[], [], [], by simp [htext], by simp [htext]⟩
    | cons l ls =>
      dsimp only
      rw [if_neg fun h => hr h.1]
      by_cases hpnil : p = []
      · subst hpnil
        rw [hls, concat_cons] at htext
        exact ⟨l.body, l.ending, ls, rfl, htext⟩
      · obtain ⟨tail, ending, ms, hms, htail⟩ :=
          ih (fun d hd => hp d (List.mem_cons_of_mem _ hd)) hpnil
        rw [hls] at hms
        obtain ⟨rfl, rfl⟩ := List.cons.inj hms
        exact ⟨tail, ending, ls, rfl, htail⟩

/-- Whether a text is made of whole lines. -/
def Whole (text : List Char) : Prop :=
  ∀ c ∈ text.getLast?, c = '\n'

@[simp] lemma whole_nil : Whole [] := by simp [Whole]

lemma whole_concat_newline (l : List Char) : Whole (l ++ ['\n']) := by simp [Whole]

lemma whole_newline_iff (l rest : List Char) : Whole (l ++ '\n' :: rest) ↔ Whole rest := by
  cases rest with
  | nil => simp [Whole]
  | cons c cs => simp [Whole, List.getLast?_append]

lemma eq_nil_of_whole {l : List Char} (hw : Whole l) (h : '\n' ∉ l) : l = [] := by
  cases hl : l.getLast? with
  | none => simpa using hl
  | some c =>
    have hc := hw c hl
    exact absurd (List.mem_of_getLast? (hc ▸ hl)) h

/-- Whole lines can be read apart from what follows them. -/
theorem rawLines_append {a : List Char} (ha : Whole a) (b : List Char) :
    rawLines (a ++ b) = rawLines a ++ rawLines b := by
  induction a using lineInduction with
  | last l h => simp [eq_nil_of_whole ha h]
  | line l rest h ih =>
    rw [whole_newline_iff] at ha
    rw [List.append_assoc, List.cons_append, rawLines_newline h, rawLines_newline h, ih ha,
      List.cons_append]

lemma lines_append {a : List Char} (ha : Whole a) (b : List Char) :
    lines (a ++ b) = lines a ++ lines b := by
  simp [lines, rawLines_append ha]

lemma lines_newline {l : List Char} (h : '\n' ∉ l) (rest : List Char) :
    lines (l ++ '\n' :: rest) = (ended l).body :: lines rest := by
  simp [lines, rawLines_newline h]

lemma lines_of_notMem {l : List Char} (h : '\n' ∉ l) : lines l = if l = [] then [] else [l] := by
  by_cases hl : l = [] <;> simp [lines, rawLines_of_notMem h, hl]

lemma ended_body_isPrefix (l : List Char) : (ended l).body <+: l := by
  rw [ended]
  split
  · exact List.dropLast_prefix l
  · exact List.prefix_rfl

/-- A line is the head of a part of the text without newlines. -/
lemma exists_of_mem_lines {text l : List Char} (hl : l ∈ lines text) :
    ∃ m, l <+: m ∧ m <:+: text ∧ '\n' ∉ m := by
  induction text using lineInduction with
  | last m h =>
    rw [lines_of_notMem h] at hl
    split at hl
    · simp at hl
    · obtain rfl := List.mem_singleton.1 hl
      exact ⟨l, List.prefix_rfl, List.infix_rfl, h⟩
  | line m rest h ih =>
    rw [lines_newline h] at hl
    rcases List.mem_cons.1 hl with rfl | hl
    · exact ⟨m, ended_body_isPrefix m, (List.prefix_append m _).isInfix, h⟩
    · obtain ⟨x, hx, hi, hn⟩ := ih hl
      exact ⟨x, hx, hi.trans ((List.suffix_cons _ _).trans (List.suffix_append _ _)).isInfix, hn⟩

lemma newline_notMem_of_mem_lines {text l : List Char} (hl : l ∈ lines text) : '\n' ∉ l := by
  obtain ⟨m, hm, -, hn⟩ := exists_of_mem_lines hl
  exact fun hc => hn (hm.subset hc)

lemma isInfix_of_mem_lines {text l : List Char} (hl : l ∈ lines text) : l <:+: text := by
  obtain ⟨m, hm, hi, -⟩ := exists_of_mem_lines hl
  exact hm.isInfix.trans hi

/-- Whole lines have one newline each. -/
lemma newlines_eq_length {a : List Char} (ha : Whole a) : newlines a = (rawLines a).length := by
  induction a using lineInduction with
  | last l h => simp [eq_nil_of_whole ha h, newlines]
  | line l rest h ih =>
    rw [whole_newline_iff] at ha
    have hz : l.count '\n' = 0 := List.count_eq_zero.2 h
    have hr := ih ha
    simp only [newlines] at hr
    simp [rawLines_newline h, newlines, hz, hr]

lemma wholeLines_append_lastLine (text : List Char) : wholeLines text ++ lastLine text = text :=
  List.rdropWhile_append_rtakeWhile

lemma wholeLines_of_notMem {l : List Char} (h : '\n' ∉ l) : wholeLines l = [] := by
  rw [wholeLines, dropEndWhile_eq_rdropWhile, List.rdropWhile_eq_nil_iff]
  intro c hc
  simpa using fun he : c = '\n' => h (he ▸ hc)

lemma lastLine_of_notMem {l : List Char} (h : '\n' ∉ l) : lastLine l = l := by
  have := wholeLines_append_lastLine l
  rwa [wholeLines_of_notMem h] at this

lemma wholeLines_append {a : List Char} (ha : Whole a) (x : List Char) :
    wholeLines (a ++ x) = a ++ wholeLines x := by
  by_cases hx : '\n' ∈ x
  · exact dropEndWhile_append_of_neg a ⟨'\n', hx, by simp⟩
  · rw [wholeLines_of_notMem hx, List.append_nil, wholeLines, dropEndWhile_append_of_pos,
      dropEndWhile_eq_self_iff]
    · intro c hc
      simpa using ha c hc
    · intro c hc
      simpa using fun he : c = '\n' => hx (he ▸ hc)

lemma lastLine_append {a : List Char} (ha : Whole a) (x : List Char) :
    lastLine (a ++ x) = lastLine x := by
  have h := wholeLines_append_lastLine (a ++ x)
  conv_rhs at h => rw [← wholeLines_append_lastLine x]
  rw [wholeLines_append ha, List.append_assoc] at h
  exact List.append_cancel_left (List.append_cancel_left h)

/-- Without a newline at the end, the lines put together are the text. -/
lemma joinRaw_rawLines {text : List Char} (h : text.getLast? ≠ some '\n') :
    joinRaw (rawLines text) = text := by
  induction text using lineInduction with
  | last l hl => by_cases hn : l = [] <;> simp [rawLines_of_notMem hl, hn, joinRaw]
  | line l rest hl ih =>
    have hne : rest ≠ [] := by
      rintro rfl
      simp at h
    have hrest : rest.getLast? ≠ some '\n' := by
      rwa [List.getLast?_append_cons, List.getLast?_cons_of_ne_nil hne] at h
    rw [rawLines_newline hl]
    cases hr : rawLines rest with
    | nil =>
      have := concat_rawLines rest
      simp [hr, hne.symm] at this
    | cons m ms =>
      rw [joinRaw, ← hr, ih hrest]
      · simp
      · simp

@[simp] lemma joinWith_nil (sep : Char) : joinWith sep [] = [] := rfl

@[simp] lemma joinWith_singleton (sep : Char) (l : List Char) : joinWith sep [l] = l := by
  simp [joinWith, List.intercalate]

lemma joinWith_cons_cons (sep : Char) (l m : List Char) (ls : List (List Char)) :
    joinWith sep (l :: m :: ls) = l ++ sep :: joinWith sep (m :: ls) := by
  simp [joinWith, List.intercalate]

/-- All lines but the last are read back whatever follows. -/
lemma lines_joinWith_append {ls : List (List Char)} (hne : ls ≠ [])
    (h : ∀ l ∈ ls, '\n' ∉ l ∧ l.getLast? ≠ some '\r') (rest : List Char) :
    lines (joinWith '\n' ls ++ rest) = ls.dropLast ++ lines (ls.getLast hne ++ rest) := by
  induction ls with
  | nil => exact absurd rfl hne
  | cons l ls ih =>
    obtain ⟨hn, hr⟩ := h l List.mem_cons_self
    cases ls with
    | nil => simp
    | cons m ls =>
      rw [joinWith_cons_cons, List.append_assoc, List.cons_append, lines_newline hn,
        ended_of_ne hr, ih (by simp) fun x hx => h x (List.mem_cons_of_mem _ hx)]
      rfl

/-- Lines joined with newlines are read back, if none is taken for two or for none. -/
theorem lines_joinWith {ls : List (List Char)}
    (h : ∀ l ∈ ls, '\n' ∉ l ∧ l.getLast? ≠ some '\r') (hlast : ls.getLast? ≠ some []) :
    lines (joinWith '\n' ls) = ls := by
  by_cases hne : ls = []
  · subst hne
    rfl
  · have hl : ls.getLast hne ≠ [] := by
      rwa [List.getLast?_eq_some_getLast hne, ne_eq, Option.some.injEq] at hlast
    have hn := (h _ (List.getLast_mem hne)).1
    have happ := lines_joinWith_append hne h []
    rwa [List.append_nil, List.append_nil, lines_of_notMem hn, if_neg hl,
      List.dropLast_append_getLast] at happ

lemma lines_joinWith_newline {ls : List (List Char)} (hne : ls ≠ [])
    (h : ∀ l ∈ ls, '\n' ∉ l ∧ l.getLast? ≠ some '\r') :
    lines (joinWith '\n' ls ++ ['\n']) = ls := by
  obtain ⟨hn, hr⟩ := h _ (List.getLast_mem hne)
  rw [lines_joinWith_append hne h, lines_newline hn, ended_of_ne hr, lines_nil,
    List.dropLast_append_getLast]

lemma joinWith_ne_nil {ls : List (List Char)} (hne : ls ≠ []) (hlast : ls.getLast? ≠ some []) :
    joinWith '\n' ls ≠ [] := by
  match ls with
  | [] => exact absurd rfl hne
  | [l] => simpa using hlast
  | l :: m :: ls => simp [joinWith_cons_cons]

lemma joinWith_getLast? {ls : List (List Char)} (h : ∀ l ∈ ls, '\n' ∉ l)
    (hlast : ls.getLast? ≠ some []) : (joinWith '\n' ls).getLast? ≠ some '\n' := by
  induction ls with
  | nil => simp
  | cons l ls ih =>
    cases ls with
    | nil =>
      intro hc
      rw [joinWith_singleton] at hc
      exact h l List.mem_cons_self (List.mem_of_getLast? hc)
    | cons m ls =>
      have hlast' : (m :: ls).getLast? ≠ some [] := by simpa using hlast
      have hj := joinWith_ne_nil (List.cons_ne_nil m ls) hlast'
      rw [joinWith_cons_cons, List.getLast?_append_cons, List.getLast?_cons_of_ne_nil hj]
      exact ih (fun x hx => h x (List.mem_cons_of_mem _ hx)) hlast'

/-- Lines as the content of a doc comment has them: no blank space at their ends, and none of them
empty at either end of the list. -/
structure Normal (ls : List (List Char)) : Prop where
  line : ∀ l ∈ ls, '\n' ∉ l ∧ trimEnd l = l
  first : ls.head? ≠ some []
  last : ls.getLast? ≠ some []

/-- The lines that `normalize` joins. -/
def normalLines (ls : List (List Char)) : List (List Char) :=
  dropEndWhile List.isEmpty ((ls.map trimEnd).dropWhile List.isEmpty)

lemma normalize_eq (ls : List (List Char)) : normalize ls = joinWith '\n' (normalLines ls) := rfl

lemma mem_normalLines {ls : List (List Char)} {l : List Char} (h : l ∈ normalLines ls) :
    ∃ m ∈ ls, l = trimEnd m := by
  have hl := (List.dropWhile_sublist _).subset (mem_of_mem_dropEndWhile h)
  obtain ⟨m, hm, rfl⟩ := List.mem_map.1 hl
  exact ⟨m, hm, rfl⟩

lemma normal_normalLines {ls : List (List Char)} (h : ∀ l ∈ ls, '\n' ∉ l) :
    Normal (normalLines ls) where
  line l hl := by
    obtain ⟨m, hm, rfl⟩ := mem_normalLines hl
    exact ⟨fun hc => h m hm ((trimEnd_isPrefix m).subset hc), trimEnd_trimEnd m⟩
  first hc := by
    -- What is kept starts where the first line that is not empty starts.
    obtain ⟨t, ht⟩ := dropEndWhile_isPrefix List.isEmpty ((ls.map trimEnd).dropWhile List.isEmpty)
    have hh : ((ls.map trimEnd).dropWhile List.isEmpty).head? = some [] := by
      rw [← ht, ← normalLines, List.head?_append, hc, Option.some_or]
    have := List.head?_dropWhile_not List.isEmpty (ls.map trimEnd)
    rw [hh] at this
    simp at this
  last hc := by
    have := getLast?_dropEndWhile _ _ _ hc
    simp at this

lemma Normal.normalLines_eq {ls : List (List Char)} (h : Normal ls) : normalLines ls = ls := by
  have hm : ls.map trimEnd = ls := by
    rw [List.map_congr_left fun l hl => (h.line l hl).2]
    simp
  have hd : ls.dropWhile List.isEmpty = ls := by
    cases ls with
    | nil => rfl
    | cons l ls =>
      have hl : l ≠ [] := fun hc => h.first (by simp [hc])
      simp [hl]
  rw [normalLines, hm, hd, dropEndWhile_eq_self_iff]
  intro l hl
  have hne : l ≠ [] := fun hc => h.last (hc ▸ hl)
  simpa using hne

lemma Normal.lines_joinWith {ls : List (List Char)} (h : Normal ls) :
    lines (joinWith '\n' ls) = ls :=
  Text.lines_joinWith
    (fun l hl => ⟨(h.line l hl).1, getLast?_ne_return (h.line l hl).2⟩) h.last

/-- Empty lines at both ends do not count. -/
lemma normalize_between (ls : List (List Char)) {x y : List Char} (hx : isBlankText x = true)
    (hy : isBlankText y = true) : normalize (x :: ls ++ [y]) = normalize ls := by
  have hd : (x :: ls ++ [y]).map trimEnd = [] :: ls.map trimEnd ++ [[]] := by
    simp [trimEnd_eq_nil_iff.2 hx, trimEnd_eq_nil_iff.2 hy]
  rw [normalize_eq, normalize_eq, normalLines, normalLines, hd, List.cons_append,
    List.dropWhile_cons_of_pos rfl, List.dropWhile_append]
  split
  · rename_i h
    rw [List.isEmpty_iff.1 h]
    rfl
  · rw [dropEndWhile_append_of_pos _ (by simp)]

/-- A text in the form that `normalize` gives. -/
structure IsContent (c : List Char) : Prop where
  normal : Normal (lines c)
  join : joinWith '\n' (lines c) = c

lemma lines_normalize {ls : List (List Char)} (h : ∀ l ∈ ls, '\n' ∉ l) :
    lines (normalize ls) = normalLines ls :=
  (normal_normalLines h).lines_joinWith

theorem isContent_normalize {ls : List (List Char)} (h : ∀ l ∈ ls, '\n' ∉ l) :
    IsContent (normalize ls) := by
  constructor
  · rw [lines_normalize h]
    exact normal_normalLines h
  · rw [lines_normalize h, normalize_eq]

theorem IsContent.normalize_lines {c : List Char} (h : IsContent c) : normalize (lines c) = c := by
  rw [normalize_eq, h.normal.normalLines_eq, h.join]

lemma IsContent.lines_ne_nil {c : List Char} (h : IsContent c) (hc : c ≠ []) : lines c ≠ [] := by
  intro hl
  have := h.join
  simp [hl, hc.symm] at this

/-- Content has no other first character than its first line. -/
lemma IsContent.head?_eq {c l : List Char} {ls : List (List Char)} (h : IsContent c)
    (hl : lines c = l :: ls) : c.head? = l.head? := by
  have hne : l ≠ [] := fun hc => h.normal.first (by simp [hl, hc])
  rw [← h.join, hl]
  cases ls with
  | nil => simp
  | cons m ls => rw [joinWith_cons_cons, List.head?_append_of_ne_nil _ hne]

/-- A newline at the end of a content makes no further line. -/
lemma IsContent.lines_newline {c : List Char} (h : IsContent c) (hne : c ≠ []) :
    lines (c ++ ['\n']) = lines c := by
  conv_lhs => rw [← h.join]
  exact lines_joinWith_newline (h.lines_ne_nil hne)
    fun l hl => ⟨(h.normal.line l hl).1, getLast?_ne_return (h.normal.line l hl).2⟩

/-- The number of characters of the lines, each with a newline. -/
def volume : List (List Char) → Nat
  | [] => 0
  | l :: ls => l.length + 1 + volume ls

@[simp] lemma volume_nil : volume [] = 0 := rfl

@[simp] lemma volume_cons (l : List Char) (ls : List (List Char)) :
    volume (l :: ls) = l.length + 1 + volume ls := rfl

lemma length_joinWith (ls : List (List Char)) : (joinWith '\n' ls).length = volume ls - 1 := by
  induction ls with
  | nil => rfl
  | cons l ls ih =>
    cases ls with
    | nil => simp
    | cons m ls =>
      rw [joinWith_cons_cons, List.length_append, List.length_cons, ih]
      simp only [volume_cons]
      omega

lemma volume_le_of_sublist {ls ms : List (List Char)} (h : ls.Sublist ms) :
    volume ls ≤ volume ms := by
  induction h with
  | slnil => rfl
  | cons m _ ih =>
    rw [volume_cons]
    omega
  | cons_cons m _ ih =>
    rw [volume_cons, volume_cons]
    omega

section Map

variable {f : List Char → List Char} (hf : ∀ l, (f l).length ≤ l.length)
include hf

lemma volume_map_le (ls : List (List Char)) : volume (ls.map f) ≤ volume ls := by
  induction ls with
  | nil => rfl
  | cons l ls ih =>
    have := hf l
    rw [List.map_cons, volume_cons, volume_cons]
    omega

lemma volume_map_lt {ls : List (List Char)} {l : List Char} (hl : l ∈ ls)
    (hlt : (f l).length < l.length) : volume (ls.map f) < volume ls := by
  induction ls with
  | nil => simp at hl
  | cons m ls ih =>
    rw [List.map_cons, volume_cons, volume_cons]
    rcases List.mem_cons.1 hl with rfl | hl
    · have := volume_map_le hf ls
      omega
    · have := ih hl
      have := hf m
      omega

end Map

lemma length_normalize_le (ls : List (List Char)) : (normalize ls).length ≤ volume ls - 1 := by
  have hs : (normalLines ls).Sublist (ls.map trimEnd) :=
    (dropEndWhile_isPrefix _ _).sublist.trans (List.dropWhile_sublist _)
  have hv := volume_le_of_sublist hs
  have ht := volume_map_le (f := trimEnd) (fun l => (trimEnd_isPrefix l).length_le) ls
  rw [normalize_eq, length_joinWith]
  omega

lemma volume_lines_le (text : List Char) : volume (lines text) ≤ text.length + 1 := by
  induction text using lineInduction with
  | last l h => by_cases hl : l = [] <;> simp [lines_of_notMem h, hl]
  | line l rest h ih =>
    have := (ended_body_isPrefix l).length_le
    rw [Text.lines_newline h, volume_cons, List.length_append, List.length_cons]
    omega

end Text
end Waymark
