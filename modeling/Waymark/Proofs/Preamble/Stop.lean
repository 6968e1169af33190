import Waymark.Insertion
import Waymark.Proofs.Preamble.Attribute
import Waymark.Proofs.Text.Insert

/-! Where the preamble stops is decided by its own lines: the first line below it can be any line
that a preamble cannot take in, and what follows that line does not matter. -/
namespace Waymark
namespace Preamble

open Text

/-- The line at which front matter can open. -/
def cursor (ls : List (List Char)) : Nat :=
  if ls.head?.any isShebang then 1 else 0

/-- The line at which directives can begin, below an interpreter line and front matter. -/
def directivesStart? (ls : List (List Char)) : Option Nat :=
  match FrontMatter.scan ls (cursor ls) with
  | .absent => some (cursor ls)
  | .closed next => some next
  | .unterminated => none

lemma endOf_eq_map (language : Language) (ls : List (List Char)) :
    endOf language ls = (directivesStart? ls).map (skipDirectives language ls) := by
  unfold endOf directivesStart?
  change (match FrontMatter.scan ls (cursor ls) with
    | .absent => some (skipDirectives language ls (cursor ls))
    | .closed next => some (skipDirectives language ls next)
    | .unterminated => none) = _
  cases FrontMatter.scan ls (cursor ls) <;> rfl

/-- The number of directive lines at the head of lines that begin with line `start` of a file. -/
def directiveLines (language : Language) (start : Nat) (ms : List (List Char)) : Nat :=
  match language with
  | .rust => attributeLines none ms
  | .go => buildTagLines ms
  | .python => ((ms.take (encodingLines - start)).takeWhile isEncoding).length
  | l => (ms.takeWhile (isDirective l)).length

lemma skipDirectives_eq_add (language : Language) (ls : List (List Char)) (start : Nat) :
    skipDirectives language ls start = start + directiveLines language start (ls.drop start) := by
  cases language with
  | python => rw [skipDirectives, runEnd, List.drop_take, directiveLines]
  | _ => rfl

/-- A line that no preamble of the language takes in. -/
structure IsBody (language : Language) (x : List Char) : Prop where
  shown : isBlankText x = false
  shebang : isShebang x = false
  delimiter : FrontMatter.delimiters.contains (trimEnd x) = false
  directive : isDirective language x = false

section Directives

lemma buildTagLines_le (ms : List (List Char)) : buildTagLines ms ≤ ms.length := by
  have hle := (List.takeWhile_sublist isBuildTag (l := ms)).length_le
  unfold buildTagLines
  dsimp only
  split
  · rename_i h
    obtain ⟨l, hl, -⟩ := (Option.any_eq_true _ _).1 h.2
    exact (List.getElem?_eq_some_iff.1 hl).1
  · exact hle

lemma directiveLines_le (language : Language) (start : Nat) (ms : List (List Char)) :
    directiveLines language start ms ≤ ms.length := by
  have hrun : ∀ p : List Char → Bool, (ms.takeWhile p).length ≤ ms.length :=
    fun p => (List.takeWhile_sublist p).length_le
  cases language with
  | rust => exact attributeLines_le none ms
  | go => exact buildTagLines_le ms
  | python =>
    exact ((List.takeWhile_sublist isEncoding).trans (List.take_sublist _ ms)).length_le
  | _ => exact hrun _

lemma directiveLines_map_trimEnd (language : Language) (start : Nat) (ms : List (List Char)) :
    directiveLines language start (ms.map trimEnd) = directiveLines language start ms := by
  have hrun : ∀ {p : List Char → Bool}, IgnoresEnd p → ∀ ns : List (List Char),
      ((ns.map trimEnd).takeWhile p).length = (ns.takeWhile p).length := by
    intro p hp ns
    have hcomp : p ∘ trimEnd = p := funext hp.trimEnd
    rw [List.takeWhile_map, hcomp, List.length_map]
  cases language with
  | rust => exact attributeLines_map_trimEnd none ms
  | go =>
    simp only [directiveLines, buildTagLines, hrun ignoresEnd_isBuildTag, List.getElem?_map,
      Option.any_map, ignoresEnd_isBlankText.trimEnd]
  | python =>
    simp only [directiveLines, ← List.map_take, hrun ignoresEnd_isEncoding]
  | _ => exact hrun (ignoresEnd_isDirective _) ms

variable {x : List Char}

/-- A run of lines ends at a line that does not belong to it. -/
lemma takeWhile_append_of_head {p : List Char → Bool} {ds rest : List (List Char)}
    (hds : ∀ d ∈ ds, p d = true) (hrest : ∀ l ∈ rest.head?, p l = false) :
    (ds ++ rest).takeWhile p = ds := by
  cases rest with
  | nil => rw [List.append_nil, List.takeWhile_eq_self_iff.2 hds]
  | cons l rest =>
    have hl : p l = false := hrest l rfl
    rw [List.takeWhile_append_of_pos hds, List.takeWhile_cons_of_neg (by simp [hl]),
      List.append_nil]

/-- Constraints above a line that is none, which counts when it is blank. -/
lemma buildTagLines_append {tags rest : List (List Char)}
    (htags : ∀ t ∈ tags, isBuildTag t = true) (hrest : ∀ l ∈ rest.head?, isBuildTag l = false) :
    buildTagLines (tags ++ rest) =
      if 0 < tags.length ∧ rest.head?.any isBlankText then tags.length + 1 else tags.length := by
  have hhead : (tags ++ rest)[tags.length]? = rest.head? := by
    rw [List.getElem?_append_right (Nat.le_refl _), Nat.sub_self, List.head?_eq_getElem?]
  rw [buildTagLines, takeWhile_append_of_head htags hrest, hhead]

lemma buildTagLines_take_append (ms : List (List Char)) (hblank : isBlankText x = false)
    (hx : isBuildTag x = false) (rest : List (List Char)) :
    buildTagLines (ms.take (buildTagLines ms) ++ x :: rest) = buildTagLines ms := by
  obtain ⟨tags, below, rfl, htags, hbelow⟩ : ∃ tags below, ms = tags ++ below ∧
      (∀ t ∈ tags, isBuildTag t = true) ∧ ∀ l ∈ below.head?, isBuildTag l = false := by
    refine ⟨_, _, (List.takeWhile_append_dropWhile (p := isBuildTag)).symm,
      fun t => List.mem_takeWhile_imp, fun l hl => ?_⟩
    have hhead := List.head?_dropWhile_not isBuildTag ms
    rw [Option.mem_def.1 hl] at hhead
    simpa using hhead
  rw [buildTagLines_append htags hbelow]
  split
  · -- The blank line below the constraints belongs to the preamble and stays.
    rename_i h
    obtain ⟨b, hb, hbb⟩ := (Option.any_eq_true _ _).1 h.2
    obtain ⟨below, rfl⟩ := List.head?_eq_some_iff.1 hb
    have hlist : (tags ++ b :: below).take (tags.length + 1) ++ x :: rest =
        tags ++ (b :: x :: rest) := by
      rw [List.append_cons tags b below, List.take_left' (by simp)]
      simp
    rw [hlist, buildTagLines_append htags (by simpa using hbelow)]
    exact if_pos ⟨h.1, by simpa using hbb⟩
  · rw [List.take_left, buildTagLines_append htags (by simpa using hx)]
    exact if_neg fun h => by simp [hblank] at h

/-- The directives at the head of some lines decide how many there are. A Rust attribute that is
never closed takes in all lines, so there a line must be left over. -/
theorem directiveLines_take_append {language : Language} {start : Nat} {ms : List (List Char)}
    (hrust : language = .rust → directiveLines language start ms < ms.length)
    (hblank : isBlankText x = false) (hx : isDirective language x = false)
    (rest : List (List Char)) :
    directiveLines language start (ms.take (directiveLines language start ms) ++ x :: rest) =
      directiveLines language start ms := by
  have hrun : ∀ p : List Char → Bool, p x = false →
      ((ms.take (ms.takeWhile p).length ++ x :: rest).takeWhile p).length =
        (ms.takeWhile p).length := by
    intro p hp
    rw [← List.prefix_iff_eq_take.1 (List.takeWhile_prefix p),
      takeWhile_append_of_head (fun d => List.mem_takeWhile_imp) (by simpa using hp)]
  cases language with
  | rust => exact attributeLines_take_append (hrust rfl) hx rest
  | go => exact buildTagLines_take_append ms hblank hx rest
  | python =>
    have hpre := (List.takeWhile_prefix isEncoding).trans
      (List.take_prefix (encodingLines - start) ms)
    have hlen : ((ms.take (encodingLines - start)).takeWhile isEncoding).length ≤
        encodingLines - start :=
      (List.takeWhile_sublist isEncoding).length_le.trans (List.length_take_le _ ms)
    have hhead : ∀ n, ∀ l ∈ ((x :: rest).take n).head?, isEncoding l = false := by
      intro n l hl
      cases n with
      | zero => simp at hl
      | succ n =>
        obtain rfl : x = l := by simpa using hl
        exact hx
    simp only [directiveLines]
    rw [← List.prefix_iff_eq_take.1 hpre, List.take_append, List.take_of_length_le hlen,
      takeWhile_append_of_head (fun d => List.mem_takeWhile_imp) (hhead _)]
  | _ => exact hrun _ hx

end Directives

section Start

lemma cursor_le (ls : List (List Char)) : cursor ls ≤ ls.length := by
  cases ls with
  | nil => decide
  | cons l ls =>
    unfold cursor
    split <;> simp

lemma scan_eq_absent_iff {ls : List (List Char)} {start : Nat} :
    FrontMatter.scan ls start = .absent ↔
      ∀ l ∈ (ls.drop start).head?, FrontMatter.delimiters.contains (trimEnd l) = false := by
  unfold FrontMatter.scan
  cases ls.drop start with
  | nil => simp
  | cons d rest =>
    simp only [List.map_cons, List.head?_cons, Option.mem_def, Option.some.injEq, forall_eq']
    split
    · rename_i h
      rw [h]
      split <;> simp
    · rename_i h
      simpa using h

lemma scan_eq_closed_iff {ls : List (List Char)} {start next : Nat} :
    FrontMatter.scan ls start = .closed next ↔ ∃ d ds i, ls.drop start = d :: ds ∧
      FrontMatter.delimiters.contains (trimEnd d) = true ∧
      ds.findIdx? (fun l => trimEnd l == trimEnd d) = some i ∧ next = start + 1 + i + 1 := by
  unfold FrontMatter.scan
  cases ls.drop start with
  | nil => simp
  | cons d ds =>
    simp only [List.map_cons, List.findIdx?_map, List.cons.injEq]
    split
    · rename_i h
      cases hi : ds.findIdx? ((· == trimEnd d) ∘ trimEnd) with
      | none =>
        simp only [reduceCtorEq, false_iff]
        rintro ⟨_, _, i, ⟨rfl, rfl⟩, -, hfind, -⟩
        have hnone : none = some i := hi.symm.trans hfind
        cases hnone
      | some i =>
        simp only [FrontMatter.closed.injEq]
        constructor
        · rintro rfl
          exact ⟨d, ds, i, ⟨rfl, rfl⟩, h, hi, rfl⟩
        · rintro ⟨_, _, j, ⟨rfl, rfl⟩, -, hfind, rfl⟩
          have hij : some i = some j := hi.symm.trans hfind
          rw [Option.some.inj hij]
    · rename_i h
      simp only [reduceCtorEq, false_iff]
      rintro ⟨_, _, i, ⟨rfl, rfl⟩, hd, -⟩
      exact h hd

lemma directivesStart?_le {ls : List (List Char)} {s : Nat} (h : directivesStart? ls = some s) :
    cursor ls ≤ s ∧ s ≤ ls.length := by
  unfold directivesStart? at h
  split at h
  · obtain rfl := Option.some.inj h
    exact ⟨Nat.le_refl _, cursor_le ls⟩
  · rename_i next hclosed
    obtain rfl := Option.some.inj h
    obtain ⟨d, ds, i, hdrop, -, hfind, rfl⟩ := scan_eq_closed_iff.1 hclosed
    have hi : i < ds.length := (List.findIdx?_eq_some_iff_getElem.1 hfind).1
    have hlen := congrArg List.length hdrop
    rw [List.length_drop, List.length_cons] at hlen
    omega
  · cases h

variable {ls : List (List Char)} {k : Nat} {x : List Char}

lemma drop_take_append {start : Nat} (hs : start ≤ k) (hk : k ≤ ls.length)
    (tail : List (List Char)) :
    (ls.take k ++ tail).drop start = (ls.drop start).take (k - start) ++ tail := by
  have hlen : start ≤ (ls.take k).length := by
    rw [List.length_take]
    omega
  rw [List.drop_append_of_le_length hlen, List.drop_take]

lemma cursor_take_append (hk : cursor ls ≤ k) (hx : isShebang x = false)
    (rest : List (List Char)) : cursor (ls.take k ++ x :: rest) = cursor ls := by
  cases ls with
  | nil => simp [cursor, hx]
  | cons l ls =>
    cases k with
    | zero =>
      rw [Nat.eq_zero_of_le_zero hk]
      simp [cursor, hx]
    | succ k => rfl

lemma scan_absent_take_append {start : Nat} (h : FrontMatter.scan ls start = .absent)
    (hs : start ≤ k) (hk : k ≤ ls.length)
    (hx : FrontMatter.delimiters.contains (trimEnd x) = false) (rest : List (List Char)) :
    FrontMatter.scan (ls.take k ++ x :: rest) start = .absent := by
  rw [scan_eq_absent_iff] at h ⊢
  rw [drop_take_append hs hk]
  intro l hl
  cases hm : (ls.drop start).take (k - start) with
  | nil =>
    obtain rfl : x = l := by simpa [hm] using hl
    exact hx
  | cons d ds =>
    obtain rfl : d = l := by simpa [hm] using hl
    obtain ⟨t, ht⟩ := List.take_prefix (k - start) (ls.drop start)
    exact h d (by rw [← ht, hm]; rfl)

/-- The closing delimiter is found again, above the stop. -/
lemma scan_closed_take_append {start next : Nat} (h : FrontMatter.scan ls start = .closed next)
    (hn : next ≤ k) (hk : k ≤ ls.length) (rest : List (List Char)) :
    FrontMatter.scan (ls.take k ++ rest) start = .closed next := by
  obtain ⟨d, ds, i, hdrop, hd, hfind, rfl⟩ := scan_eq_closed_iff.1 h
  have hlen := congrArg List.length hdrop
  rw [List.length_drop, List.length_cons] at hlen
  obtain ⟨n, hkn⟩ : ∃ n, k = start + 1 + n := ⟨k - start - 1, by omega⟩
  have htake : (ds.take n).findIdx? (fun l => trimEnd l == trimEnd d) = some i := by
    -- The index lies above the stop, so it cannot come from the lines that are cut off.
    rw [← List.take_append_drop n ds, List.findIdx?_append, Option.or_eq_some_iff] at hfind
    rcases hfind with hfind | ⟨-, hfind⟩
    · exact hfind
    · obtain ⟨j, -, hj⟩ := Option.map_eq_some_iff.1 hfind
      rw [List.length_take] at hj
      omega
  refine scan_eq_closed_iff.2 ⟨d, ds.take n ++ rest, i, ?_, hd, ?_, rfl⟩
  · rw [drop_take_append (by omega) hk, hdrop, hkn, Nat.add_assoc, Nat.add_sub_cancel_left,
      Nat.add_comm 1 n]
    rfl
  · rw [List.findIdx?_append, htake, Option.some_or]

lemma directivesStart?_take_append {s : Nat} (h : directivesStart? ls = some s) (hs : s ≤ k)
    (hk : k ≤ ls.length) (hshebang : isShebang x = false)
    (hdelimiter : FrontMatter.delimiters.contains (trimEnd x) = false)
    (rest : List (List Char)) : directivesStart? (ls.take k ++ x :: rest) = some s := by
  have hcs := (directivesStart?_le h).1
  have hcursor := cursor_take_append (hcs.trans hs) hshebang rest
  unfold directivesStart? at h ⊢
  rw [hcursor]
  split at h
  · rename_i habsent
    rw [scan_absent_take_append habsent (hcs.trans hs) hk hdelimiter]
    exact h
  · rename_i next hclosed
    obtain rfl := Option.some.inj h
    rw [scan_closed_take_append hclosed hs hk]
  · cases h

end Start

section Stop

variable {language : Language} {ls : List (List Char)} {k : Nat}

lemma endOf_eq_some_iff : endOf language ls = some k ↔ ∃ s, directivesStart? ls = some s ∧
    k = s + directiveLines language s (ls.drop s) := by
  rw [endOf_eq_map, Option.map_eq_some_iff]
  simp only [skipDirectives_eq_add, eq_comm]

/-- The preamble ends among the lines or below the last one. -/
theorem endOf_le_length (hk : endOf language ls = some k) : k ≤ ls.length := by
  obtain ⟨s, hs, rfl⟩ := endOf_eq_some_iff.1 hk
  have hle := directiveLines_le language s (ls.drop s)
  have := (directivesStart?_le hs).2
  rw [List.length_drop] at hle
  omega

/-- The lines of the preamble decide where it ends. -/
theorem endOf_take_append (hk : endOf language ls = some k)
    (hrust : language = .rust → k < ls.length) {x : List Char} (hx : IsBody language x)
    (rest : List (List Char)) : endOf language (ls.take k ++ x :: rest) = some k := by
  have hle := endOf_le_length hk
  obtain ⟨s, hs, rfl⟩ := endOf_eq_some_iff.1 hk
  have hsle : s ≤ s + directiveLines language s (ls.drop s) := Nat.le_add_right _ _
  have hlt : language = .rust → directiveLines language s (ls.drop s) < (ls.drop s).length := by
    intro hl
    have := hrust hl
    rw [List.length_drop]
    omega
  refine endOf_eq_some_iff.2
    ⟨s, directivesStart?_take_append hs hsle hle hx.shebang hx.delimiter rest, ?_⟩
  rw [drop_take_append hsle hle, Nat.add_sub_cancel_left,
    directiveLines_take_append hlt hx.shown hx.directive]

end Stop

section Blank

/-- The preamble depends on its lines up to blank space at their ends. -/
lemma endOf_map_trimEnd (language : Language) (ls : List (List Char)) :
    endOf language (ls.map trimEnd) = endOf language ls := by
  have hcursor : cursor (ls.map trimEnd) = cursor ls := by
    have hhead : (ls.map trimEnd).head?.any isShebang = ls.head?.any isShebang := by
      cases ls with
      | nil => rfl
      | cons l ls => exact ignoresEnd_isShebang.trimEnd l
    rw [cursor, cursor, hhead]
  have hscan : ∀ n, FrontMatter.scan (ls.map trimEnd) n = FrontMatter.scan ls n := by
    intro n
    have ht : (trimEnd ∘ trimEnd : List Char → List Char) = trimEnd := by
      funext l
      exact trimEnd_trimEnd l
    rw [FrontMatter.scan, FrontMatter.scan, ← List.map_drop, List.map_map, ht]
  have hstart : directivesStart? (ls.map trimEnd) = directivesStart? ls := by
    rw [directivesStart?, directivesStart?, hcursor, hscan]
  have hskip : ∀ n, skipDirectives language (ls.map trimEnd) n = skipDirectives language ls n := by
    intro n
    rw [skipDirectives_eq_add, skipDirectives_eq_add, ← List.map_drop, directiveLines_map_trimEnd]
  rw [endOf_eq_map, endOf_eq_map, hstart]
  exact congrArg (Option.map · _) (funext hskip)

/-- Texts whose lines differ in blank space at their ends have the same preamble. -/
lemma endOf_congr {language : Language} {ls ms : List (List Char)}
    (h : ls.map trimEnd = ms.map trimEnd) : endOf language ls = endOf language ms := by
  rw [← endOf_map_trimEnd, h, endOf_map_trimEnd]

end Blank

end Preamble
end Waymark
