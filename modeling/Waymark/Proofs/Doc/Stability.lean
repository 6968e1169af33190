import Waymark.Proofs.Doc.Place

/-! Later text does not change a doc comment. Once a text holds the comment and one line behind it
that can tell what the comment belongs to, whatever is added leaves the comment and its kind as they
are. -/
namespace Waymark
namespace Doc

open Text

/-- Whether a line belongs to the declaration below it, as an attribute or a decorator. -/
def isAttached (language : Language) (line : List Char) : Bool :=
  match language with
  | .rust => "#[".toList.isPrefixOf (trimStart line)
  | .javascript | .typescript => (trimStart line).head? == some '@'
  | _ => false

section Runs

variable {α : Type} {p : α → Bool} {xs : List α} (h : xs.dropWhile p ≠ []) (ys : List α)
include h

/-- A run that ends in the first part is not longer in both. -/
lemma takeWhile_append_of_ends : (xs ++ ys).takeWhile p = xs.takeWhile p := by
  rw [List.takeWhile_append, if_neg]
  intro hlength
  have hsum := congrArg List.length (List.takeWhile_append_dropWhile (p := p) (l := xs))
  rw [List.length_append] at hsum
  exact h (List.eq_nil_of_length_eq_zero (by omega))

lemma dropWhile_append_of_ends : (xs ++ ys).dropWhile p = xs.dropWhile p ++ ys := by
  rw [List.dropWhile_append, if_neg (by simpa using h)]

end Runs

/-- What comes after a run is what is left behind it. -/
lemma drop_runs {α : Type} (p q : α → Bool) (xs : List α) :
    xs.drop ((xs.takeWhile p).length + ((xs.dropWhile p).takeWhile q).length) =
      (xs.dropWhile p).dropWhile q := by
  conv_lhs => rw [← takeWhile_runs p q xs]
  exact List.drop_left' (by simp)

lemma find?_append_of_mem {α : Type} {p : α → Bool} {xs : List α} {x : α} (hx : x ∈ xs)
    (hp : p x = true) (ys : List α) : (xs ++ ys).find? p = xs.find? p := by
  obtain ⟨y, hy⟩ := Option.isSome_iff_exists.1 (List.find?_isSome.2 ⟨x, hx, hp⟩)
  rw [List.find?_append, hy, Option.some_or]

/-- Behind a part that stops within a line, the rest of that line comes first. -/
lemma exists_rest_of_line {x after : List Char} (h : Whole (x ++ after)) (hx : ¬Whole x) :
    ∃ l rest, after = l ++ '\n' :: rest ∧ '\n' ∉ l ∧ Whole rest ∧
      (lines (x ++ after)).drop (newlines x + 1) = lines rest := by
  have hmem : '\n' ∈ after := by
    by_contra hn
    apply hx
    by_cases hne : after = []
    · rwa [hne, List.append_nil] at h
    · have hwhole : Whole after := by
        intro c hc
        apply h c
        rwa [List.getLast?_append_of_ne_nil _ hne]
      exact absurd (eq_nil_of_whole hwhole hn) hne
  obtain ⟨l, rest, rfl, hl⟩ := List.eq_append_cons_of_mem hmem
  have hsplit : x ++ (l ++ '\n' :: rest) = x ++ l ++ ['\n'] ++ rest := by simp
  have hhead : Whole (x ++ l ++ ['\n']) := whole_concat_newline _
  have hlength : (lines (x ++ l ++ ['\n'])).length = newlines x + 1 := by
    rw [lines, List.length_map, ← newlines_eq_length hhead, newlines_append, newlines_append,
      newlines_of_notMem hl]
    rfl
  rw [← List.append_assoc, whole_newline_iff] at h
  refine ⟨l, rest, rfl, hl, h, ?_⟩
  rw [hsplit, lines_append hhead, List.drop_left' hlength]

namespace Block

lemma refusesOpening_append {tail : List Char} (h : tail ≠ []) (s : List Char) :
    refusesOpening (tail ++ s) = refusesOpening tail := by
  cases tail with
  | nil => exact absurd rfl h
  | cons c cs =>
    rw [List.cons_append]
    unfold refusesOpening
    split <;> simp_all

/-- An opening that has some text behind it is found again. -/
lemma findOpenFrom_stable {before rest lead tail : List Char}
    (h : findOpenFrom before rest = some (lead, tail)) (hne : tail ≠ []) (s : List Char) :
    findOpenFrom before (rest ++ s) = some (lead, tail ++ s) := by
  induction hn : rest.length using Nat.strong_induction_on generalizing before rest with
  | _ n ih =>
    cases hc : cut opening rest with
    | none => simp [findOpenFrom_of_none _ hc] at h
    | some r =>
      obtain ⟨skipped, next⟩ := r
      have hlt : next.length < n := hn ▸ cut_length_lt (by decide) hc
      rw [findOpenFrom_of_some _ hc] at h
      rw [findOpenFrom_of_some _ (cut_append_of_some hc s)]
      split at h
      · rename_i haccepted
        obtain ⟨rfl, rfl⟩ := Prod.mk.inj (Option.some.inj h)
        rw [refusesOpening_append hne, if_pos haccepted]
      · rename_i hrefused
        have hnext : next ≠ [] := by
          rintro rfl
          rw [findOpenFrom_of_none _ rfl] at h
          cases h
        rw [refusesOpening_append hnext, if_neg hrefused]
        exact ih _ hlt h rfl

/-- The line that decides is one of those that were there before. -/
lemma following_stable {l rest : List Char} (hl : '\n' ∉ l) (hrest : Whole rest)
    (h : ∃ m ∈ lines rest, (trimStart m).head? ≠ some '@') (s : List Char) :
    following (l ++ '\n' :: rest ++ s) = following (l ++ '\n' :: rest) := by
  obtain ⟨m, hm, hat⟩ := h
  rw [List.append_assoc, List.cons_append, following_newline hl, following_newline hl,
    lines_append hrest, find?_append_of_mem hm (by simpa using hat)]

theorem extract_stable {language : Language} {t : List Char} {d : Comment} (ht : Whole t)
    (h : extract language t = some d)
    (hafter : ∃ m ∈ (lines t).drop d.endLine, (trimStart m).head? ≠ some '@') (s : List Char) :
    extract language (t ++ s) = some d := by
  unfold extract at h ⊢
  split at h
  · cases h
  · rename_i before tail hopen
    split at h
    · cases h
    · rename_i inner after hclose
      obtain rfl := Option.some.inj h
      have hne : tail ≠ [] := by
        rintro rfl
        cases hclose
      have htext := eq_of_findOpen hopen hclose
      have hends : ¬Whole (before ++ (opening ++ inner ++ closing)) :=
        not_whole_append _ (not_whole_enclosed inner)
      have hcount : newlines (before ++ (opening ++ inner ++ closing)) + 1 =
          newlines before + 1 + newlines inner := by
        rw [newlines_append, newlines_enclosed]
        omega
      obtain ⟨l, rest, rfl, hl, hrest, hlines⟩ := exists_rest_of_line (htext ▸ ht) hends
      rw [← htext, hcount] at hlines
      have hfollowing := following_stable hl hrest (hlines ▸ hafter) s
      have hfind : findOpen (t ++ s) = some (before, tail ++ s) :=
        findOpenFrom_stable hopen hne s
      rw [hfind]
      dsimp only
      rw [cut_append_of_some hclose]
      simp only [classify, hfollowing]

end Block

namespace Literal

lemma findFrom_stable {before : List (List Char)} {ls : List Line} {site : Site} {kind : Kind}
    (h : findFrom before ls = some (site, kind)) (ms : List Line) :
    findFrom before (ls ++ ms) = some ({ site with rest := site.rest ++ concat ms }, kind) := by
  induction ls generalizing before with
  | nil => cases h
  | cons l ls ih =>
    rw [findFrom] at h
    rw [List.cons_append, findFrom]
    split at h
    · rename_i o ho
      split at h
      · rename_i hplace
        obtain ⟨rfl, rfl⟩ := Prod.mk.inj (Option.some.inj h)
        rw [if_pos hplace]
        simp
      · rename_i hplace
        rw [if_neg hplace, ih h]
    · exact ih h

theorem extract_stable {t : List Char} {d : Comment} (ht : Whole t) (h : extract t = some d)
    (s : List Char) : extract (t ++ s) = some d := by
  unfold extract at h ⊢
  rw [rawLines_append ht]
  split at h
  · cases h
  · rename_i site kind hfind
    split at h
    · cases h
    · rename_i body after hcut
      rw [findFrom_stable hfind, concat_rawLines]
      dsimp only
      rw [cut_append_of_some hcut]
      exact h

end Literal

namespace Hash

theorem extract_stable {t : List Char} {d : Comment} (ht : Whole t) (h : extract t = some d)
    (hafter : (lines t).drop d.endLine ≠ []) (s : List Char) : extract (t ++ s) = some d := by
  simp only [extract, rawLines_append ht, List.zipIdx_append,
    List.span_eq_takeWhile_dropWhile] at h ⊢
  split at h
  · cases h
  · rename_i hblock
    obtain rfl := Option.some.inj h
    have hrest : (rawLines t).zipIdx.dropWhile (fun l => !isDoc l) ≠ [] := by
      intro hnil
      simp [hnil] at hblock
    have hends : ((rawLines t).zipIdx.dropWhile fun l => !isDoc l).dropWhile isDoc ≠ [] := by
      rw [← drop_runs]
      intro hnil
      apply hafter
      have hlines : lines t = (rawLines t).zipIdx.map fun l => l.1.body := by
        rw [lines, ← List.zipIdx_map_fst 0 (rawLines t), List.map_map]
        simp [Function.comp_def]
      rw [hlines, ← List.map_drop, hnil, List.map_nil]
    rw [takeWhile_append_of_ends hrest, dropWhile_append_of_ends hrest,
      takeWhile_append_of_ends hends, dropWhile_append_of_ends hends,
      List.head?_append_of_ne_nil _ hends, if_neg hblock]

end Hash

namespace Slash

/-- The line that decides is one of those that were there before. -/
lemma kind_append (m : Marker) (before : List (List Char)) {after : List (List Char)}
    (h : ∃ l ∈ after, "#[".toList.isPrefixOf (trimStart l) = false) (ls : List (List Char)) :
    kind m before (after ++ ls) = kind m before after := by
  obtain ⟨l, hl, hattribute⟩ := h
  have howned : isOwned (after ++ ls) = isOwned after := by
    rw [isOwned, find?_append_of_mem hl (by rw [hattribute]; rfl), isOwned]
  cases m with
  | inner => rfl
  | outer => simp only [kind, howned]

theorem extract_stable {t : List Char} {d : Comment} (ht : Whole t) (h : extract t = some d)
    (hafter : ∃ l ∈ (lines t).drop d.endLine, "#[".toList.isPrefixOf (trimStart l) = false)
    (s : List Char) : extract (t ++ s) = some d := by
  simp only [extract, rawLines_append ht, List.span_eq_takeWhile_dropWhile] at h ⊢
  split at h
  · cases h
  · rename_i m hm
    obtain rfl := Option.some.inj h
    simp only [lines, ← List.map_drop, drop_runs] at hafter
    have hrest : (rawLines t).dropWhile (fun l => (marker? l.body).isNone) ≠ [] := by
      intro hnil
      simp [hnil] at hm
    have hends : ((rawLines t).dropWhile fun l => (marker? l.body).isNone).dropWhile
        (fun l => marker? l.body == some m) ≠ [] := by
      intro hnil
      simp [hnil] at hafter
    rw [takeWhile_append_of_ends hrest, dropWhile_append_of_ends hrest,
      List.head?_append_of_ne_nil _ hrest, hm]
    dsimp only
    rw [takeWhile_append_of_ends hends, dropWhile_append_of_ends hends, List.map_append,
      kind_append m _ hafter]

end Slash

/-- A comment of a text that ends with a newline stays as it is, whatever is added, if behind it the
text has at least one line that is neither an attribute nor a decorator. -/
theorem extract_append_stable {language : Language} {t : List Char} {d : Comment}
    (ht : t.getLast? = some '\n') (h : extract language t = some d)
    (hafter : ∃ l ∈ (lines t).drop d.endLine, isAttached language l = false) (s : List Char) :
    extract language (t ++ s) = some d := by
  have hwhole : Whole t := by
    intro c hc
    rw [ht] at hc
    exact (Option.some.inj hc).symm
  have hsome : (lines t).drop d.endLine ≠ [] := by
    obtain ⟨l, hl, -⟩ := hafter
    exact List.ne_nil_of_mem hl
  cases language with
  | javascript => exact Block.extract_stable hwhole h (by simpa [isAttached] using hafter) s
  | typescript => exact Block.extract_stable hwhole h (by simpa [isAttached] using hafter) s
  | python => exact Literal.extract_stable hwhole h s
  | ruby => exact Hash.extract_stable hwhole h hsome s
  | rust => exact Slash.extract_stable hwhole h hafter s
  | go | markdown | shell => cases h

/-- The decorator does not decide yet, but the line below it does. -/
theorem extract_append_stable_decorated :
    let t := "/** Service. */\n@Injectable()\nexport class Service\n".toList
    let s := "/** Other. */\nconst x = 1\n".toList
    let d : Comment := ⟨.typescript, .function, .jsdoc, "/** Service. */".toList,
      "Service.".toList, 1, 1⟩
    extract .typescript t = some d ∧ isAttached .typescript "export class Service".toList = false ∧
      extract .typescript (t ++ s) = some d := by
  intro t s d
  have h : extract .typescript t = some d := by decide +kernel
  have hlast : t.getLast? = some '\n' := by decide +kernel
  have hfree : isAttached .typescript "export class Service".toList = false := by decide +kernel
  have hmem : "export class Service".toList ∈ (lines t).drop d.endLine := by decide +kernel
  exact ⟨h, hfree, extract_append_stable hlast h ⟨_, hmem, hfree⟩ s⟩

end Doc
end Waymark
