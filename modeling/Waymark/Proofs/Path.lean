import Mathlib.Data.List.Basic
import Waymark.FileTree.Walk
import Waymark.Language
import Waymark.Proofs.Text.Blank

/-! Paths that lead down from a directory along the names of entries. Each name becomes one more
component, whatever the path of the directory looks like, and taking the directory off again leaves
the names between slashes. -/
namespace Waymark

lemma isEntryName_iff {name : String} :
    isEntryName name = true ↔
      name ≠ "" ∧ name ≠ "." ∧ name ≠ ".." ∧ '/' ∉ name.toList ∧
        name.utf8ByteSize ≤ nameLimit := by
  simp [isEntryName, and_assoc]

/-- Names that entries of a tree can have. -/
def AreNames (names : List String) : Prop :=
  ∀ name ∈ names, isEntryName name = true

lemma areNames_concat {names : List String} {name : String} :
    AreNames (names ++ [name]) ↔ AreNames names ∧ isEntryName name = true := by
  simp [AreNames, or_imp, forall_and]

namespace Path

section Pieces

variable {name : String} (h : isEntryName name = true)
include h

lemma name_ne_nil : name.toList ≠ [] :=
  fun hnil => (isEntryName_iff.1 h).1 (String.toList_eq_nil_iff.1 hnil)

lemma isVoid_name : isVoid name.toList = false := by
  have hdot : name.toList ≠ ['.'] := fun hdot =>
    (isEntryName_iff.1 h).2.1 (String.toList_inj.1 hdot)
  simp [isVoid, name_ne_nil h, hdot]

lemma component?_name : component? name.toList = some (.name name) := by
  have hup : name.toList ≠ ['.', '.'] := fun hup =>
    (isEntryName_iff.1 h).2.2.1 (String.toList_inj.1 hup)
  simp [component?, isVoid_name h, hup]

lemma splitOn_name : name.toList.splitOn '/' = [name.toList] :=
  List.splitOn_eq_singleton (isEntryName_iff.1 h).2.2.2.1

end Pieces

lemma component?_eq_none_iff {piece : List Char} :
    component? piece = none ↔ isVoid piece = true := by
  unfold component?
  split_ifs <;> simp_all

lemma splitOn_append_slash (xs ys : List Char) :
    (xs ++ '/' :: ys).splitOn '/' = xs.splitOn '/' ++ ys.splitOn '/' := by
  simp only [List.splitOn_eq_splitOnP]
  exact List.splitOnP_append_cons xs ys (by simp)

/-- The texts between the slashes of a path. -/
def texts (p : Path) : List (List Char) :=
  p.raw.toList.splitOn '/'

/-- The texts of a path without a slash at its end. -/
def stem (p : Path) : List (List Char) :=
  if p.raw.toList.getLast? = some '/' then p.raw.toList.dropLast.splitOn '/' else p.texts

lemma stem_ne_nil (p : Path) : p.stem ≠ [] := by
  rw [stem]
  split
  · exact List.splitOn_ne_nil _ _
  · exact List.splitOn_ne_nil _ _

lemma texts_eq (p : Path) : p.texts = p.stem ∨ p.texts = p.stem ++ [[]] := by
  by_cases hlast : p.raw.toList.getLast? = some '/'
  · right
    rw [stem, if_pos hlast, texts]
    obtain ⟨xs, hxs⟩ := List.getLast?_eq_some_iff.1 hlast
    rw [hxs, List.dropLast_concat, splitOn_append_slash]
    rfl
  · left
    rw [stem, if_neg hlast]

section Join

variable {dir : Path} {name : String} (hdir : dir.raw ≠ "") (hname : isEntryName name = true)
include hdir hname

lemma toList_join :
    (dir.join name).raw.toList =
      if dir.raw.toList.getLast? = some '/' then dir.raw.toList ++ name.toList
      else dir.raw.toList ++ '/' :: name.toList := by
  have hrooted : name.startsWith '/' = false := by
    rw [String.startsWith_char_eq_head?]
    have hhead : name.toList.head? ≠ some '/' := fun hhead =>
      (isEntryName_iff.1 hname).2.2.2.1 (List.mem_of_head? hhead)
    simpa using hhead
  have hempty : dir.raw.isEmpty = false := by simpa using hdir
  rw [join, hempty, hrooted, String.endsWith_char_eq_getLast?]
  by_cases hlast : dir.raw.toList.getLast? = some '/' <;> simp [hlast]

lemma join_ne_empty : (dir.join name).raw ≠ "" := by
  intro hempty
  have hlist := toList_join hdir hname
  rw [hempty] at hlist
  split at hlist <;> simp [name_ne_nil hname] at hlist

lemma texts_join : (dir.join name).texts = dir.stem ++ [name.toList] := by
  rw [texts, toList_join hdir hname, stem]
  split
  next hlast =>
    obtain ⟨xs, hxs⟩ := List.getLast?_eq_some_iff.1 hlast
    rw [hxs, List.dropLast_concat, List.append_assoc, List.singleton_append, splitOn_append_slash,
      splitOn_name hname]
  next => rw [splitOn_append_slash, splitOn_name hname, texts]

lemma stem_join : (dir.join name).stem = dir.stem ++ [name.toList] := by
  have hlast : (dir.join name).raw.toList.getLast? ≠ some '/' := by
    intro hlast
    have hin : '/' ∈ name.toList.getLast? := by
      rw [toList_join hdir hname] at hlast
      split at hlast
      · rwa [List.getLast?_append_of_ne_nil _ (name_ne_nil hname)] at hlast
      · rwa [List.getLast?_append_of_ne_nil _ (List.cons_ne_nil _ _),
          List.getLast?_cons_of_ne_nil (name_ne_nil hname)] at hlast
    exact (isEntryName_iff.1 hname).2.2.2.1 (List.mem_of_getLast? hin)
  rw [stem, if_neg hlast, texts_join hdir hname]

end Join

lemma descend_concat (p : Path) (names : List String) (name : String) :
    p.descend (names ++ [name]) = (p.descend names).join name := by
  simp [descend]

section Descend

variable {root : Path} {names : List String} (hroot : root.raw ≠ "") (hnames : AreNames names)
include hroot hnames

lemma descend_ne_empty : (root.descend names).raw ≠ "" := by
  induction names using List.reverseRecOn with
  | nil => exact hroot
  | append_singleton names name ih =>
    obtain ⟨hfront, hname⟩ := areNames_concat.1 hnames
    rw [descend_concat]
    exact join_ne_empty (ih hfront) hname

lemma stem_descend : (root.descend names).stem = root.stem ++ names.map String.toList := by
  induction names using List.reverseRecOn with
  | nil => simp [descend]
  | append_singleton names name ih =>
    obtain ⟨hfront, hname⟩ := areNames_concat.1 hnames
    rw [descend_concat, stem_join (descend_ne_empty hroot hfront) hname, ih hfront,
      List.map_append, List.append_assoc]
    rfl

lemma texts_descend (hne : names ≠ []) :
    (root.descend names).texts = root.stem ++ names.map String.toList := by
  cases names using List.reverseRecOn with
  | nil => exact absurd rfl hne
  | append_singleton names name =>
    obtain ⟨hfront, hname⟩ := areNames_concat.1 hnames
    rw [descend_concat, texts_join (descend_ne_empty hroot hfront) hname,
      stem_descend hroot hfront, List.map_append, List.append_assoc]
    rfl

end Descend

/-- The component at the head of a path, and the texts behind it. -/
def divideTexts : List (List Char) → Option Component × List (List Char)
  | [] :: piece :: pieces => (some .root, piece :: pieces)
  | ['.'] :: pieces => (some .here, pieces)
  | pieces => (none, pieces)

lemma divide_eq (p : Path) : p.divide = divideTexts p.texts := rfl

lemma divideTexts_of_not_void {t : List Char} (ht : isVoid t = false) (ts : List (List Char)) :
    divideTexts (t :: ts) = (none, t :: ts) := by
  unfold divideTexts
  split
  next heq =>
    obtain ⟨rfl, -⟩ := List.cons.inj heq
    cases ht
  next heq =>
    obtain ⟨rfl, -⟩ := List.cons.inj heq
    cases ht
  next => rfl

/-- How a directory and all paths that lead down from it are divided. -/
structure Divided (root : Path) (head : Option Component) (front : List (List Char)) : Prop where
  components : root.components = head.toList ++ front.filterMap component?
  nonempty : root.components ≠ []
  divide : ∀ names, AreNames names → names ≠ [] →
    (root.descend names).divide = (head, front ++ names.map String.toList)

/-- It suffices to look at what the texts of the directory are followed by. -/
lemma divided_of_texts {root : Path} {head : Option Component} {front : List (List Char)}
    (hroot : root.raw ≠ "") (hself : root.texts = root.stem → divideTexts root.stem = (head, front))
    (hmore : ∀ t ts, divideTexts (root.stem ++ t :: ts) = (head, front ++ t :: ts))
    (hhead : head = none → front.filterMap component? ≠ []) : Divided root head front := by
  have hcomponents : root.components = head.toList ++ front.filterMap component? := by
    rw [Path.components, divide_eq]
    rcases root.texts_eq with htexts | htexts
    · rw [htexts, hself htexts]
    · have hempty : component? [] = none := rfl
      rw [htexts, hmore, List.filterMap_append, List.filterMap_cons_none hempty,
        List.filterMap_nil, List.append_nil]
  refine ⟨hcomponents, ?_, ?_⟩
  · rw [hcomponents]
    cases head with
    | none => simpa using hhead rfl
    | some c => simp
  · intro names hnames hne
    obtain ⟨name, rest, rfl⟩ := List.exists_cons_of_ne_nil hne
    rw [divide_eq, texts_descend hroot hnames hne]
    exact hmore _ _

lemma exists_divided {root : Path} (hroot : root.raw ≠ "") :
    ∃ head front, Divided root head front := by
  obtain ⟨t, ts, hstem⟩ := List.exists_cons_of_ne_nil root.stem_ne_nil
  by_cases hempty : t = []
  · subst hempty
    refine ⟨some .root, ts, divided_of_texts hroot ?_ ?_ nofun⟩
    · intro htexts
      cases ts with
      | nil =>
        -- A single empty text makes an empty path.
        have hraw : ['/'].intercalate root.texts = root.raw.toList := List.intercalate_splitOn '/'
        rw [htexts, hstem, List.intercalate_singleton] at hraw
        exact absurd (String.toList_eq_nil_iff.1 hraw.symm) hroot
      | cons u us => rw [hstem]; rfl
    · intro u us
      rw [hstem]
      cases ts <;> rfl
  · by_cases hdot : t = ['.']
    · subst hdot
      refine ⟨some .here, ts, divided_of_texts hroot (fun _ => ?_) (fun u us => ?_) nofun⟩
      · rw [hstem]; rfl
      · rw [hstem]; rfl
    · have hvoid : isVoid t = false := by simp [isVoid, hempty, hdot]
      refine ⟨none, t :: ts, divided_of_texts hroot (fun _ => ?_) (fun u us => ?_) fun _ => ?_⟩
      · rw [hstem, divideTexts_of_not_void hvoid]
      · rw [hstem, List.cons_append, divideTexts_of_not_void hvoid]
      · rw [Ne, List.filterMap_eq_nil_iff]
        intro hnone
        rw [component?_eq_none_iff.1 (hnone t List.mem_cons_self)] at hvoid
        cases hvoid

section Descend

variable {root : Path} {names : List String} (hroot : root.raw ≠ "") (hnames : AreNames names)

lemma filterMap_component?_names (hnames : AreNames names) :
    (names.map String.toList).filterMap component? = names.map .name := by
  induction names with
  | nil => rfl
  | cons name names ih =>
    obtain ⟨hname, hrest⟩ := List.forall_mem_cons.1 hnames
    rw [List.map_cons, List.filterMap_cons_some (component?_name hname), ih hrest, List.map_cons]

include hroot hnames

/-- Each name on the way down is one more component. -/
theorem components_descend :
    (root.descend names).components = root.components ++ names.map .name := by
  by_cases hne : names = []
  · simp [hne, descend]
  · obtain ⟨head, front, h⟩ := exists_divided hroot
    rw [Path.components, h.divide names hnames hne, h.components, List.filterMap_append,
      filterMap_component?_names hnames, List.append_assoc]

end Descend

/-- The texts that make up the components of a directory are taken off; empty ones may be left. -/
lemma dropComponents_append (front rest : List (List Char)) :
    ∃ voids, (∀ v ∈ voids, isVoid v = true) ∧
      dropComponents (front.filterMap component?) (front ++ rest) = some (voids ++ rest) := by
  induction front with
  | nil => exact ⟨[], List.forall_mem_nil _, by simp [dropComponents]⟩
  | cons t front ih =>
    obtain ⟨voids, hvoids, hdrop⟩ := ih
    cases ht : component? t with
    | none =>
      have hvoid := component?_eq_none_iff.1 ht
      rw [List.filterMap_cons_none ht]
      cases hcs : front.filterMap component? with
      | nil =>
        rw [hcs, dropComponents, Option.some.injEq] at hdrop
        refine ⟨t :: voids, List.forall_mem_cons.2 ⟨hvoid, hvoids⟩, ?_⟩
        rw [dropComponents, List.cons_append, List.cons_append, hdrop]
      | cons c cs =>
        refine ⟨voids, hvoids, ?_⟩
        rw [List.cons_append, dropComponents, if_pos hvoid, ← hcs, hdrop]
    | some c =>
      have hvoid : isVoid t ≠ true := fun hvoid => by
        rw [component?_eq_none_iff.2 hvoid] at ht
        cases ht
      refine ⟨voids, hvoids, ?_⟩
      rw [List.filterMap_cons_some ht, List.cons_append, dropComponents, if_neg hvoid, if_pos ht,
        hdrop]

lemma isVoid_of_mem_map {names : List String} (hnames : AreNames names) :
    ∀ t ∈ names.map String.toList, isVoid t = false := by
  intro t ht
  obtain ⟨name, hname, rfl⟩ := List.mem_map.1 ht
  exact isVoid_name (hnames name hname)

lemma trimmed_append {voids : List (List Char)} (hvoids : ∀ v ∈ voids, isVoid v = true)
    {names : List String} (hnames : AreNames names) :
    strip?.trimmed (voids ++ names.map String.toList) = ⟨"/".intercalate names⟩ := by
  have hplain := isVoid_of_mem_map hnames
  have hfront : (names.map String.toList).dropWhile isVoid = names.map String.toList := by
    rw [List.dropWhile_eq_self_iff]
    intro hpos
    rw [hplain _ (List.getElem_mem hpos)]
    exact Bool.false_ne_true
  have hback : Text.dropEndWhile isVoid (names.map String.toList) = names.map String.toList :=
    Text.dropEndWhile_eq_self_iff.2 fun t ht => hplain t (List.mem_of_getLast? ht)
  rw [strip?.trimmed, List.dropWhile_append_of_pos hvoids, hfront, hback, ofPieces, Text.joinWith,
    Path.mk.injEq, ← String.toList_inj, String.toList_ofList, String.toList_intercalate]
  rfl

/-- A directory is taken off the paths that lead down from it. -/
theorem strip?_descend {root : Path} {names : List String} (hroot : root.raw ≠ "")
    (hnames : AreNames names) (hne : names ≠ []) :
    strip? root (root.descend names) = some ⟨"/".intercalate names⟩ := by
  obtain ⟨head, front, h⟩ := exists_divided hroot
  obtain ⟨voids, hvoids, hdrop⟩ := dropComponents_append front (names.map String.toList)
  have hcomponents := h.components
  rw [strip?, h.divide names hnames hne]
  cases head with
  | none =>
    obtain ⟨c, cs, hcs⟩ := List.exists_cons_of_ne_nil h.nonempty
    rw [Option.toList_none, List.nil_append, hcs] at hcomponents
    rw [← hcomponents] at hdrop
    simp only [hcs, hdrop, Option.map_some, trimmed_append hvoids hnames]
  | some c =>
    rw [Option.toList_some, List.singleton_append] at hcomponents
    simp only [hcomponents, if_true, hdrop, Option.map_some, trimmed_append hvoids hnames]

section Relative

variable {names : List String} (hnames : AreNames names) (hne : names ≠ [])
include hnames hne

lemma texts_intercalate : texts ⟨"/".intercalate names⟩ = names.map String.toList := by
  have hslash : ∀ t ∈ names.map String.toList, '/' ∉ t := by
    intro t ht
    obtain ⟨name, hname, rfl⟩ := List.mem_map.1 ht
    exact (isEntryName_iff.1 (hnames name hname)).2.2.2.1
  rw [texts, String.toList_intercalate]
  exact List.splitOn_intercalate '/' hslash (by simpa using hne)

lemma components_intercalate : components ⟨"/".intercalate names⟩ = names.map .name := by
  obtain ⟨name, rest, rfl⟩ := List.exists_cons_of_ne_nil hne
  have hvoid := isVoid_name (hnames name List.mem_cons_self)
  rw [components, divide_eq, texts_intercalate hnames hne, List.map_cons,
    divideTexts_of_not_void hvoid, ← List.map_cons, filterMap_component?_names hnames]
  rfl

/-- A file has the language of its path below any directory. -/
lemma ofPath?_descend {root : Path} (hroot : root.raw ≠ "") :
    Language.ofPath? (root.descend names) = Language.ofPath? ⟨"/".intercalate names⟩ := by
  have hlast : (root.descend names).components.getLast? =
      (components ⟨"/".intercalate names⟩).getLast? := by
    rw [components_descend hroot hnames, components_intercalate hnames hne,
      List.getLast?_append_of_ne_nil _ (by simpa using hne)]
  simp only [Language.ofPath?, extension?, fileName?, hlast]

end Relative

section Order

lemma compare_component_self (c : Component) : compare c c = .eq := by
  cases c with
  | root => rfl
  | here => rfl
  | up => rfl
  | name text =>
    have hsame : compare text text = .eq := Std.ReflOrd.compare_self
    change (compare text text).then .eq = .eq
    rw [hsame]
    rfl

lemma compare_append_left (front a b : List Component) :
    compare (front ++ a) (front ++ b) = compare a b := by
  induction front with
  | nil => rfl
  | cons c front ih =>
    rw [List.cons_append, List.cons_append, List.compare_cons_cons, compare_component_self, ih]
    rfl

lemma compare_map_name (a b : List String) :
    compare (a.map Component.name) (b.map .name) = compare a b := by
  induction a generalizing b with
  | nil => cases b <;> rfl
  | cons x a ih =>
    cases b with
    | nil => rfl
    | cons y b =>
      have hname : compare (Component.name x) (.name y) = compare x y := Ordering.then_eq ..
      rw [List.map_cons, List.map_cons, List.compare_cons_cons, List.compare_cons_cons, ih, hname]

/-- Below a directory, paths come in the order of the names that lead to them. -/
theorem compare_descend {root : Path} (hroot : root.raw ≠ "") {a b : List String}
    (ha : AreNames a) (hb : AreNames b) :
    compare (root.descend a) (root.descend b) = compare a b := by
  change compare (root.descend a).components (root.descend b).components = compare a b
  rw [components_descend hroot ha, components_descend hroot hb, compare_append_left,
    compare_map_name]

end Order

end Path
end Waymark
