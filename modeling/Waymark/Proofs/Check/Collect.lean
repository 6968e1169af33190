import Waymark.Check.Collect
import Waymark.Proofs.FileTree.Walk

/-! The files that a check looks at. They are exactly the files below the root that no rule leaves
out, once each and in the order of their paths, whatever order the tree lists its entries in. -/
namespace Waymark
namespace Check

/-- The names that lead from a root to a file that is checked. -/
structure Collected (t : FileTree) (c : Config) (root : Path) (names : List String) : Prop where
  nonempty : names ≠ []
  named : AreNames names
  /-- They lead to a file, links followed. -/
  regular : ∃ place, t.Reaches (root.descend names) place ∧ t.IsFile place
  /-- No directory on the way is skipped for its name. -/
  entered : ∀ name ∈ names.dropLast, name ∉ skippedDirectories ∧
    (c.includeHidden = true ∨ name.startsWith '.' = false)
  /-- The extension belongs to a language. -/
  known : ∃ ext language, (root.descend names).extension? = some ext ∧
    Language.ofExtension? ext = some language
  /-- No glob that can be read matches the path below the root. -/
  kept : ∀ pattern ∈ c.excludedPaths, ∀ tokens, Glob.parse pattern = .ok tokens →
    Glob.isMatch tokens (Text.bytes (relativePath names).toList) = false

section Order

lemma comesBefore_trans (a b d : List String) (hab : comesBefore a b = true)
    (hbd : comesBefore b d = true) : comesBefore a d = true :=
  Std.TransOrd.isLE_trans hab hbd

lemma comesBefore_total (a b : List String) : (comesBefore a b || comesBefore b a) = true := by
  rw [comesBefore, comesBefore, Std.OrientedOrd.eq_swap (a := b)]
  cases compare a b <;> rfl

/-- Sorting lists that nothing occurs twice in makes them strictly ascending. -/
lemma mergeSort_strict {found : List (List String)} (h : found.Nodup) :
    (found.mergeSort comesBefore).Pairwise fun a b => compare a b = .lt := by
  have hsorted := List.pairwise_mergeSort comesBefore_trans comesBefore_total found
  have hnodup := (List.mergeSort_perm found comesBefore).nodup_iff.2 h
  refine (hsorted.and hnodup).imp fun {a b} hab => ?_
  obtain ⟨hle, hne⟩ := hab
  rcases Ordering.isLE_iff_eq_lt_or_eq_eq.1 hle with hlt | heq
  · exact hlt
  · exact absurd (Std.compare_eq_iff_eq.1 heq) hne

lemma mergeSort_eq_of_perm {found found' : List (List String)} (h : found.Perm found') :
    found'.mergeSort comesBefore = found.mergeSort comesBefore := by
  have hsorted := List.pairwise_mergeSort comesBefore_trans comesBefore_total
  refine List.Perm.eq_of_pairwise (fun a b _ _ hab hba => ?_) (hsorted found') (hsorted found) ?_
  · exact Std.compare_eq_iff_eq.1 (Std.OrientedCmp.isLE_antisymm hab hba)
  · exact (List.mergeSort_perm found' _).trans (h.symm.trans (List.mergeSort_perm found _).symm)

end Order

section Rules

variable {t : FileTree} {c : Config} {root : Path} {names : List String}

lemma enters_iff {name : String} :
    enters c name = true ↔
      name ∉ skippedDirectories ∧ (c.includeHidden = true ∨ name.startsWith '.' = false) := by
  simp [enters, and_comm]

lemma excludes_eq_false_iff {path : String} :
    c.excludes path = false ↔
      ∀ pattern ∈ c.excludedPaths, ∀ tokens, Glob.parse pattern = .ok tokens →
        Glob.isMatch tokens (Text.bytes path.toList) = false := by
  rw [Config.excludes, List.any_eq_false]
  refine forall₂_congr fun pattern _ => ?_
  rw [Glob.accepts]
  cases Glob.parse pattern with
  | error e => simp
  | ok tokens => simp

lemma wants_iff (hroot : root.raw ≠ "") (hnames : AreNames names) (hne : names ≠ []) :
    wants c names = true ↔
      (∃ ext language, (root.descend names).extension? = some ext ∧
        Language.ofExtension? ext = some language) ∧
      ∀ pattern ∈ c.excludedPaths, ∀ tokens, Glob.parse pattern = .ok tokens →
        Glob.isMatch tokens (Text.bytes (relativePath names).toList) = false := by
  have hlanguage := Path.ofPath?_descend hnames hne hroot
  rw [wants, Bool.and_eq_true, Bool.not_eq_true', excludes_eq_false_iff, relativePath, ← hlanguage,
    Language.ofPath?, Option.isSome_iff_exists]
  simp only [Option.bind_eq_some_iff]
  rw [exists_comm]

/-- A file is found and wanted exactly when no rule leaves it out. -/
lemma collected_iff {here : Place} (hroot : root.raw ≠ "") (hhere : t.Reaches root here)
    (hopen : t.IsOpen here) :
    Collected t c root names ↔ t.Finds (enters c) here names ∧ wants c names = true := by
  constructor
  · rintro ⟨hne, hnames, ⟨place, hreaches, hfile⟩, hentered, hknown, hkept⟩
    obtain ⟨start, -, hstart, hleads⟩ := (FileTree.reaches_descend_iff hroot hnames hne).1 hreaches
    obtain rfl := hstart.unique hhere
    exact ⟨⟨hne, hnames, fun name hname => enters_iff.2 (hentered name hname), place, hleads,
      hfile⟩, (wants_iff hroot hnames hne).2 ⟨hknown, hkept⟩⟩
  · rintro ⟨⟨hne, hnames, hentered, place, hleads, hfile⟩, hwants⟩
    obtain ⟨hknown, hkept⟩ := (wants_iff hroot hnames hne).1 hwants
    have hreaches := (FileTree.reaches_descend_iff hroot hnames hne).2
      ⟨here, hopen, hhere, hleads⟩
    exact ⟨hne, hnames, ⟨place, hreaches, hfile⟩,
      fun name hname => enters_iff.1 (hentered name hname), hknown, hkept⟩

end Rules

section Collect

variable {t : FileTree} {c : Config} {root : Path} {files : List Path}

lemma collect_of_isDirectory (hroot : t.isDirectory root = true) :
    collect t c root = (t.walk root (enters c)).map fun found =>
      ((found.filter (wants c)).mergeSort comesBefore).map root.descend := by
  rw [collect, FileTree.isFile_eq_false_of_isDirectory hroot]
  rfl

/-- Names that a walk finds in order stay as they are. -/
lemma collect_of_walk {found : List (List String)} (hroot : t.isDirectory root = true)
    (hwalk : t.walk root (enters c) = .ok found)
    (hsorted : (found.filter (wants c)).Pairwise fun a b => comesBefore a b = true) :
    collect t c root = .ok ((found.filter (wants c)).map root.descend) := by
  rw [collect_of_isDirectory hroot, hwalk, Except.map, List.mergeSort_of_pairwise hsorted]

/-- The names behind the collected paths. -/
theorem exists_names_of_collect (hroot : t.isDirectory root = true)
    (h : collect t c root = .ok files) :
    ∃ found : List (List String), files = found.map root.descend ∧
      (found.Pairwise fun a b => compare a b = .lt) ∧
      ∀ names, names ∈ found ↔ Collected t c root names := by
  obtain ⟨here, hlocate, hopen⟩ := FileTree.exists_open_of_isDirectory hroot
  rw [collect_of_isDirectory hroot] at h
  obtain ⟨found, hwalk, rfl⟩ := map_eq_ok_iff.1 h
  refine ⟨_, rfl, mergeSort_strict ((FileTree.nodup_walk hwalk).filter _), fun names => ?_⟩
  have hhere := FileTree.reaches_of_locate hlocate
  rw [List.mem_mergeSort, List.mem_filter, FileTree.mem_walk_iff hwalk hhere hopen,
    collected_iff (FileTree.raw_ne_empty_of_locate hlocate) hhere hopen]

lemma collect_eq_of_perm {u : FileTree} (hentries : t.entries.Perm u.entries)
    (hroot : t.isDirectory root = true) (h : collect t c root = .ok files) :
    collect u c root = .ok files := by
  rw [collect_of_isDirectory hroot] at h
  rw [← FileTree.isDirectory_eq_of_perm hentries] at hroot
  rw [collect_of_isDirectory hroot]
  obtain ⟨found, hwalk, rfl⟩ := map_eq_ok_iff.1 h
  obtain ⟨found', hwalk', hperm⟩ := FileTree.walk_perm hentries hwalk
  rw [hwalk', Except.map, mergeSort_eq_of_perm (hperm.filter _)]

/-- Collection is exact: each file that no rule leaves out is listed once, in the order of the
components of its path, and the order in which entries are listed makes no difference. -/
theorem collect_exact (hroot : t.isDirectory root = true) (h : collect t c root = .ok files) :
    (files.Pairwise fun a b => compare a b = .lt) ∧
    (∀ path, path ∈ files ↔ ∃ names, path = root.descend names ∧ Collected t c root names) ∧
    ∀ u : FileTree, t.entries.Perm u.entries → collect u c root = .ok files := by
  have hraw := FileTree.raw_ne_empty_of_isDirectory hroot
  obtain ⟨found, hfiles, hsorted, hfound⟩ := exists_names_of_collect hroot h
  refine ⟨?_, fun path => ?_, fun u hentries => collect_eq_of_perm hentries hroot h⟩
  · rw [hfiles, List.pairwise_map]
    refine hsorted.imp_of_mem fun {a b} ha hb hlt => ?_
    rw [Path.compare_descend hraw ((hfound a).1 ha).named ((hfound b).1 hb).named, hlt]
  · rw [hfiles, List.mem_map]
    constructor
    · rintro ⟨names, hnames, rfl⟩
      exact ⟨names, rfl, (hfound names).1 hnames⟩
    · rintro ⟨names, rfl, hnames⟩
      exact ⟨names, (hfound names).2 hnames, rfl⟩

/-- A tree with a link to one of its directories. -/
def linkedTree : FileTree where
  entries :=
    [(["src", "lib.rs"], .file ⟨#[]⟩), (["src"], .directory), (["again"], .link "src"),
      (["target"], .directory), (["target", "out.rs"], .file ⟨#[]⟩), (["target.rs"], .file ⟨#[]⟩)]
  distinct := by decide
  named := by decide

/-- Settings with a glob that cannot be read. -/
def partlyReadable : Config :=
  { Config.standard with excludedPaths := ["src/**", "["] }

lemma isDirectory_linked : linkedTree.isDirectory ⟨"."⟩ = true := by
  decide +kernel

lemma collect_linked :
    collect linkedTree partlyReadable ⟨"."⟩ = .ok [⟨"./again/lib.rs"⟩, ⟨"./target.rs"⟩] := by
  have hwalk : linkedTree.walk ⟨"."⟩ (enters partlyReadable) =
      .ok [["src", "lib.rs"], ["again", "lib.rs"], ["target.rs"]] := by decide +kernel
  rw [collect_of_walk isDirectory_linked hwalk (by decide +kernel)]
  decide +kernel

theorem collect_exact_linked :
    (∃ names, Path.mk "./again/lib.rs" = (Path.mk ".").descend names ∧
      Collected linkedTree partlyReadable ⟨"."⟩ names) ∧
    ∀ u : FileTree, linkedTree.entries.Perm u.entries →
      collect u partlyReadable ⟨"."⟩ = .ok [⟨"./again/lib.rs"⟩, ⟨"./target.rs"⟩] := by
  obtain ⟨-, hmem, hlisting⟩ := collect_exact isDirectory_linked collect_linked
  exact ⟨(hmem _).1 List.mem_cons_self, hlisting⟩

end Collect

end Check
end Waymark
