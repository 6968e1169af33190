import Mathlib.Data.List.Flatten
import Mathlib.Data.List.Perm.Basic
import Waymark.Proofs.FileTree.Follow

/-! The files that a walk finds. A walk that ends without an error has found exactly the names that
lead to a file through directories it may enter, each of them once, and the order in which entries
are listed only changes the order of what is found. -/
namespace Waymark

lemma map_eq_ok_iff {ε α β : Type} {f : α → β} {e : Except ε α} {b : β} :
    e.map f = .ok b ↔ ∃ a, e = .ok a ∧ f a = b := by
  cases e with
  | error x => simp [Except.map]
  | ok a => simp [Except.map]

namespace FileTree

/-- A traversal in which no element fails collects what each of them gives. -/
lemma flatten_mapM_eq_ok_iff {ε α β : Type} {f : α → Except ε (List β)} {l : List α}
    {found : List β} :
    (l.mapM f).map List.flatten = .ok found ↔
      ∃ g : α → List β, (∀ a ∈ l, f a = .ok (g a)) ∧ found = l.flatMap g := by
  induction l generalizing found with
  | nil =>
    constructor
    · intro h
      cases h
      exact ⟨fun _ => [], List.forall_mem_nil _, rfl⟩
    · rintro ⟨g, -, rfl⟩
      rfl
  | cons a l ih =>
    rw [List.mapM_cons]
    constructor
    · intro h
      cases ha : f a with
      | error e =>
        rw [ha] at h
        cases h
      | ok r =>
        cases hl : l.mapM f with
        | error e =>
          rw [ha, hl] at h
          cases h
        | ok rs =>
          rw [ha, hl] at h
          obtain rfl := Except.ok.inj h
          obtain ⟨g, hg, hrs⟩ := ih.1 (congrArg (Except.map List.flatten) hl)
          refine ⟨fun x => (f x).toOption.getD [], fun x hx => ?_, ?_⟩
          · rcases List.mem_cons.1 hx with rfl | hx
            · simp [ha, Except.toOption]
            · simp [hg x hx, Except.toOption]
          · have hsame : (l.flatMap fun x => (f x).toOption.getD []) = l.flatMap g :=
              List.flatMap_congr fun x hx => by simp [hg x hx, Except.toOption]
            rw [List.flatMap_cons, hsame, ← hrs, ha]
            rfl
    · rintro ⟨g, hg, rfl⟩
      obtain ⟨ha, hl⟩ := List.forall_mem_cons.1 hg
      have hrest := ih.2 ⟨g, hl, rfl⟩
      cases hrs : l.mapM f with
      | error e =>
        rw [hrs] at hrest
        cases hrest
      | ok rs =>
        rw [hrs] at hrest
        rw [ha, List.flatMap_cons, ← Except.ok.inj hrest]
        rfl

section Step

variable {t : FileTree} {root : Path} {enter : String → Bool} {trail : Trail}
  {names : List String} {found : List (List String)}

/-- What a child can give: itself if it is a file, what the search finds below it if it is a
directory that may be entered, and nothing if it is another directory. -/
lemma visitChild_eq_ok_iff {search : Search} {here : Place} {name : String} {entry : Entry} :
    t.visitChild root enter search trail here names name entry = .ok found ↔
      (∃ place, t.settle (root.descend (names ++ [name])) (here ++ [name]) entry =
        .ok (place, false) ∧ [names ++ [name]] = found) ∨
      ∃ place, t.settle (root.descend (names ++ [name])) (here ++ [name]) entry =
        .ok (place, true) ∧ (if isLink entry = true then trail.lookup place else none) = none ∧
        (enter name = true ∧
            search ((place, names ++ [name]) :: trail) (names ++ [name]) = .ok found ∨
          enter name = false ∧ [] = found) := by
  simp only [visitChild]
  cases hsettle : t.settle (root.descend (names ++ [name])) (here ++ [name]) entry with
  | error e => simp
  | ok settled =>
    obtain ⟨place, directory⟩ := settled
    cases directory with
    | false => simp
    | true =>
      simp only [Except.ok.injEq, Prod.mk.injEq, and_true, exists_eq_left', Bool.true_eq_false,
        and_false, false_and, exists_false, false_or]
      cases if isLink entry = true then trail.lookup place else none with
      | some ancestor => simp
      | none => cases enter name <;> simp

/-- A search of a directory gathers what its children give. -/
lemma visit_succ_eq_ok_iff {depth : Nat} :
    t.visit root enter (depth + 1) trail names = .ok found ↔
      ∃ here, t.locate (root.descend names) = .ok here ∧ ∃ g : String × Entry → List (List String),
        (∀ child ∈ t.children here, t.visitChild root enter (t.visit root enter depth) trail here
          names child.1 child.2 = .ok (g child)) ∧
        found = (t.children here).flatMap g := by
  rw [visit]
  cases t.locate (root.descend names) with
  | error e => simp
  | ok here => simp [flatten_mapM_eq_ok_iff]

end Step

section Finds

/-- Names that lead from a directory to a file, through directories that may be entered. -/
structure Finds (t : FileTree) (enter : String → Bool) (here : Place) (names : List String) :
    Prop where
  nonempty : names ≠ []
  named : AreNames names
  entered : ∀ name ∈ names.dropLast, enter name = true
  regular : ∃ place, t.Leads here names place ∧ t.IsFile place

variable {t : FileTree} {enter : String → Bool} {here place : Place} {name : String}
  {names : List String}

/-- Nothing lies behind a file. -/
lemma finds_cons_of_isFile (hopen : t.IsOpen here) (hname : isEntryName name = true)
    (hleads : t.Leads here [name] place) (hfile : t.IsFile place) :
    t.Finds enter here (name :: names) ↔ names = [] := by
  constructor
  · intro h
    by_contra hne
    obtain ⟨_, hall, -⟩ := h.regular
    obtain ⟨mid, hmid, hfirst, -⟩ := hall.split_cons hopen hne
    exact hmid.not_isFile (hfirst.unique hleads ▸ hfile)
  · rintro rfl
    exact ⟨List.cons_ne_nil _ _, by simpa [AreNames] using hname, by simp, place, hleads, hfile⟩

/-- Behind a directory lies what is found from there, if it may be entered. -/
lemma finds_cons_of_isOpen (hopen : t.IsOpen here) (hname : isEntryName name = true)
    (hleads : t.Leads here [name] place) (hplace : t.IsOpen place) :
    t.Finds enter here (name :: names) ↔ enter name = true ∧ t.Finds enter place names := by
  constructor
  · rintro ⟨-, hnamed, hentered, file, hall, hfile⟩
    by_cases hne : names = []
    · subst hne
      exact absurd (hleads.unique hall ▸ hfile) hplace.not_isFile
    · rw [List.dropLast_cons_of_ne_nil hne, List.forall_mem_cons] at hentered
      obtain ⟨mid, -, hfirst, hrest⟩ := hall.split_cons hopen hne
      obtain rfl := hfirst.unique hleads
      exact ⟨hentered.1, hne, fun x hx => hnamed x (List.mem_cons_of_mem _ hx), hentered.2,
        file, hrest, hfile⟩
  · rintro ⟨henter, hne, hnamed, hentered, file, hrest, hfile⟩
    refine ⟨List.cons_ne_nil _ _, List.forall_mem_cons.2 ⟨hname, hnamed⟩, ?_, file,
      hleads.append hplace.not_isFile hrest, hfile⟩
    rw [List.dropLast_cons_of_ne_nil hne]
    exact List.forall_mem_cons.2 ⟨henter, hentered⟩

end Finds

section Exact

variable {t : FileTree} {root : Path} {enter : String → Bool} {search : Search}

/-- A search that finds all files below the directory that the names lead to, and nothing else. -/
def Search.Exact (t : FileTree) (root : Path) (enter : String → Bool) (search : Search) : Prop :=
  ∀ trail names found here, search trail names = .ok found → AreNames names →
    t.IsOpen here → t.Reaches (root.descend names) here →
      ∀ p, p ∈ found ↔ ∃ q, p = names ++ q ∧ t.Finds enter here q

lemma settle_eq_ok {names : List String} {name : String} {here place : Place} {entry : Entry}
    {directory : Bool} (hroot : root.raw ≠ "") (hnames : AreNames names) (hopen : t.IsOpen here)
    (hhere : t.Reaches (root.descend names) here) (hentry : t.get? (here ++ [name]) = some entry)
    (h : t.settle (root.descend (names ++ [name])) (here ++ [name]) entry =
      .ok (place, directory)) :
    t.Leads here [name] place ∧ if directory = true then t.IsOpen place else t.IsFile place := by
  have hname := isEntryName_of_get? hentry
  have hpiece := names_of_isEntryName hname
  cases entry with
  | file contents =>
    cases h
    have hfile : t.IsFile (here ++ [name]) := ⟨contents, hentry⟩
    exact ⟨.file hpiece hfile, hfile⟩
  | directory =>
    cases h
    exact ⟨.directory hpiece hentry (.done _), hopen.concat hentry⟩
  | link target =>
    obtain ⟨target, hlocate, heq⟩ := map_eq_ok_iff.1 h
    cases heq
    obtain ⟨mid, -, hmid, hleads⟩ :=
      (reaches_descend_concat_iff hroot hnames hname).1 (reaches_of_locate hlocate)
    obtain rfl := hmid.unique hhere
    refine ⟨hleads, ?_⟩
    rcases hleads.isOpen_or_isFile hopen with hplace | hplace
    · simpa [hplace.get?] using hplace
    · obtain ⟨contents, hfile⟩ := hplace
      simpa [hfile] using ⟨contents, hfile⟩

/-- One step of a search: what a child gives is what is found through it. -/
lemma visitChild_exact {trail : Trail} {here : Place} {names : List String} {name : String}
    {entry : Entry} {found : List (List String)} (hroot : root.raw ≠ "")
    (hsearch : search.Exact t root enter) (hnames : AreNames names) (hopen : t.IsOpen here)
    (hhere : t.Reaches (root.descend names) here) (hentry : t.get? (here ++ [name]) = some entry)
    (h : t.visitChild root enter search trail here names name entry = .ok found)
    (p : List String) :
    p ∈ found ↔ ∃ q, p = names ++ name :: q ∧ t.Finds enter here (name :: q) := by
  have hname := isEntryName_of_get? hentry
  have hpath := areNames_concat.2 ⟨hnames, hname⟩
  obtain ⟨place, hsettle, rfl⟩ | ⟨place, hsettle, -, hfound⟩ := visitChild_eq_ok_iff.1 h
  · obtain ⟨hleads, hplace⟩ := settle_eq_ok hroot hnames hopen hhere hentry hsettle
    simp only [finds_cons_of_isFile hopen hname hleads hplace, List.mem_singleton]
    constructor
    · rintro rfl
      exact ⟨[], rfl, rfl⟩
    · rintro ⟨q, rfl, rfl⟩
      rfl
  · obtain ⟨hleads, hplace⟩ := settle_eq_ok hroot hnames hopen hhere hentry hsettle
    simp only [finds_cons_of_isOpen hopen hname hleads hplace]
    obtain ⟨henter, hfound⟩ | ⟨henter, rfl⟩ := hfound
    · have hreaches := (reaches_descend_concat_iff hroot hnames hname).2
        ⟨here, hopen, hhere, hleads⟩
      rw [hsearch _ _ _ _ hfound hpath hplace hreaches]
      simp [henter]
    · simp [henter]

/-- A search along the directories of a tree is exact, however deep it goes. -/
lemma visit_exact (hroot : root.raw ≠ "") (depth : Nat) :
    Search.Exact t root enter (t.visit root enter depth) := by
  induction depth with
  | zero =>
    intro trail names found here h
    cases h
  | succ depth ih =>
    intro trail names found here h hnames hopen hhere p
    obtain ⟨place, hlocate, g, hg, rfl⟩ := visit_succ_eq_ok_iff.1 h
    obtain rfl := (reaches_of_locate hlocate).unique hhere
    rw [List.mem_flatMap]
    constructor
    · rintro ⟨⟨name, entry⟩, hchild, hp⟩
      have hstep := visitChild_exact hroot ih hnames hopen hhere (mem_children_iff.1 hchild)
        (hg _ hchild) p
      obtain ⟨q, rfl, hfinds⟩ := hstep.1 hp
      exact ⟨name :: q, rfl, hfinds⟩
    · rintro ⟨q, rfl, hfinds⟩
      obtain ⟨name, q, rfl⟩ := List.exists_cons_of_ne_nil hfinds.nonempty
      obtain ⟨_, hleads, -⟩ := hfinds.regular
      obtain ⟨entry, hentry⟩ := hleads.exists_entry (hfinds.named name List.mem_cons_self)
      have hchild := mem_children_iff.2 hentry
      have hstep := visitChild_exact hroot ih hnames hopen hhere hentry (hg _ hchild)
        (names ++ name :: q)
      exact ⟨(name, entry), hchild, hstep.2 ⟨q, rfl, hfinds⟩⟩

end Exact

section Once

variable {t : FileTree} {root : Path} {enter : String → Bool} {search : Search}

/-- A search that finds nothing twice, and only what the names lead to. -/
def Search.Once (search : Search) : Prop :=
  ∀ trail names found, search trail names = .ok found →
    found.Nodup ∧ ∀ p ∈ found, names <+: p

lemma visitChild_once {trail : Trail} {here : Place} {names : List String} {name : String}
    {entry : Entry} {found : List (List String)} (hsearch : search.Once)
    (h : t.visitChild root enter search trail here names name entry = .ok found) :
    found.Nodup ∧ ∀ p ∈ found, names ++ [name] <+: p := by
  obtain ⟨_, -, rfl⟩ | ⟨_, -, -, ⟨-, hfound⟩ | ⟨-, rfl⟩⟩ := visitChild_eq_ok_iff.1 h
  · exact ⟨List.nodup_singleton _, by simp⟩
  · exact hsearch _ _ _ hfound
  · simp

lemma visit_once (depth : Nat) : Search.Once (t.visit root enter depth) := by
  induction depth with
  | zero =>
    intro trail names found h
    cases h
  | succ depth ih =>
    intro trail names found h
    obtain ⟨here, -, g, hg, rfl⟩ := visit_succ_eq_ok_iff.1 h
    have hstep : ∀ child ∈ t.children here,
        (g child).Nodup ∧ ∀ p ∈ g child, names ++ [child.1] <+: p :=
      fun child hchild => visitChild_once ih (hg child hchild)
    refine ⟨List.nodup_flatMap.2 ⟨fun child hchild => (hstep child hchild).1, ?_⟩, ?_⟩
    · -- Children have different names, so what is found through them differs too.
      have hdistinct := List.pairwise_map.1 (t.nodup_children here)
      refine hdistinct.imp_of_mem fun {a b} ha hb hne p hpa hpb => hne ?_
      have hprefix := List.prefix_of_prefix_length_le ((hstep a ha).2 p hpa)
        ((hstep b hb).2 p hpb) (by simp)
      simpa using hprefix.eq_of_length (by simp)
    · intro p hp
      obtain ⟨child, hchild, hp⟩ := List.mem_flatMap.1 hp
      exact (List.prefix_append names [child.1]).trans ((hstep child hchild).2 p hp)

end Once

section Listing

variable {t u : FileTree} {root : Path} {enter : String → Bool}

lemma get?_eq_of_perm (h : t.entries.Perm u.entries) (place : Place) :
    u.get? place = t.get? place := by
  by_cases hne : place = []
  · rw [hne, get?_nil, get?_nil]
  · apply Option.ext
    intro e
    rw [get?_eq_some_iff hne, get?_eq_some_iff hne, h.mem_iff]

lemma along_eq_of_get? (h : ∀ place, u.get? place = t.get? place) (missing : Missing) :
    u.along missing = t.along missing := by
  funext jump here ps
  induction ps generalizing here with
  | nil => rfl
  | cons piece rest ih => simp only [along, h, ih]

lemma follow_eq_of_get? (h : ∀ place, u.get? place = t.get? place) (missing : Missing)
    (links : Nat) : u.follow missing links = t.follow missing links := by
  induction links with
  | zero => rw [follow, follow, along_eq_of_get? h]
  | succ links ih => rw [follow, follow, along_eq_of_get? h, ih]

lemma locate_eq_of_perm (h : t.entries.Perm u.entries) (p : Path) : u.locate p = t.locate p := by
  simp only [locate, locateAs, follow_eq_of_get? (get?_eq_of_perm h)]

lemma isDirectory_eq_of_perm (h : t.entries.Perm u.entries) (p : Path) :
    u.isDirectory p = t.isDirectory p := by
  simp only [isDirectory, contents?, locate_eq_of_perm h, get?_eq_of_perm h]

lemma settle_eq_of_perm (h : t.entries.Perm u.entries) (path : Path) (place : Place)
    (entry : Entry) : u.settle path place entry = t.settle path place entry := by
  cases entry with
  | file contents => rfl
  | directory => rfl
  | link target => simp only [settle, locate_eq_of_perm h, get?_eq_of_perm h]

/-- A search that finds everything another one finds. -/
def Search.Alike (search search' : Search) : Prop :=
  ∀ trail names found, search trail names = .ok found →
    ∃ found', search' trail names = .ok found' ∧ found.Perm found'

lemma visitChild_alike {search search' : Search} (h : t.entries.Perm u.entries)
    (hsearch : search.Alike search') {trail : Trail} {here : Place} {names : List String}
    {name : String} {entry : Entry} {found : List (List String)}
    (hfound : t.visitChild root enter search trail here names name entry = .ok found) :
    ∃ found', u.visitChild root enter search' trail here names name entry = .ok found' ∧
      found.Perm found' := by
  simp only [visitChild_eq_ok_iff, settle_eq_of_perm h] at hfound ⊢
  obtain ⟨place, hsettle, rfl⟩ | ⟨place, hsettle, hloop, ⟨henter, hfound⟩ | ⟨henter, rfl⟩⟩ := hfound
  · exact ⟨_, .inl ⟨place, hsettle, rfl⟩, .refl _⟩
  · obtain ⟨found', hfound', hperm⟩ := hsearch _ _ _ hfound
    exact ⟨found', .inr ⟨place, hsettle, hloop, .inl ⟨henter, hfound'⟩⟩, hperm⟩
  · exact ⟨[], .inr ⟨place, hsettle, hloop, .inr ⟨henter, rfl⟩⟩, .refl _⟩

lemma visit_alike (h : t.entries.Perm u.entries) (depth : Nat) :
    Search.Alike (t.visit root enter depth) (u.visit root enter depth) := by
  induction depth with
  | zero =>
    intro trail names found hfound
    cases hfound
  | succ depth ih =>
    intro trail names found hfound
    obtain ⟨here, hlocate, g, hg, rfl⟩ := visit_succ_eq_ok_iff.1 hfound
    have hchildren : (t.children here).Perm (u.children here) := h.filterMap _
    choose! g' hg' hsame using fun child hchild => visitChild_alike h ih (hg child hchild)
    refine ⟨(u.children here).flatMap g', visit_succ_eq_ok_iff.2 ⟨here, ?_, g', ?_, rfl⟩,
      hchildren.flatMap hsame⟩
    · rw [locate_eq_of_perm h, hlocate]
    · intro child hchild
      exact hg' child (hchildren.mem_iff.2 hchild)

end Listing

section Walk

variable {t u : FileTree} {root : Path} {enter : String → Bool} {found : List (List String)}

lemma walk_eq_ok_iff :
    t.walk root enter = .ok found ↔
      ∃ place, t.locate root = .ok place ∧
        t.visit root enter pathLimit [(place, [])] [] = .ok found := by
  rw [walk]
  cases t.locate root with
  | error e => simp
  | ok place => simp

/-- A walk finds the files below a directory, and nothing else. -/
theorem mem_walk_iff {here : Place} (h : t.walk root enter = .ok found)
    (hhere : t.Reaches root here) (hopen : t.IsOpen here) (p : List String) :
    p ∈ found ↔ t.Finds enter here p := by
  obtain ⟨place, hlocate, hvisit⟩ := walk_eq_ok_iff.1 h
  have hexact := visit_exact (raw_ne_empty_of_locate hlocate) _ _ _ _ _ hvisit
    (List.forall_mem_nil _) hopen hhere p
  simpa using hexact

theorem nodup_walk (h : t.walk root enter = .ok found) : found.Nodup := by
  obtain ⟨_, -, hvisit⟩ := walk_eq_ok_iff.1 h
  exact (visit_once _ _ _ _ hvisit).1

/-- The order in which entries are listed only changes the order of what is found. -/
theorem walk_perm (hentries : t.entries.Perm u.entries) (h : t.walk root enter = .ok found) :
    ∃ found', u.walk root enter = .ok found' ∧ found.Perm found' := by
  obtain ⟨place, hlocate, hvisit⟩ := walk_eq_ok_iff.1 h
  obtain ⟨found', hvisit', hperm⟩ := visit_alike hentries _ _ _ _ hvisit
  rw [← locate_eq_of_perm hentries] at hlocate
  exact ⟨found', walk_eq_ok_iff.2 ⟨place, hlocate, hvisit'⟩, hperm⟩

end Walk

end FileTree
end Waymark
