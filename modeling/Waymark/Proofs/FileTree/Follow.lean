import Mathlib.Data.List.Nodup
import Waymark.Proofs.Path

/-! Following the pieces of a path through a tree. A path leads to at most one place, the way to it
can be cut at any piece, and what lies before the cut is a directory all of whose parents are
directories. -/
namespace Waymark
namespace FileTree

variable {t : FileTree}

section Entries

lemma get?_nil : t.get? [] = some .directory := rfl

lemma get?_eq_some_iff {place : Place} (hne : place ≠ []) {e : Entry} :
    t.get? place = some e ↔ (place, e) ∈ t.entries := by
  have hempty : place.isEmpty = false := by simpa using hne
  rw [get?, hempty, if_neg Bool.false_ne_true, List.lookup_eq_some_iff]
  constructor
  · rintro ⟨before, after, hentries, -⟩
    simp [hentries]
  · intro hmem
    obtain ⟨before, after, hentries⟩ := List.append_of_mem hmem
    refine ⟨before, after, hentries, ?_⟩
    have hdistinct := t.distinct
    rw [hentries, List.map_append, List.map_cons, List.nodup_middle, List.nodup_cons] at hdistinct
    intro x hx
    rw [bne_iff_ne]
    intro hsame
    exact hdistinct.1 (List.mem_append_left _ (List.mem_map.2 ⟨x, hx, hsame.symm⟩))

/-- Only the place of a child has its directory in front. -/
lemma eq_of_child {here place : Place} {e : Entry} {child : String × Entry}
    (h : (if place.dropLast = here then place.getLast?.map fun name => (name, e) else none) =
      some child) : place = here ++ [child.1] ∧ e = child.2 := by
  split_ifs at h with hparent
  obtain ⟨name, hlast, rfl⟩ := Option.map_eq_some_iff.1 h
  obtain ⟨front, rfl⟩ := List.getLast?_eq_some_iff.1 hlast
  rw [List.dropLast_concat] at hparent
  exact ⟨by rw [hparent], rfl⟩

lemma mem_children_iff {here : Place} {name : String} {e : Entry} :
    (name, e) ∈ t.children here ↔ t.get? (here ++ [name]) = some e := by
  rw [get?_eq_some_iff (by simp), children, List.mem_filterMap]
  constructor
  · rintro ⟨⟨place, e'⟩, hmem, hchild⟩
    obtain ⟨rfl, rfl⟩ := eq_of_child hchild
    exact hmem
  · intro hmem
    exact ⟨_, hmem, by simp⟩

lemma isEntryName_of_get? {here : Place} {name : String} {e : Entry}
    (h : t.get? (here ++ [name]) = some e) : isEntryName name = true :=
  t.named _ ((get?_eq_some_iff (by simp)).1 h) name (by simp)

lemma nodup_children (here : Place) : ((t.children here).map Prod.fst).Nodup := by
  have hsublist : ((t.children here).map fun child => here ++ [child.1]).Sublist
      (t.entries.map Prod.fst) := by
    rw [children]
    induction t.entries with
    | nil => exact List.Sublist.refl _
    | cons x l ih =>
      rw [List.filterMap_cons, List.map_cons]
      split
      next => exact ih.cons _
      next child hchild =>
        rw [List.map_cons, (eq_of_child hchild).1]
        exact ih.cons_cons _
  have hnodup := t.distinct.sublist hsublist
  rw [← Function.comp_def (fun name => here ++ [name]) Prod.fst, ← List.map_map] at hnodup
  exact hnodup.of_map

/-- A place where a file is. -/
def IsFile (t : FileTree) (place : Place) : Prop :=
  ∃ contents, t.get? place = some (.file contents)

/-- A directory that is reached through directories. -/
def IsOpen (t : FileTree) (place : Place) : Prop :=
  ∀ front, front <+: place → t.get? front = some .directory

lemma isOpen_nil : t.IsOpen [] := by
  intro front hfront
  rw [List.prefix_nil.1 hfront]
  exact get?_nil

lemma IsOpen.get? {place : Place} (h : t.IsOpen place) : t.get? place = some .directory :=
  h place (List.prefix_refl place)

lemma IsOpen.not_isFile {place : Place} (h : t.IsOpen place) : ¬t.IsFile place := by
  rintro ⟨contents, hfile⟩
  rw [h.get?] at hfile
  cases hfile

lemma IsOpen.dropLast {place : Place} (h : t.IsOpen place) : t.IsOpen place.dropLast :=
  fun front hfront => h front (hfront.trans (List.dropLast_prefix place))

lemma IsOpen.concat {place : Place} (h : t.IsOpen place) {name : String}
    (hname : t.get? (place ++ [name]) = some .directory) : t.IsOpen (place ++ [name]) := by
  intro front hfront
  rcases List.prefix_concat_iff.1 hfront with rfl | hfront
  · exact hname
  · exact h front hfront

end Entries

section Leads

/-- A piece of a path that names an entry. -/
structure Names (piece : String) : Prop where
  moves : ¬(piece = "" ∨ piece = ".")
  down : piece ≠ ".."
  fits : ¬nameLimit < piece.utf8ByteSize

lemma names_of_isEntryName {name : String} (h : isEntryName name = true) : Names name := by
  obtain ⟨hempty, hdot, hup, -, hsize⟩ := isEntryName_iff.1 h
  exact ⟨not_or.2 ⟨hempty, hdot⟩, hup, Nat.not_lt.2 hsize⟩

/-- Where the pieces of a path lead, however many links have to be followed on the way. -/
inductive Leads (t : FileTree) : Place → List String → Place → Prop
  | done (here : Place) : Leads t here [] here
  | stay {here place : Place} {piece : String} {rest : List String}
      (hpiece : piece = "" ∨ piece = ".") (h : Leads t here rest place) :
      Leads t here (piece :: rest) place
  | up {here place : Place} {rest : List String} (h : Leads t here.dropLast rest place) :
      Leads t here (".." :: rest) place
  | file {here : Place} {piece : String} (hpiece : Names piece)
      (hfile : t.IsFile (here ++ [piece])) : Leads t here [piece] (here ++ [piece])
  | directory {here place : Place} {piece : String} {rest : List String} (hpiece : Names piece)
      (hdirectory : t.get? (here ++ [piece]) = some .directory)
      (h : Leads t (here ++ [piece]) rest place) : Leads t here (piece :: rest) place
  | link {here place : Place} {piece target : String} {rest : List String} (hpiece : Names piece)
      (hlink : t.get? (here ++ [piece]) = some (.link target))
      (h : Leads t (origin here target) (pieces target ++ rest) place) :
      Leads t here (piece :: rest) place

variable {here mid place : Place} {ps qs : List String}

lemma leads_of_along {jump : Place → List String → Except SystemError Place}
    (hjump : ∀ here ps place, jump here ps = .ok place → t.Leads here ps place)
    (h : t.along .refused jump here ps = .ok place) : t.Leads here ps place := by
  fun_induction t.along .refused jump here ps with
  | case1 here =>
    obtain rfl := Except.ok.inj h
    exact .done here
  | case2 here piece rest hpiece ih => exact .stay hpiece (ih h)
  | case3 here rest _ ih => exact .up (ih h)
  | case8 here piece rest hmoves hup hfits contents hfile hlast =>
    obtain rfl := Except.ok.inj h
    obtain rfl := List.isEmpty_iff.1 hlast
    exact .file ⟨hmoves, hup, hfits⟩ ⟨contents, hfile⟩
  | case10 here piece rest hmoves hup hfits hdirectory ih =>
    exact .directory ⟨hmoves, hup, hfits⟩ hdirectory (ih h)
  | case11 here piece rest hmoves hup hfits target hlink =>
    exact .link ⟨hmoves, hup, hfits⟩ hlink (hjump _ _ _ h)
  | case6 => simp_all
  | case4 => cases h
  | case5 => cases h
  | case7 => cases h
  | case9 => cases h

lemma leads_of_follow {links : Nat} (h : t.follow .refused links here ps = .ok place) :
    t.Leads here ps place := by
  induction links generalizing here ps place with
  | zero =>
    refine leads_of_along (fun _ _ _ hjump => ?_) h
    cases hjump
  | succ links ih => exact leads_of_along (fun _ _ _ hjump => ih hjump) h

lemma Leads.unique {place' : Place} (h : t.Leads here ps place) (h' : t.Leads here ps place') :
    place = place' := by
  induction h with
  | done here => cases h'; rfl
  | stay hpiece _ ih =>
    cases h' with
    | stay _ h' => exact ih h'
    | up => simp at hpiece
    | file hnames => exact absurd hpiece hnames.moves
    | directory hnames => exact absurd hpiece hnames.moves
    | link hnames => exact absurd hpiece hnames.moves
  | up _ ih =>
    cases h' with
    | stay hpiece => simp at hpiece
    | up h' => exact ih h'
    | file hnames => exact absurd rfl hnames.down
    | directory hnames => exact absurd rfl hnames.down
    | link hnames => exact absurd rfl hnames.down
  | file hnames hfile =>
    cases h' with
    | stay hpiece => exact absurd hpiece hnames.moves
    | up => exact absurd rfl hnames.down
    | file => rfl
    | directory _ hdirectory => simp [IsFile, hdirectory] at hfile
    | link _ hlink => simp [IsFile, hlink] at hfile
  | directory hnames hdirectory _ ih =>
    cases h' with
    | stay hpiece => exact absurd hpiece hnames.moves
    | up => exact absurd rfl hnames.down
    | file _ hfile => simp [IsFile, hdirectory] at hfile
    | directory _ _ h' => exact ih h'
    | link _ hlink => simp [hdirectory] at hlink
  | link hnames hlink _ ih =>
    cases h' with
    | stay hpiece => exact absurd hpiece hnames.moves
    | up => exact absurd rfl hnames.down
    | file _ hfile => simp [IsFile, hlink] at hfile
    | directory _ hdirectory => simp [hlink] at hdirectory
    | link _ hlink' h' =>
      rw [hlink] at hlink'
      cases hlink'
      exact ih h'

lemma IsOpen.origin (h : t.IsOpen here) (target : String) : t.IsOpen (origin here target) := by
  rw [FileTree.origin]
  split
  · exact isOpen_nil
  · exact h

lemma Leads.isOpen_or_isFile (h : t.Leads here ps place) (hopen : t.IsOpen here) :
    t.IsOpen place ∨ t.IsFile place := by
  induction h with
  | done here => exact .inl hopen
  | stay _ _ ih => exact ih hopen
  | up _ ih => exact ih hopen.dropLast
  | file _ hfile => exact .inr hfile
  | directory _ hdirectory _ ih => exact ih (hopen.concat hdirectory)
  | link _ _ _ ih => exact ih (hopen.origin _)

lemma Leads.append (h : t.Leads here ps mid) (hmid : ¬t.IsFile mid) (h' : t.Leads mid qs place) :
    t.Leads here (ps ++ qs) place := by
  induction h with
  | done here => exact h'
  | stay hpiece _ ih => exact .stay hpiece (ih hmid h')
  | up _ ih => exact .up (ih hmid h')
  | file _ hfile => exact absurd hfile hmid
  | directory hnames hdirectory _ ih => exact .directory hnames hdirectory (ih hmid h')
  | link hnames hlink _ ih =>
    have htarget := ih hmid h'
    rw [List.append_assoc] at htarget
    exact .link hnames hlink htarget

/-- The way can be cut at any piece. -/
lemma Leads.split (h : t.Leads here (ps ++ qs) place) (hopen : t.IsOpen here) (hqs : qs ≠ []) :
    ∃ mid, t.IsOpen mid ∧ t.Leads here ps mid ∧ t.Leads mid qs place := by
  generalize hall : ps ++ qs = all at h
  induction h generalizing ps with
  | done here =>
    obtain ⟨-, rfl⟩ := List.append_eq_nil_iff.1 hall
    exact absurd rfl hqs
  | @stay here place piece rest hpiece h ih =>
    cases ps with
    | nil =>
      rw [List.nil_append] at hall
      exact ⟨here, hopen, .done here, hall.symm ▸ .stay hpiece h⟩
    | cons p ps =>
      obtain ⟨rfl, rfl⟩ := List.cons.inj hall
      obtain ⟨mid, hmid, hps, hrest⟩ := ih hopen rfl
      exact ⟨mid, hmid, .stay hpiece hps, hrest⟩
  | @up here place rest h ih =>
    cases ps with
    | nil =>
      rw [List.nil_append] at hall
      exact ⟨here, hopen, .done here, hall.symm ▸ .up h⟩
    | cons p ps =>
      obtain ⟨rfl, rfl⟩ := List.cons.inj hall
      obtain ⟨mid, hmid, hps, hrest⟩ := ih hopen.dropLast rfl
      exact ⟨mid, hmid, .up hps, hrest⟩
  | @file here piece hnames hfile =>
    cases ps with
    | nil =>
      rw [List.nil_append] at hall
      exact ⟨here, hopen, .done here, hall.symm ▸ .file hnames hfile⟩
    | cons p ps =>
      obtain ⟨-, hnil⟩ := List.cons.inj hall
      obtain ⟨-, rfl⟩ := List.append_eq_nil_iff.1 hnil
      exact absurd rfl hqs
  | @directory here place piece rest hnames hdirectory h ih =>
    cases ps with
    | nil =>
      rw [List.nil_append] at hall
      exact ⟨here, hopen, .done here, hall.symm ▸ .directory hnames hdirectory h⟩
    | cons p ps =>
      obtain ⟨rfl, rfl⟩ := List.cons.inj hall
      obtain ⟨mid, hmid, hps, hrest⟩ := ih (hopen.concat hdirectory) rfl
      exact ⟨mid, hmid, .directory hnames hdirectory hps, hrest⟩
  | @link here place piece target rest hnames hlink h ih =>
    cases ps with
    | nil =>
      rw [List.nil_append] at hall
      exact ⟨here, hopen, .done here, hall.symm ▸ .link hnames hlink h⟩
    | cons p ps =>
      obtain ⟨rfl, rfl⟩ := List.cons.inj hall
      obtain ⟨mid, hmid, hps, hrest⟩ := ih (hopen.origin target) (List.append_assoc ..)
      exact ⟨mid, hmid, .link hnames hlink hps, hrest⟩

lemma Leads.split_cons {piece : String} (h : t.Leads here (piece :: qs) place)
    (hopen : t.IsOpen here) (hqs : qs ≠ []) :
    ∃ mid, t.IsOpen mid ∧ t.Leads here [piece] mid ∧ t.Leads mid qs place :=
  have hall : t.Leads here ([piece] ++ qs) place := h
  hall.split hopen hqs

lemma leads_append_iff (hopen : t.IsOpen here) (hqs : qs ≠ []) :
    t.Leads here (ps ++ qs) place ↔
      ∃ mid, t.IsOpen mid ∧ t.Leads here ps mid ∧ t.Leads mid qs place :=
  ⟨fun h => h.split hopen hqs, fun ⟨_, hmid, hps, hrest⟩ => hps.append hmid.not_isFile hrest⟩

/-- A name leads nowhere if the directory has no such entry. -/
lemma Leads.exists_entry {name : String} {rest : List String}
    (h : t.Leads here (name :: rest) place) (hname : isEntryName name = true) :
    ∃ e, t.get? (here ++ [name]) = some e := by
  have hnames := names_of_isEntryName hname
  cases h with
  | stay hpiece => exact absurd hpiece hnames.moves
  | up => exact absurd rfl hnames.down
  | file _ hfile => exact hfile.elim fun contents h => ⟨_, h⟩
  | directory _ hdirectory => exact ⟨_, hdirectory⟩
  | link _ hlink => exact ⟨_, hlink⟩

end Leads

section Reaches

/-- Where a path leads from the top of the tree. -/
def Reaches (t : FileTree) (p : Path) (place : Place) : Prop :=
  t.Leads [] (pieces p.raw) place

variable {p : Path} {place place' : Place}

lemma reaches_of_locate (h : t.locate p = .ok place) : t.Reaches p place := by
  rw [locate, locateAs] at h
  split_ifs at h
  exact leads_of_follow h

lemma raw_ne_empty_of_locate (h : t.locate p = .ok place) : p.raw ≠ "" := by
  intro hempty
  rw [locate, locateAs, hempty] at h
  cases h

lemma Reaches.unique (h : t.Reaches p place) (h' : t.Reaches p place') : place = place' :=
  Leads.unique h h'

lemma Reaches.isOpen_or_isFile (h : t.Reaches p place) : t.IsOpen place ∨ t.IsFile place :=
  Leads.isOpen_or_isFile h isOpen_nil

lemma exists_open_of_isDirectory (h : t.isDirectory p = true) :
    ∃ place, t.locate p = .ok place ∧ t.IsOpen place := by
  rw [isDirectory, contents?] at h
  cases hlocate : t.locate p with
  | error e =>
    rw [hlocate] at h
    cases h
  | ok place =>
    refine ⟨place, rfl, (reaches_of_locate hlocate).isOpen_or_isFile.resolve_right ?_⟩
    rintro ⟨contents, hfile⟩
    rw [hlocate, Except.map, hfile] at h
    cases h

lemma raw_ne_empty_of_isDirectory (h : t.isDirectory p = true) : p.raw ≠ "" := by
  obtain ⟨_, hlocate, -⟩ := exists_open_of_isDirectory h
  exact raw_ne_empty_of_locate hlocate

lemma isFile_eq_false_of_isDirectory (h : t.isDirectory p = true) : t.isFile p = false := by
  rw [isDirectory] at h
  rw [isFile]
  split at h
  next hcontents => rw [hcontents]
  next => cases h

/-- A slash at the end of a path makes no difference to the directory it leads to. -/
lemma reaches_iff_stem (hopen : t.IsOpen place) :
    t.Reaches p place ↔ t.Leads [] (p.stem.map String.ofList) place := by
  have hpieces : pieces p.raw = p.texts.map String.ofList := rfl
  rw [Reaches, hpieces]
  rcases p.texts_eq with htexts | htexts
  · rw [htexts]
  · rw [htexts, List.map_append]
    constructor
    · intro h
      obtain ⟨mid, -, hstem, hlast⟩ := h.split isOpen_nil (List.cons_ne_nil _ _)
      obtain rfl := hlast.unique (.stay (.inl rfl) (.done mid))
      exact hstem
    · intro h
      exact h.append hopen.not_isFile (.stay (.inl rfl) (.done place))

/-- A path that goes down from a directory leads where its names lead from there. -/
lemma reaches_descend_iff {names : List String} (hp : p.raw ≠ "") (hnames : AreNames names)
    (hne : names ≠ []) :
    t.Reaches (p.descend names) place ↔
      ∃ here, t.IsOpen here ∧ t.Reaches p here ∧ t.Leads here names place := by
  have hpieces : pieces (p.descend names).raw = p.stem.map String.ofList ++ names := by
    change (p.descend names).texts.map String.ofList = _
    rw [Path.texts_descend hp hnames hne, List.map_append, List.map_map]
    simp [Function.comp_def]
  rw [Reaches, hpieces, leads_append_iff isOpen_nil hne]
  constructor
  · rintro ⟨here, hopen, hstem, h⟩
    exact ⟨here, hopen, (reaches_iff_stem hopen).2 hstem, h⟩
  · rintro ⟨here, hopen, hp, h⟩
    exact ⟨here, hopen, (reaches_iff_stem hopen).1 hp, h⟩

lemma reaches_descend_concat_iff {names : List String} {name : String} (hp : p.raw ≠ "")
    (hnames : AreNames names) (hname : isEntryName name = true) :
    t.Reaches (p.descend (names ++ [name])) place ↔
      ∃ here, t.IsOpen here ∧ t.Reaches (p.descend names) here ∧ t.Leads here [name] place := by
  have hstep : p.descend (names ++ [name]) = (p.descend names).descend [name] := by
    rw [Path.descend_concat]
    rfl
  have hsingle : AreNames [name] := by simpa [AreNames] using hname
  rw [hstep]
  exact reaches_descend_iff (Path.descend_ne_empty hp hnames) hsingle (List.cons_ne_nil _ _)

end Reaches

end FileTree
end Waymark
