/-! Properties of a waymark: texts under names, each name once, in the order of the names. -/
namespace Waymark

structure Properties where
  entries : List (String × String)
  ordered : entries.Pairwise fun a b => a.1 < b.1

namespace Properties

def empty : Properties :=
  ⟨[], .nil⟩

instance : Inhabited Properties :=
  ⟨empty⟩

/-- Adds an entry to a list in order; an entry of the same name is replaced. -/
def insertEntry (name value : String) : List (String × String) → List (String × String)
  | [] => [(name, value)]
  | (n, v) :: rest =>
    if name < n then (name, value) :: (n, v) :: rest
    else if n < name then (n, v) :: insertEntry name value rest
    else (name, value) :: rest

theorem mem_insertEntry {name value : String} {e : String × String}
    {entries : List (String × String)} (h : e ∈ insertEntry name value entries) :
    e = (name, value) ∨ e ∈ entries := by
  induction entries with
  | nil => simpa [insertEntry] using h
  | cons x rest ih =>
    simp only [insertEntry] at h
    split at h
    · simpa using h
    · split at h <;> simp only [List.mem_cons] at h ⊢ <;> grind

theorem insertEntry_ordered {name value : String} {entries : List (String × String)}
    (h : entries.Pairwise fun a b => a.1 < b.1) :
    (insertEntry name value entries).Pairwise fun a b => a.1 < b.1 := by
  induction entries with
  | nil => simp [insertEntry]
  | cons x rest ih =>
    have ⟨hx, hr⟩ := List.pairwise_cons.1 h
    simp only [insertEntry]
    split
    · rename_i hlt
      refine List.pairwise_cons.2 ⟨fun b hb => ?_, h⟩
      rcases List.mem_cons.1 hb with rfl | hb
      · exact hlt
      · exact String.lt_trans hlt (hx b hb)
    · split
      · rename_i hlt
        refine List.pairwise_cons.2 ⟨fun b hb => ?_, ih hr⟩
        rcases mem_insertEntry hb with rfl | hb
        · exact hlt
        · exact hx b hb
      · rename_i h1 h2
        have he : name = x.1 :=
          String.le_antisymm (String.not_lt.1 h2) (String.not_lt.1 h1)
        refine List.pairwise_cons.2 ⟨fun b hb => ?_, hr⟩
        simpa [he] using hx b hb

/-- Gives a name its text. -/
def insert (p : Properties) (name value : String) : Properties :=
  ⟨insertEntry name value p.entries, insertEntry_ordered p.ordered⟩

/-- The last text given to a name counts. -/
def ofList (entries : List (String × String)) : Properties :=
  entries.foldl (fun p e => p.insert e.1 e.2) empty

instance : DecidableEq Properties := fun p q =>
  if h : p.entries = q.entries then isTrue (by cases p; cases q; simp_all)
  else isFalse (by rintro rfl; exact h rfl)

end Properties
end Waymark
