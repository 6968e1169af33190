import Waymark.Json.Decode
import Waymark.Proofs.Json.RoundTrip

/-! Written structures are read back part by part: numbers that fit a machine word, lists of values
that can be read themselves, and the fields of an object whose names are distinct. -/
namespace Waymark
namespace Json

lemma nat?_nat {n : Nat} (h : n < wordLimit) : nat? (nat n) = some n := by
  have hdigits : (Nat.toDigits 10 n).all Char.isDigit = true := by
    rw [List.all_eq_true]
    exact fun c hc => Nat.isDigit_of_mem_toDigits (by decide) (by decide) hc
  simp [nat?, nat, hdigits, Nat.ofDigitChars_ten_toDigits, h]

lemma str?_str (s : String) : str? (.str s) = some s := rfl

lemma mapM_map_of_inverse {α β : Type} {f : β → Option α} {g : α → β} {l : List α}
    (h : ∀ a ∈ l, f (g a) = some a) : (l.map g).mapM f = some l := by
  induction l with
  | nil => rfl
  | cons a l ih =>
    obtain ⟨ha, hl⟩ := List.forall_mem_cons.1 h
    rw [List.map_cons, List.mapM_cons, ha, ih hl]
    rfl

lemma list?_map {α : Type} {f : Json → Option α} {g : α → Json} {l : List α}
    (h : ∀ a ∈ l, f (g a) = some a) : list? f (.array (l.map g)) = some l :=
  mapM_map_of_inverse h

lemma valuesOf_obj {fields : List (String × Json)} (hnodup : (fields.map Prod.fst).Nodup)
    (name : String) :
    valuesOf name (fields.map fun (k, v) => (some k, v)) = (fields.lookup name).toList := by
  have hvalues : ∀ l : List (String × Json), valuesOf name (l.map fun (k, v) => (some k, v)) =
      (l.filter fun f => f.1 == name).map Prod.snd := by
    intro l
    simp [valuesOf, List.filter_map, Function.comp_def]
  rw [hvalues]
  induction fields with
  | nil => rfl
  | cons f fields ih =>
    obtain ⟨hf, hfields⟩ := List.nodup_cons.1 hnodup
    by_cases hname : f.1 = name
    · have hrest : fields.filter (fun g => g.1 == name) = [] := by
        rw [List.filter_eq_nil_iff]
        intro g hg h
        exact hf (hname ▸ beq_iff_eq.1 h ▸ List.mem_map_of_mem hg)
      subst hname
      rw [List.filter_cons_of_pos (by simp), hrest, List.lookup_cons_self]
      rfl
    · have hother : (name == f.1) = false := beq_eq_false_iff_ne.2 (Ne.symm hname)
      rw [List.filter_cons_of_neg (by simpa using hname), ih hfields, List.lookup_cons, hother]

/-- In an object of distinct names every name has its own field or none. -/
lemma columns?_obj {fields : List (String × Json)} {keys : List String}
    (hnodup : keys.Nodup) (hkeys : fields.map Prod.fst = keys) (names : List String) :
    columns? names (.obj fields) = some (names.map fun name => fields.lookup name) := by
  subst hkeys
  have htexts : (fields.map fun (k, v) => (some k, v)).all (fun f => f.1.isSome) = true := by
    simp
  have honce : names.all (fun n =>
      (valuesOf n (fields.map fun (k, v) => (some k, v))).length ≤ 1) = true := by
    rw [List.all_eq_true]
    intro n _
    rw [valuesOf_obj hnodup, decide_eq_true_eq]
    exact Option.length_toList_le
  rw [obj, columns?, htexts, honce, Bool.and_self, if_pos rfl, Option.some.injEq]
  apply List.map_congr_left
  intro n _
  rw [valuesOf_obj hnodup, Option.head?_toList]

lemma natural_obj {fields : List (String × Json)} (h : ∀ f ∈ fields, Natural f.2) :
    Natural (.obj fields) := by
  apply Natural.object
  intro _ hmem
  obtain ⟨f, hf, rfl⟩ := List.mem_map.1 hmem
  exact h f hf

lemma natural_array_map {α : Type} {f : α → Json} (h : ∀ a, Natural (f a)) (l : List α) :
    Natural (.array (l.map f)) := by
  apply Natural.array
  intro _ hv
  obtain ⟨a, -, rfl⟩ := List.mem_map.1 hv
  exact h a

end Json
end Waymark
