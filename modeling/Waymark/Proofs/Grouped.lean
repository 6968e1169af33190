import Mathlib.Data.List.Basic
import Mathlib.Data.List.Induction
import Mathlib.Data.List.Nodup
import Waymark.Grouped

/-! What gathering pairs under keys amounts to: each key that occurs has one group, and that group
holds the values of its pairs in order. The order of the pairs decides that of the groups and of
their values, but neither the keys nor how many values each has. -/
namespace Waymark
namespace Grouped

variable {κ α : Type} [DecidableEq κ]

/-- The values that stand under a key in a list of pairs. -/
def valuesOf (pairs : List (κ × α)) (k : κ) : List α :=
  (pairs.filter fun p => p.1 = k).map Prod.snd

@[simp] lemma valuesOf_nil (k : κ) : valuesOf ([] : List (κ × α)) k = [] := rfl

lemma valuesOf_append (ps qs : List (κ × α)) (k : κ) :
    valuesOf (ps ++ qs) k = valuesOf ps k ++ valuesOf qs k := by
  simp [valuesOf]

lemma valuesOf_singleton (k j : κ) (v : α) :
    valuesOf [(k, v)] j = if k = j then [v] else [] := by
  by_cases h : k = j <;> simp [valuesOf, h]

lemma valuesOf_eq_nil_iff (pairs : List (κ × α)) (k : κ) :
    valuesOf pairs k = [] ↔ k ∉ pairs.map Prod.fst := by
  simp only [valuesOf, List.map_eq_nil_iff, List.filter_eq_nil_iff, decide_eq_true_eq,
    List.mem_map, not_exists, not_and]

lemma valuesOf_length (pairs : List (κ × α)) (k : κ) :
    (valuesOf pairs k).length = (pairs.map Prod.fst).count k := by
  rw [valuesOf, List.length_map, List.count, List.countP_map, List.countP_eq_length_filter]
  rfl

lemma keys_addTo (k : κ) (v : α) (gs : List (κ × List α)) :
    (addTo k v gs).map Prod.fst =
      if k ∈ gs.map Prod.fst then gs.map Prod.fst else gs.map Prod.fst ++ [k] := by
  induction gs with
  | nil => simp [addTo]
  | cons g gs ih =>
    obtain ⟨j, vs⟩ := g
    by_cases hj : j = k
    · simp [addTo, hj]
    · by_cases hk : k ∈ gs.map Prod.fst <;> simp_all [addTo, Ne.symm hj]

/-- Adding to another key leaves a group alone. -/
lemma mem_addTo_of_ne {k j : κ} (h : j ≠ k) (v : α) (vs : List α) (gs : List (κ × List α)) :
    (j, vs) ∈ addTo k v gs ↔ (j, vs) ∈ gs := by
  induction gs with
  | nil => simp [addTo, h]
  | cons g gs ih =>
    obtain ⟨i, us⟩ := g
    by_cases hi : i = k
    · simp [addTo, hi, h]
    · simp [addTo, hi, ih]

lemma mem_addTo_self {k : κ} {gs : List (κ × List α)} (hn : (gs.map Prod.fst).Nodup) (v : α)
    (vs : List α) :
    (k, vs) ∈ addTo k v gs ↔
      (∃ us, (k, us) ∈ gs ∧ vs = us ++ [v]) ∨ k ∉ gs.map Prod.fst ∧ vs = [v] := by
  induction gs with
  | nil => simp [addTo]
  | cons g gs ih =>
    obtain ⟨i, us⟩ := g
    rw [List.map_cons, List.nodup_cons] at hn
    by_cases hi : i = k
    · subst hi
      -- The group at the head is the one of the key, so no later one is.
      have hl : ∀ ws, (i, ws) ∉ gs := fun ws hw => hn.1 (List.mem_map.2 ⟨(i, ws), hw, rfl⟩)
      simp [addTo, hl]
    · simp [addTo, hi, Ne.symm hi, ih hn.2]

/-- The groups hold exactly the given pairs. -/
structure Gathers (gs : List (κ × List α)) (pairs : List (κ × α)) : Prop where
  nodup : (gs.map Prod.fst).Nodup
  mem_iff : ∀ k vs, (k, vs) ∈ gs ↔ vs = valuesOf pairs k ∧ vs ≠ []

lemma Gathers.mem_keys_iff {gs : List (κ × List α)} {pairs : List (κ × α)} (h : Gathers gs pairs)
    (k : κ) : k ∈ gs.map Prod.fst ↔ k ∈ pairs.map Prod.fst := by
  constructor
  · intro hk
    obtain ⟨⟨j, vs⟩, hg, rfl⟩ := List.mem_map.1 hk
    obtain ⟨rfl, hne⟩ := (h.mem_iff j vs).1 hg
    by_contra hc
    exact hne ((valuesOf_eq_nil_iff pairs j).2 hc)
  · intro hk
    have hne : valuesOf pairs k ≠ [] := fun hc => (valuesOf_eq_nil_iff pairs k).1 hc hk
    exact List.mem_map_of_mem ((h.mem_iff k _).2 ⟨rfl, hne⟩)

lemma gathers_nil : Gathers ([] : List (κ × List α)) [] :=
  ⟨List.nodup_nil, by simp⟩

/-- One more pair: the step of the loop. -/
lemma Gathers.add {gs : List (κ × List α)} {pairs : List (κ × α)} (h : Gathers gs pairs) (k : κ)
    (v : α) : Gathers (addTo k v gs) (pairs ++ [(k, v)]) where
  nodup := by
    rw [keys_addTo]
    split
    · exact h.nodup
    · rename_i hk
      exact List.Nodup.append h.nodup (List.nodup_singleton k) (by simpa using hk)
  mem_iff j vs := by
    rw [valuesOf_append, valuesOf_singleton]
    by_cases hj : j = k
    · subst hj
      rw [mem_addTo_self h.nodup, h.mem_keys_iff, ← valuesOf_eq_nil_iff, if_pos rfl]
      constructor
      · rintro (⟨us, hu, rfl⟩ | ⟨hk, rfl⟩)
        · simp [((h.mem_iff j us).1 hu).1]
        · simp [hk]
      · rintro ⟨rfl, -⟩
        by_cases hu : valuesOf pairs j = []
        · exact Or.inr ⟨hu, by simp [hu]⟩
        · exact Or.inl ⟨_, (h.mem_iff j _).2 ⟨rfl, hu⟩, rfl⟩
    · rw [mem_addTo_of_ne hj, h.mem_iff, if_neg (Ne.symm hj), List.append_nil]

lemma gathers_foldl (qs : List (κ × α)) {g : Grouped κ α} {pairs : List (κ × α)}
    (h : Gathers g.groups pairs) :
    Gathers (qs.foldl (fun g p => g.add p.1 p.2) g).groups (pairs ++ qs) := by
  induction qs generalizing g pairs with
  | nil => simpa using h
  | cons q qs ih => simpa using ih (g := g.add q.1 q.2) (h.add q.1 q.2)

/-- The whole run of the loop. -/
theorem gathers_ofList (pairs : List (κ × α)) : Gathers (ofList pairs).groups pairs :=
  gathers_foldl pairs (g := empty) gathers_nil

theorem contains_ofList (pairs : List (κ × α)) (k : κ) :
    (ofList pairs).contains k = true ↔ k ∈ pairs.map Prod.fst := by
  rw [← (gathers_ofList pairs).mem_keys_iff]
  simp [contains]

/-- The values under a key are those of its pairs, in order. -/
theorem get_ofList (pairs : List (κ × α)) (k : κ) : (ofList pairs).get k = valuesOf pairs k := by
  have hg := gathers_ofList pairs
  cases hfind : (ofList pairs).groups.find? fun p => p.1 = k with
  | none =>
    have hk : k ∉ (ofList pairs).groups.map Prod.fst := by
      intro hc
      obtain ⟨p, hp, rfl⟩ := List.mem_map.1 hc
      simpa using List.find?_eq_none.1 hfind p hp
    rw [hg.mem_keys_iff, ← valuesOf_eq_nil_iff] at hk
    simp [get, hfind, hk]
  | some p =>
    obtain ⟨j, vs⟩ := p
    obtain rfl : j = k := by simpa using List.find?_some hfind
    obtain ⟨rfl, -⟩ := (hg.mem_iff j vs).1 (List.mem_of_find?_eq_some hfind)
    simp [get, hfind]

lemma addTo_of_not_mem {k : κ} {gs : List (κ × List α)} (h : k ∉ gs.map Prod.fst) (v : α) :
    addTo k v gs = gs ++ [(k, [v])] := by
  induction gs with
  | nil => rfl
  | cons g gs ih =>
    simp only [List.map_cons, List.mem_cons, not_or] at h
    rw [addTo, if_neg (Ne.symm h.1), ih h.2]
    rfl

lemma groups_concat (pairs : List (κ × α)) (p : κ × α) :
    (ofList (pairs ++ [p])).groups = addTo p.1 p.2 (ofList pairs).groups := by
  rw [ofList, List.foldl_concat]
  rfl

/-- A pair with a new key makes a group of its own, behind all others. -/
theorem groups_ofList_concat {pairs : List (κ × α)} {k : κ} (h : k ∉ pairs.map Prod.fst) (v : α) :
    (ofList (pairs ++ [(k, v)])).groups = (ofList pairs).groups ++ [(k, [v])] := by
  rw [← (gathers_ofList pairs).mem_keys_iff] at h
  rw [groups_concat, addTo_of_not_mem h]

lemma eraseDups_concat (ks : List κ) (k : κ) :
    (ks ++ [k]).eraseDups = if k ∈ ks then ks.eraseDups else ks.eraseDups ++ [k] := by
  rw [List.eraseDups_append]
  by_cases hk : k ∈ ks <;> simp [List.removeAll, List.eraseDups_cons, hk]

/-- The keys stand in the order in which they come up first. -/
lemma keys_ofList (pairs : List (κ × α)) :
    (ofList pairs).groups.map Prod.fst = (pairs.map Prod.fst).eraseDups := by
  induction pairs using List.reverseRecOn with
  | nil => rfl
  | append_singleton pairs p ih =>
    rw [groups_concat, keys_addTo, ih, List.map_append, List.map_singleton, eraseDups_concat]
    simp only [List.mem_eraseDups]

/-- All groups at once: every key, by first appearance, with its values. -/
theorem groups_ofList (pairs : List (κ × α)) :
    (ofList pairs).groups =
      (pairs.map Prod.fst).eraseDups.map fun k => (k, valuesOf pairs k) := by
  rw [← keys_ofList, List.map_map]
  refine (List.map_id _).symm.trans (List.map_congr_left fun g hg => ?_)
  obtain ⟨k, vs⟩ := g
  obtain ⟨rfl, -⟩ := ((gathers_ofList pairs).mem_iff k vs).1 hg
  rfl

/-- No group has a second value exactly when no key occurs twice. -/
theorem forall_length_le_one_iff (pairs : List (κ × α)) :
    (∀ p ∈ (ofList pairs).groups, p.2.length ≤ 1) ↔ (pairs.map Prod.fst).Nodup := by
  rw [List.nodup_iff_count_le_one]
  constructor
  · intro h k
    rw [← valuesOf_length]
    by_cases hk : valuesOf pairs k = []
    · simp [hk]
    · exact h (k, _) (((gathers_ofList pairs).mem_iff k _).2 ⟨rfl, hk⟩)
  · rintro h ⟨k, vs⟩ hp
    obtain ⟨rfl, -⟩ := ((gathers_ofList pairs).mem_iff k vs).1 hp
    rw [valuesOf_length]
    exact h k

/-- The pairs that the groups stand for, group by group. -/
def pairsOf (gs : List (κ × List α)) : List (κ × α) :=
  gs.flatMap fun p => p.2.map (Prod.mk p.1)

lemma pairsOf_addTo_perm (k : κ) (v : α) (gs : List (κ × List α)) :
    (pairsOf (addTo k v gs)).Perm (pairsOf gs ++ [(k, v)]) := by
  induction gs with
  | nil => exact List.Perm.refl _
  | cons g gs ih =>
    obtain ⟨j, vs⟩ := g
    by_cases hj : j = k
    · -- The new pair stands at the end of the first group and moves behind the others.
      subst hj
      simp only [addTo, if_pos, pairsOf, List.flatMap_cons, List.map_append, List.map_singleton,
        List.append_assoc]
      exact List.perm_append_comm.append_left _
    · simp only [addTo, if_neg hj, pairsOf, List.flatMap_cons, List.append_assoc]
      exact ih.append_left _

lemma pairsOf_foldl_perm (qs : List (κ × α)) (g : Grouped κ α) :
    (pairsOf (qs.foldl (fun g p => g.add p.1 p.2) g).groups).Perm (pairsOf g.groups ++ qs) := by
  induction qs generalizing g with
  | nil => simp
  | cons q qs ih =>
    have hstep := (pairsOf_addTo_perm q.1 q.2 g.groups).append_right qs
    rw [List.append_assoc] at hstep
    exact (ih (g.add q.1 q.2)).trans hstep

/-- Gathering loses no pair and makes none up. -/
theorem pairsOf_ofList_perm (pairs : List (κ × α)) :
    (pairsOf (ofList pairs).groups).Perm pairs :=
  pairsOf_foldl_perm pairs empty

/-- Each key with the number of its values. -/
def counts (g : Grouped κ α) : List (κ × Nat) :=
  g.groups.map fun p => (p.1, p.2.length)

lemma mem_counts_ofList (pairs : List (κ × α)) (k : κ) (n : Nat) :
    (k, n) ∈ (ofList pairs).counts ↔ n = (pairs.map Prod.fst).count k ∧ n ≠ 0 := by
  rw [counts, List.mem_map]
  constructor
  · rintro ⟨⟨j, vs⟩, hp, he⟩
    obtain ⟨rfl, rfl⟩ := Prod.mk.inj he
    obtain ⟨rfl, hne⟩ := ((gathers_ofList pairs).mem_iff j vs).1 hp
    exact ⟨valuesOf_length pairs j, by simpa using hne⟩
  · rintro ⟨rfl, hne⟩
    rw [← valuesOf_length] at hne ⊢
    have hvalues : valuesOf pairs k ≠ [] := fun hc => hne (by simp [hc])
    exact ⟨_, ((gathers_ofList pairs).mem_iff k _).2 ⟨rfl, hvalues⟩, rfl⟩

lemma nodup_counts_ofList (pairs : List (κ × α)) : (ofList pairs).counts.Nodup := by
  apply List.Nodup.of_map Prod.fst
  rw [counts, List.map_map]
  exact (gathers_ofList pairs).nodup

/-- The order of the pairs does not matter for the keys and the number of their values. -/
theorem counts_perm {pairs pairs' : List (κ × α)} (h : pairs.Perm pairs') :
    (ofList pairs).counts.Perm (ofList pairs').counts := by
  rw [List.perm_ext_iff_of_nodup (nodup_counts_ofList pairs) (nodup_counts_ofList pairs')]
  rintro ⟨k, n⟩
  rw [mem_counts_ofList, mem_counts_ofList, (h.map Prod.fst).count_eq]

end Grouped
end Waymark
