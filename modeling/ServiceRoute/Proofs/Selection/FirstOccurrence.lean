import Mathlib.Data.List.Nodup
import ServiceRoute.Selection.FirstOccurrence

/-!
# First occurrences

The elements kept by `firstPer` are those that a search for their key finds, and no two of them
have the same key.
-/

namespace ServiceRoute.Selection

variable {α κ : Type} [DecidableEq κ]

theorem mem_firstPer {key : α → κ} {xs : List α} {a : α} :
    a ∈ firstPer key xs ↔ xs.find? (key · = key a) = some a := by
  induction xs with
  | nil => simp [firstPer]
  | cons b rest ih =>
    rw [firstPer, List.mem_cons, List.mem_filter, ih, List.find?_cons]
    by_cases same : key b = key a
    · simp [same, eq_comm]
    · have different : a ≠ b := by
        rintro rfl
        exact same rfl
      simp [same, different, Ne.symm same]

theorem nodup_map_firstPer (key : α → κ) (xs : List α) : ((firstPer key xs).map key).Nodup := by
  induction xs with
  | nil => simp [firstPer]
  | cons a rest ih =>
    rw [firstPer, List.map_cons, List.nodup_cons]
    refine ⟨fun again => ?_, ih.sublist (List.filter_sublist.map key)⟩
    obtain ⟨b, hb, same⟩ := List.mem_map.mp again
    simp [same] at hb

theorem firstPer_of_nodup {key : α → κ} {xs : List α} (h : (xs.map key).Nodup) :
    firstPer key xs = xs := by
  induction xs with
  | nil => rfl
  | cons a rest ih =>
    rw [List.map_cons, List.nodup_cons] at h
    rw [firstPer, ih h.2, List.filter_eq_self.mpr]
    intro b hb
    have apart : key b ≠ key a := by
      intro same
      exact h.1 (same ▸ List.mem_map_of_mem hb)
    simpa using apart

theorem find?_eq_some_iff_of_nodup {key : α → κ} {xs : List α} (h : (xs.map key).Nodup) {k : κ}
    {a : α} : xs.find? (key · = k) = some a ↔ a ∈ xs ∧ key a = k := by
  constructor
  · intro found
    exact ⟨List.mem_of_find?_eq_some found, by simpa using List.find?_some found⟩
  · rintro ⟨ha, rfl⟩
    rwa [← mem_firstPer, firstPer_of_nodup h]

theorem find?_perm {key : α → κ} {xs ys : List α} (h : (xs.map key).Nodup) (perm : xs.Perm ys)
    (k : κ) : xs.find? (key · = k) = ys.find? (key · = k) := by
  ext a
  rw [find?_eq_some_iff_of_nodup h, find?_eq_some_iff_of_nodup ((perm.map key).nodup_iff.mp h),
    perm.mem_iff]

theorem distinct_cons (k : κ) (keys : List κ) :
    distinct (k :: keys) = k :: (distinct keys).filter (· ≠ k) := rfl

theorem nodup_distinct (keys : List κ) : (distinct keys).Nodup := by
  simpa [distinct] using nodup_map_firstPer id keys

theorem mem_map_firstPer {key : α → κ} {xs : List α} {k : κ} :
    k ∈ (firstPer key xs).map key ↔ k ∈ xs.map key := by
  constructor
  · intro kept
    exact ((firstPer_sublist key xs).map key).subset kept
  · intro hk
    have found : (xs.find? (key · = k)).isSome := by
      simpa [List.find?_isSome] using hk
    obtain ⟨first, hfirst⟩ := Option.isSome_iff_exists.mp found
    have same : key first = k := by simpa using List.find?_some hfirst
    subst same
    exact List.mem_map_of_mem (mem_firstPer.mpr hfirst)

theorem mem_distinct {keys : List κ} {k : κ} : k ∈ distinct keys ↔ k ∈ keys := by
  have kept : k ∈ (firstPer id keys).map id ↔ k ∈ keys.map id := mem_map_firstPer
  simpa [distinct] using kept

theorem firstPer_concat (key : α → κ) (xs : List α) (a : α) :
    firstPer key (xs ++ [a]) =
      if key a ∈ xs.map key then firstPer key xs else firstPer key xs ++ [a] := by
  induction xs with
  | nil => rfl
  | cons b rest ih =>
    rw [List.cons_append, firstPer, firstPer, ih, List.map_cons]
    by_cases again : key a ∈ rest.map key
    · rw [if_pos again, if_pos (List.mem_cons_of_mem _ again)]
    · rw [if_neg again, List.filter_append]
      by_cases same : key a = key b
      · rw [if_pos (List.mem_cons.mpr (Or.inl same))]
        simp [same]
      · rw [if_neg (List.not_mem_cons_of_ne_of_not_mem same again)]
        simp [same]

/-- Keys that tell the same elements apart keep the same ones. -/
theorem firstPer_congr {κ' : Type} [DecidableEq κ'] {key : α → κ} {key' : α → κ'} {xs : List α}
    (h : ∀ a ∈ xs, ∀ b ∈ xs, key a = key b ↔ key' a = key' b) :
    firstPer key xs = firstPer key' xs := by
  induction xs with
  | nil => rfl
  | cons a rest ih =>
    rw [firstPer, firstPer, ih fun b hb c hc =>
      h b (List.mem_cons_of_mem _ hb) c (List.mem_cons_of_mem _ hc)]
    congr 1
    refine List.filter_congr fun b hb => ?_
    have among : b ∈ rest := (firstPer_sublist key' rest).subset hb
    simpa using h b (List.mem_cons_of_mem _ among) a List.mem_cons_self

theorem map_firstPer (key : α → κ) (xs : List α) :
    (firstPer key xs).map key = distinct (xs.map key) := by
  induction xs with
  | nil => rfl
  | cons a rest ih =>
    rw [firstPer, List.map_cons, List.map_cons, distinct_cons, ← ih, List.filter_map]
    rfl

end ServiceRoute.Selection
