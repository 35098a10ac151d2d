import ServiceRoute.Proofs.Corridor.Regrouping

/-!
# Clustered routes

Regrouping leaves no gaps: between two stops of one corridor that stand less than a window apart
there are only stops of that corridor. A list is clustered in this sense exactly if it is settled,
that is, if regrouping has nothing to pull. So the clustered lists are those that regrouping
leaves alone.
-/

namespace ServiceRoute.Corridor

variable {α κ : Type} {key : α → Option κ} {window : Nat}

/-- Between two positions with one key, less than a window apart, every position has that key. -/
def Clustered (key : α → Option κ) (window : Nat) (xs : List α) : Prop :=
  ∀ ⦃p r q : Nat⦄ ⦃k : κ⦄, p < r → r < q → q - p < window →
    xs[p]?.bind key = some k → xs[q]?.bind key = some k → xs[r]?.bind key = some k

theorem fronted_iff {reach : Nat} {k : κ} {xs : List α} :
    Fronted key reach k xs ↔ ∀ ⦃r q : Nat⦄, r < q → q < reach →
      xs[q]?.bind key = some k → xs[r]?.bind key = some k := by
  rw [Fronted, List.pairwise_iff_getElem]
  constructor
  · intro front r q before near hq
    obtain ⟨b, hb, hkey⟩ := Option.bind_eq_some_iff.mp hq
    obtain ⟨inside, rfl⟩ := List.getElem?_eq_some_iff.mp hb
    have h := front r q (by rw [List.length_take]; omega) (by rw [List.length_take]; omega) before
    rw [List.getElem_take, List.getElem_take] at h
    rw [List.getElem?_eq_getElem (Nat.lt_trans before inside)]
    exact h hkey
  · intro h r q hr hq before hkey
    rw [List.length_take] at hr hq
    rw [List.getElem_take] at hkey ⊢
    have front := h before (by omega) (by rwa [List.getElem?_eq_getElem (by omega)])
    rwa [List.getElem?_eq_getElem (by omega)] at front

theorem clustered_cons {a : α} {rest : List α} :
    Clustered key window (a :: rest) ↔
      (∀ k, key a = some k → Fronted key (window - 1) k rest) ∧ Clustered key window rest := by
  constructor
  · intro h
    refine ⟨fun k hk => fronted_iff.mpr fun r q before near hq => ?_,
      fun p r q k left right near hp hq => ?_⟩
    · exact h (p := 0) (r := r + 1) (q := q + 1) (by omega) (by omega) (by omega) hk hq
    · exact h (p := p + 1) (r := r + 1) (q := q + 1) (by omega) (by omega) (by omega) hp hq
  · rintro ⟨head, tail⟩ p r q k left right near hp hq
    obtain ⟨r, rfl⟩ : ∃ r', r = r' + 1 := ⟨r - 1, by omega⟩
    obtain ⟨q, rfl⟩ : ∃ q', q = q' + 1 := ⟨q - 1, by omega⟩
    cases p with
    | zero => exact fronted_iff.mp (head k hp) (by omega) (by omega) hq
    | succ p => exact tail (by omega) (by omega) (by omega) hp hq

theorem settled_iff_clustered {xs : List α} : Settled key window xs ↔ Clustered key window xs := by
  induction xs with
  | nil => simp [Settled, Clustered]
  | cons a rest ih => rw [Settled, clustered_cons, ih]

section Regroup

variable [DecidableEq κ]

theorem clustered_regroup (key : α → Option κ) (window : Nat) (xs : List α) :
    Clustered key window (regroup key window xs) :=
  settled_iff_clustered.mp (settled_regroup key window xs)

/-- Regrouping leaves alone what is clustered, and nothing else. -/
theorem regroup_eq_self_iff {xs : List α} :
    regroup key window xs = xs ↔ Clustered key window xs := by
  constructor
  · intro same
    rw [← same]
    exact clustered_regroup key window xs
  · intro h
    exact (settled_iff_clustered.mpr h).regroup_eq

end Regroup

/-- In a regrouped route every stop that stands between two stops of one corridor, less than the
window apart, is of that corridor. The route has the stops it had before, and regrouping it once
more changes nothing. -/
theorem regroupWithin_clusters (window : Nat) (route : List Waypoint) :
    Clustered signature window (regroupWithin window route) ∧
      (regroupWithin window route).Perm route ∧
      regroupWithin window (regroupWithin window route) = regroupWithin window route := by
  have clustered := clustered_regroup signature window route
  exact ⟨clustered, regroup_perm signature window route, regroup_eq_self_iff.mpr clustered⟩

end ServiceRoute.Corridor
