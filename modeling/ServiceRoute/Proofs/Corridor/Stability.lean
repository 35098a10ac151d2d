import ServiceRoute.Proofs.Corridor.Regrouping

/-!
# Regrouping is stable

Regrouping moves an element past elements of other keys only. For every key, and for the elements
without one, the elements of that key are the same list before and after: each step cuts a stretch
into the elements of one key and the rest, and keeps the order in both.
-/

namespace ServiceRoute.Corridor

variable {α κ : Type} [DecidableEq κ] {key : α → Option κ}

/-- A stretch with the elements of one key in front keeps the order within every key. -/
theorem filter_partition (k : κ) (s : Option κ) (near : List α) :
    (near.filter (key · = some k) ++ near.filter (key · ≠ some k)).filter (key · = s) =
      near.filter (key · = s) := by
  rw [List.filter_append, List.filter_filter, List.filter_filter]
  by_cases same : s = some k
  · subst same
    simp
  · have front : near.filter (fun a => decide (key a = s) && decide (key a = some k)) = [] := by
      refine List.filter_eq_nil_iff.mpr fun a _ both => ?_
      simp only [Bool.and_eq_true, decide_eq_true_eq] at both
      exact same (both.1.symm.trans both.2)
    rw [front, List.nil_append]
    refine List.filter_congr fun a _ => ?_
    by_cases hs : key a = s
    · simp [hs, same]
    · simp [hs]

theorem filter_pullForward (reach : Nat) (k : κ) (s : Option κ) (xs : List α) :
    (pullForward key reach k xs).filter (key · = s) = xs.filter (key · = s) := by
  rw [pullForward, List.filter_append, filter_partition, ← List.filter_append,
    List.take_append_drop]

theorem filter_regroup (window : Nat) (s : Option κ) (xs : List α) :
    (regroup key window xs).filter (key · = s) = xs.filter (key · = s) := by
  induction xs using regroup.induct key window with
  | case1 => simp [regroup]
  | case2 a rest hkey ih =>
    rw [regroup_none hkey, List.filter_cons, List.filter_cons, ih]
  | case3 a rest k hkey ih =>
    rw [regroup_some hkey, List.filter_cons, List.filter_cons, ih, filter_pullForward]

/-- In a regrouped route the stops of every corridor, and the stops on no corridor, stand in the
order in which they stood before. So the route has the stops it had, each as it was and as often. -/
theorem regroupWithin_stable (window : Nat) (route : List Waypoint) :
    (∀ corridor : Option Signature, (regroupWithin window route).filter (signature · = corridor) =
      route.filter (signature · = corridor)) ∧
    (regroupWithin window route).Perm route := by
  refine ⟨fun corridor => filter_regroup window corridor route, ?_⟩
  exact regroup_perm signature window route

end ServiceRoute.Corridor
