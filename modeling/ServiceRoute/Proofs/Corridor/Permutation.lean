import Mathlib.Data.List.Perm.Basic
import ServiceRoute.Corridor.Refinement

/-!
# Refinement rearranges

Every pass of corridor refinement returns a permutation of its route: regrouping
pulls stops forward, and the later passes rewrite each segment by a permutation
of it.
-/

namespace ServiceRoute.Corridor

section Grouping

variable {α κ : Type} [DecidableEq κ]

theorem pullForward_perm (key : α → Option κ) (reach : Nat) (k : κ) (xs : List α) :
    (pullForward key reach k xs).Perm xs := by
  have near := List.filter_append_perm (fun a => key a = some k) (xs.take reach)
  have whole := near.append_right (xs.drop reach)
  rw [List.take_append_drop] at whole
  simpa [pullForward] using whole

theorem regroup_perm (key : α → Option κ) (window : Nat) (xs : List α) :
    (regroup key window xs).Perm xs := by
  induction xs using regroup.induct key window with
  | case1 => simp [regroup]
  | case2 a rest hkey ih =>
    rw [regroup, hkey]
    exact ih.cons a
  | case3 a rest k hkey ih =>
    rw [regroup, hkey]
    exact (ih.trans (pullForward_perm key (window - 1) k rest)).cons a

theorem segments_flatMap_members (key : α → Option κ) (xs : List α) :
    (segments key xs).flatMap (·.members) = xs := by
  have front : ∀ (a : α) (later : List (Segment α κ)),
      (prepend key a later).flatMap (·.members) = a :: later.flatMap (·.members) := by
    intro a later
    unfold prepend
    split
    · split_ifs <;> simp
    · simp
  induction xs with
  | nil => rfl
  | cons a xs ih =>
    rw [segments, List.foldr_cons, front]
    exact congrArg (a :: ·) ih

theorem rearrange_perm (key : α → Option κ) {f : κ → List α → List α}
    (h : ∀ k members, (f k members).Perm members) (xs : List α) :
    (rearrange key f xs).Perm xs := by
  have segment_wise : (rearrange key f xs).Perm ((segments key xs).flatMap (·.members)) := by
    refine List.Perm.flatMap_left _ fun s _ => ?_
    cases s.key with
    | none => exact List.Perm.refl _
    | some k => exact h k s.members
  rwa [segments_flatMap_members] at segment_wise

end Grouping

theorem sortRun_perm (corridor : Signature) (run : List Waypoint) :
    (sortRun corridor run).Perm run := by
  unfold sortRun
  cases RunOrder.resolve run corridor.bearing with
  | none => exact List.Perm.refl run
  | some order => exact List.mergeSort_perm run order.precedes

theorem correctRun_perm (threshold : Float) (corridor : Signature) (run : List Waypoint) :
    (correctRun threshold corridor run).Perm run := by
  unfold correctRun
  split_ifs with h
  · exact sortRun_perm corridor run
  · exact List.Perm.refl run

theorem refine_perm (options : CorridorOptions) (route : List Waypoint) :
    (refine options route).Perm route := by
  have regrouped := regroup_perm signature options.window route
  have refined := rearrange_perm signature sortRun_perm (regroupWithin options.window route)
  have corrected := rearrange_perm signature (correctRun_perm options.threshold)
    (refineRuns (regroupWithin options.window route))
  exact corrected.trans (refined.trans regrouped)

end ServiceRoute.Corridor
