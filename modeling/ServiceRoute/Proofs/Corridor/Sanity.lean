import ServiceRoute.Proofs.Corridor.Refined

/-!
# The sanity pass

The sanity pass sorts the runs that score below a threshold. Behind the sort of every run it has
nothing left to do: a sorted run may score below the threshold all the same, where coordinates are
missing, but sorted once more it stays as it is. By itself the pass rewrites runs in place. It
takes no pair of neighbours out of order on balance, since no arrangement of a run has more of
them in order than the sorted one, and a second pass changes nothing.
-/

namespace ServiceRoute.Corridor

/-- The sanity pass leaves a route with sorted runs as it is. So refinement is regrouping and one
sort of every run, whatever the threshold. -/
theorem refine_for_any_threshold (window : Nat) (threshold : Float) (route : List Waypoint) :
    enforceSanity threshold (refineRuns route) = refineRuns route ∧
    refine { window, threshold } route = refineRuns (regroupWithin window route) := by
  constructor
  · exact enforceSanity_refineRuns threshold route
  · exact refine_eq { window, threshold } route

/-- A run with a missing longitude, sorted as far as it can be, scores one half. -/
example : monotonicity [⟨⟨1, 1⟩, .location, some "Pine St", some "EB"⟩,
    ⟨⟨3, 1⟩, .location, some "Pine St", some "EB"⟩,
    ⟨⟨Float.nan, 1⟩, .location, some "Pine St", some "EB"⟩] "EB" = 0.5 := by
  decide +kernel

theorem correctRun_correctRun (threshold : Float) (corridor : Signature) (run : List Waypoint) :
    correctRun threshold corridor (correctRun threshold corridor run) =
      correctRun threshold corridor run := by
  by_cases low : monotonicity run corridor.bearing < threshold
  · have sorted : correctRun threshold corridor run = sortRun corridor run := if_pos low
    rw [sorted]
    exact correctRun_sortRun threshold corridor run
  · have kept : correctRun threshold corridor run = run := if_neg low
    rw [kept]
    exact kept

theorem enforceSanity_enforceSanity (threshold : Float) (route : List Waypoint) :
    enforceSanity threshold (enforceSanity threshold route) = enforceSanity threshold route := by
  unfold enforceSanity
  rw [rearrange_rearrange (correctRun_perm threshold)]
  congr 1
  funext corridor run
  exact correctRun_correctRun threshold corridor run

theorem orderedPairs_le_correctRun (threshold : Float) {corridor : Signature}
    {run : List Waypoint} {order : RunOrder}
    (h : RunOrder.resolve run corridor.bearing = some order) :
    order.orderedPairs run ≤ order.orderedPairs (correctRun threshold corridor run) := by
  unfold correctRun
  split_ifs with low
  · rw [sortRun_of_resolve h]
    exact order.orderedPairs_le_sort (List.Perm.refl run)
  · exact Nat.le_refl _

/-- The sanity pass settles at once. It keeps the signature at every position, every stop that is
on no corridor or a run by itself, and every run in its place, with its stops rearranged only if
the run scores below the threshold and never to fewer neighbours in order. -/
theorem enforceSanity_settles (threshold : Float) (route : List Waypoint) :
    enforceSanity threshold (enforceSanity threshold route) = enforceSanity threshold route ∧
    (enforceSanity threshold route).map signature = route.map signature ∧
    (∀ before w after, route = before ++ [w] ++ after →
      (∀ corridor, signature w = some corridor → IsRun signature corridor before [w] after) →
      (enforceSanity threshold route)[before.length]? = some w) ∧
    ∀ corridor before run after, route = before ++ run ++ after →
      IsRun signature corridor before run after →
      ∃ before' run' after', enforceSanity threshold route = before' ++ run' ++ after' ∧
        before'.length = before.length ∧ IsRun signature corridor before' run' after' ∧
        run' = correctRun threshold corridor run ∧ run'.Perm run ∧
        ∀ order, RunOrder.resolve run corridor.bearing = some order →
          order.orderedPairs run ≤ order.orderedPairs run' := by
  have perm := correctRun_perm threshold
  refine ⟨enforceSanity_enforceSanity threshold route, map_key_rearrange perm route, ?_, ?_⟩
  · rintro before w after rfl alone
    exact getElem?_rearrange_alone perm alone
  · rintro corridor before run after rfl isRun
    refine ⟨enforceSanity threshold before, correctRun threshold corridor run,
      enforceSanity threshold after, isRun.rearrange_split, ?_, isRun.rewrite perm, rfl,
      perm corridor run, fun order horder => orderedPairs_le_correctRun threshold horder⟩
    exact (rearrange_perm signature perm before).length_eq

namespace Pine

/-- Three stops on one eastbound street, the second without a longitude, and one on another. -/
def far : Waypoint := ⟨⟨3, 1⟩, .stop "A", some "Pine St", some "EB"⟩

def lost : Waypoint := ⟨⟨Float.nan, 1⟩, .stop "B", some "pine st", some "eb"⟩

def near : Waypoint := ⟨⟨1, 1⟩, .stop "C", some " Pine St", some "EB"⟩

def lone : Waypoint := ⟨⟨5, 2⟩, .stop "D", some "Cedar Ln", some "SB"⟩

def eastOnPine : Signature := ⟨"PINE ST", "EB"⟩

def southOnCedar : Signature := ⟨"CEDAR LN", "SB"⟩

theorem signature_far : signature far = some eastOnPine := by decide

theorem signature_lost : signature lost = some eastOnPine := by decide

theorem signature_near : signature near = some eastOnPine := by decide

theorem signature_lone : signature lone = some southOnCedar := by decide

theorem resolve_run :
    RunOrder.resolve [far, lost, near] eastOnPine.bearing = some ⟨.lon, .ascending⟩ := by
  decide +kernel

theorem correctRun_run : correctRun 0.8 eastOnPine [far, lost, near] = [near, far, lost] := by
  have low : monotonicity [far, lost, near] eastOnPine.bearing < 0.8 := by decide +kernel
  have far_lost : RunOrder.precedes ⟨.lon, .ascending⟩ far lost = true := by decide
  have far_near : RunOrder.precedes ⟨.lon, .ascending⟩ far near = false := by decide
  rw [correctRun, if_pos low, sortRun_of_resolve resolve_run]
  simp [RunOrder.sort, List.mergeSort, List.MergeSort.Internal.splitInTwo, far_lost, far_near]

theorem isRun_pine : IsRun signature eastOnPine [] [far, lost, near] [lone] where
  nonempty := by simp
  keyed := by simp [signature_far, signature_lost, signature_near]
  left := by simp
  right := by simp [signature_lone, eastOnPine, southOnCedar]

theorem isRun_cedar : IsRun signature southOnCedar [far, lost, near] [lone] [] where
  nonempty := by simp
  keyed := by simp [signature_lone]
  left := by simp [signature_near, eastOnPine, southOnCedar]
  right := by simp

end Pine

/-- The run is put in order as far as it can be, and the stop behind it keeps its place. -/
theorem enforceSanity_settles_pine :
    IsRun signature Pine.eastOnPine [] [Pine.far, Pine.lost, Pine.near] [Pine.lone] ∧
    IsRun signature Pine.southOnCedar [Pine.far, Pine.lost, Pine.near] [Pine.lone] [] ∧
    (enforceSanity 0.8 [Pine.far, Pine.lost, Pine.near, Pine.lone])[3]? = some Pine.lone ∧
    ∃ before after, enforceSanity 0.8 [Pine.far, Pine.lost, Pine.near, Pine.lone] =
        before ++ [Pine.near, Pine.far, Pine.lost] ++ after ∧
      before.length = 0 ∧
      RunOrder.orderedPairs ⟨.lon, .ascending⟩ [Pine.far, Pine.lost, Pine.near] ≤
        RunOrder.orderedPairs ⟨.lon, .ascending⟩ [Pine.near, Pine.far, Pine.lost] := by
  obtain ⟨-, -, alone, runs⟩ :=
    enforceSanity_settles 0.8 [Pine.far, Pine.lost, Pine.near, Pine.lone]
  refine ⟨Pine.isRun_pine, Pine.isRun_cedar, ?_, ?_⟩
  · refine alone [Pine.far, Pine.lost, Pine.near] Pine.lone [] rfl fun corridor signed => ?_
    obtain rfl : Pine.southOnCedar = corridor :=
      Option.some.inj (Pine.signature_lone.symm.trans signed)
    exact Pine.isRun_cedar
  · obtain ⟨before, run, after, split, start, -, corrected, -, improved⟩ :=
      runs Pine.eastOnPine [] [Pine.far, Pine.lost, Pine.near] [Pine.lone] rfl Pine.isRun_pine
    rw [Pine.correctRun_run] at corrected
    subst corrected
    exact ⟨before, after, split, start, improved _ Pine.resolve_run⟩

end ServiceRoute.Corridor
