import ServiceRoute.Proofs.Corridor.Refined
import ServiceRoute.Proofs.RoutePlanner.Uncached

/-!
# Planned routes are refined

Refinement is a projection, and a planning call does nothing to the order of the stops after
it. A planned route is therefore one that refinement leaves alone.
-/

namespace ServiceRoute.RoutePlanner

open Corridor Planning

variable {σ : Type}

theorem polish_ensures_refined (schedule : Schedule) (cost : Waypoint → Waypoint → Planning σ Cost)
    (announce : Stage → List Waypoint → Planning σ Unit) (options : PlannerOptions)
    (depot : Coordinate) (trip : List Waypoint) :
    Ensures (fun polished => refine options.corridor polished.stops = polished.stops)
      (polish schedule cost announce options depot trip) := by
  unfold polish
  refine Ensures.of_next fun relocated => Ensures.of_next fun _ => Ensures.of_next fun _ => ?_
  refine Ensures.of_next fun route => ?_
  exact ensures_pure (refine_refine options.corridor relocated.stops)

theorem createRun_ensures_refined (services : Services σ) (options : PlannerOptions)
    (request : RouteRequest) :
    Ensures (fun planned => refine options.corridor planned.stops = planned.stops)
      (createRun services options request) := by
  intro world planned world' run
  obtain ⟨drafted, _, hdraft, _, same⟩ := createRun_eq_ok run
  rw [same]
  obtain ⟨depot, _, _, _, trip, _, _, _, _, _, _, hpolish⟩ := draft_eq_ok hdraft
  exact LegCache.withFresh_ensures (polish_ensures_refined _ _ _ options depot trip.stops) hpolish

/-- Refinement reorders a route, and what it answers are the routes it leaves alone: those that
are settled and have every run in order. The stops of a planned route are such a route. -/
theorem createRun_stops_refined :
    (∀ options route,
      refine options (refine options route) = refine options route ∧
      (refine options route).Perm route ∧
      (refine options route = route ↔ Settled signature options.window route ∧
        ∀ corridor before run after, route = before ++ run ++ after →
          IsRun signature corridor before run after → sortRun corridor run = run)) ∧
    ∀ (services : Services σ) (options : PlannerOptions) (request : RouteRequest)
      (world world' : σ) (planned : PlannedRoute),
      (createRun services options request).outcome world = (.ok planned, world') →
        refine options.corridor planned.stops = planned.stops := by
  refine ⟨fun options route => ?_, fun services options request world world' planned run => ?_⟩
  · exact ⟨refine_refine options route, refine_perm options route,
      refine_eq_self_iff options route⟩
  · exact createRun_ensures_refined services options request run

/-- A planned route along a line, and a refined route with a run in it. -/
theorem createRun_stops_refined_line :
    (createRun Line.services Line.options Line.request).outcome (Line.store, ()) =
      (.ok Line.planned, (Line.filed, ())) ∧
    refine Line.options.corridor Line.planned.stops = Line.planned.stops ∧
    refine {} [Elm.east, Elm.west, Elm.between] = [Elm.east, Elm.west, Elm.between] := by
  obtain ⟨projection, planned_refined⟩ := createRun_stops_refined (σ := Store × Unit)
  refine ⟨Line.outcome_createRun,
    planned_refined _ _ _ _ _ _ Line.outcome_createRun, ?_⟩
  have twice := (projection {} [Elm.west, Elm.between, Elm.east]).1
  rwa [Elm.refine_route] at twice

end ServiceRoute.RoutePlanner
