import ServiceRoute.Proofs.RoutePlanner.Atomicity

/-!
# The run that is loaded

Loading the id of a planned route gives back the route as it was planned: its stops
in order, each with the cost of the leg that arrives there from the stop before it,
and the sum of these costs. Storing may only take the sign off a zero.
-/

namespace ServiceRoute.RoutePlanner

open Planning Store

variable {σ : Type} {oracle : CostOracle σ} {announce : Stage → List Waypoint → Planning σ Unit}
variable {schedule : Schedule} {options : PlannerOptions} {request : RouteRequest}
variable {store store' : Store} {world world' : σ}
variable {answer : Waypoint → Waypoint → Approach → Except PlanError Cost}

/-- The waypoint before the `k`-th stop: the depot before the first. -/
def before (depot : Coordinate) (stops : List Waypoint) (k : Fin stops.length) : Waypoint :=
  (Waypoint.depot depot :: stops).get k.castSucc

/-- A stop of a run is the planned stop at its position, and its cost is the answer to the leg
from the waypoint before it. -/
structure StopFiledAs (answer : Waypoint → Waypoint → Approach → Except PlanError Cost)
    (depot : Coordinate) (stops : List Waypoint) (k : Fin stops.length) (cost : Cost)
    (stop : RunStop) : Prop where
  sequence : stop.entry.sequence = k
  pending : stop.status = .pending
  id : stops[k].kind = .stop stop.entry.stop
  leg : answer (before depot stops k) stops[k] .curb = .ok cost
  cost : cost.Same stop.entry.cost

structure FiledAs (answer : Waypoint → Waypoint → Approach → Except PlanError Cost)
    (depot : Coordinate) (request : RouteRequest) (planned : PlannedRoute) (run : RouteRun) :
    Prop where
  id : run.id = planned.runId
  header : run.header = request.header
  status : run.status = .planned
  unstarted : run.startedAt = none
  unfinished : run.finishedAt = none
  count : run.stops.length = planned.stops.length
  stops : ∃ costs : List Cost, costs.length = planned.stops.length ∧
    planned.total = Cost.sum costs ∧
    ∀ k : Fin planned.stops.length, ∃ cost stop, costs[k]? = some cost ∧
      run.stops[k]? = some stop ∧ StopFiledAs answer depot planned.stops k cost stop
  total : planned.total.Same run.total

theorem pureLegs_inner (pureLegs : oracle.PureLegs answer) :
    (services oracle announce schedule).oracle.PureLegs answer := by
  rintro a b approach ⟨s, w⟩
  show outcome ((oracle.legCost a b approach).inner : Planning (Store × σ) Cost) (s, w) = _
  rw [outcome_inner, pureLegs]

theorem resolveDepot_services {base : String} {depot : Coordinate} {left : Store × σ}
    (run : (resolveDepot (services oracle announce schedule).registry base).outcome (store, world) =
      (.ok depot, left)) : store.activeBase base = some depot := by
  unfold resolveDepot at run
  obtain ⟨found, _, hfound, hdepot⟩ := outcome_bind_eq_ok run
  cases hfound
  cases hbase : store.activeBase base with
  | none =>
    rw [hbase] at hdepot
    cases hdepot
  | some depot' =>
    rw [hbase] at hdepot
    cases hdepot
    rfl

theorem draft_costed (pureLegs : oracle.PureLegs answer) {drafted : PolishedRoute}
    {left : Store × σ}
    (run : (draft (services oracle announce schedule) options request
      (cachedPolish (services oracle announce schedule) options)).outcome (store, world) =
        (.ok drafted, left)) :
    ∃ depot, store.activeBase request.header.base = some depot ∧
      drafted.route.Covers drafted.stops ∧
      List.Forall₂ (fun leg e => answer leg.1 leg.2 .curb = .ok e.cost)
        (legs (.depot depot) drafted.stops) drafted.route.entries := by
  have inner : (services oracle announce schedule).oracle.PureLegs answer := pureLegs_inner pureLegs
  have direct := (draft_succeedAlike inner options request _ _ _).mp run
  obtain ⟨depot, _, _, _, trip, _, _, hdepot, _, _, _, hpolish⟩ := draft_eq_ok direct
  refine ⟨depot, resolveDepot_services hdepot, (directPolish_ensures options depot _ hpolish).2, ?_⟩
  refine polish_costed _ (fun _ => True) (fun _ => True)
    (fun a b c _ => answer a b .curb = .ok c) options ?_ (fun _ _ _ _ _ _ => trivial)
    (fun _ _ _ _ _ _ _ _ h => h) (fun _ _ _ _ => trivial) trivial (fun _ _ => trivial) trivial
    hpolish
  intro a b w c w' _ _ _ hcost
  rw [inner] at hcost
  exact ⟨trivial, congrArg Prod.fst hcost⟩

theorem sorted_of_covers {route : FinalRoute} {stops : List Waypoint} (covered : route.Covers stops)
    {entries : List RouteEntry} (stored : List.Forall₂ StoredAs route.entries entries) :
    entries.Pairwise fun a b => a.sequence ≤ b.sequence := by
  have numbered : entries.map (·.sequence) = List.range entries.length := by
    rw [sequences_of_storedAs stored, covered.numbered, stored.length_eq]
  have sorted : (entries.map (·.sequence)).Pairwise (· ≤ ·) := by
    rw [numbered]
    exact List.pairwise_le_range
  exact List.pairwise_map.mp sorted

theorem stopFiledAs_of_covers {route : FinalRoute} {stops : List Waypoint} {depot : Coordinate}
    (covered : route.Covers stops)
    (costed : List.Forall₂ (fun leg e => answer leg.1 leg.2 .curb = .ok e.cost)
      (legs (.depot depot) stops) route.entries)
    {entries : List RouteEntry} (stored : List.Forall₂ StoredAs route.entries entries) (id : Int)
    (k : Fin stops.length) :
    ∃ cost stop, (route.entries.map (·.cost))[k]? = some cost ∧
      (entries.map (filedStop id))[k]? = some stop ∧
      StopFiledAs answer depot stops k cost stop := by
  have hk : k < route.entries.length := by
    rw [covered.length_eq]
    exact k.isLt
  have hk' : k < entries.length := by
    rw [← stored.length_eq]
    exact hk
  have hleg : k < (legs (.depot depot) stops).length := by
    rw [length_legs]
    exact k.isLt
  have hstored : StoredAs route.entries[k] entries[k] := stored.get hk hk'
  have hcost := costed.get hleg hk
  have hkind : stops[k].kind = .stop route.entries[k].stop := by
    have hget := congrArg (·[k.val]?) covered.kinds
    simpa [hk] using hget
  have hnumber : route.entries[k].sequence = k := by
    have hget := congrArg (·[k.val]?) covered.numbered
    simpa [hk] using hget
  refine ⟨route.entries[k].cost, filedStop id entries[k], by simp [hk], by simp [hk'], ?_⟩
  refine ⟨hstored.sequence.trans hnumber, rfl, ?_, ?_, hstored.cost⟩
  · rw [hkind]
    exact congrArg WaypointKind.stop hstored.stop.symm
  · simpa [legs, before] using hcost

/-- Loading a planned route gives back what was planned. -/
theorem loadRun_createRun (pureLegs : oracle.PureLegs answer) (reachable : Reachable store)
    {planned : PlannedRoute}
    (run : (createRun (services oracle announce schedule) options request).outcome (store, world) =
      (.ok planned, (store', world'))) :
    ∃ depot filed, store.activeBase request.header.base = some depot ∧
      (loadRun planned.runId).outcome store' = (.ok (some filed), store') ∧
      FiledAs answer depot request planned filed := by
  rw [createRun_eq] at run
  obtain ⟨drafted, ⟨storeₙ, worldₙ⟩, hdraft, hfile⟩ := outcome_bind_eq_ok run
  obtain ⟨depot, hbase, covered, costed⟩ := draft_costed pureLegs hdraft
  obtain rfl : storeₙ = store := draft_keeps_store hdraft
  obtain ⟨total, entries, rfl, htotal, stored, rfl⟩ := fileDraft_eq_ok hfile
  refine ⟨depot, _, hbase, outcome_loadRun_withRun reachable.wellNumbered (Int.lt_succ _) _ _
    (sorted_of_covers covered stored), rfl, rfl, rfl, rfl, rfl, ?_, ?_, htotal⟩
  · show (entries.map _).length = drafted.stops.length
    rw [List.length_map, ← stored.length_eq, covered.length_eq]
  · refine ⟨drafted.route.entries.map (·.cost), ?_, covered.total, fun k => ?_⟩
    · rw [List.length_map, covered.length_eq]
    · exact stopFiledAs_of_covers covered costed stored _ k

theorem loadRun_createRun_line :
    Line.oracle.PureLegs Line.answer ∧ Reachable Line.store ∧
      (createRun Line.services Line.options Line.request).outcome (Line.store, ()) =
        (.ok Line.planned, (Line.filed, ())) ∧
      ∃ depot filed, Line.store.activeBase Line.request.header.base = some depot ∧
        (loadRun Line.planned.runId).outcome Line.filed = (.ok (some filed), Line.filed) ∧
        FiledAs Line.answer depot Line.request Line.planned filed :=
  ⟨Line.oracle_pureLegs, Line.reachable_store, Line.outcome_createRun,
    loadRun_createRun Line.oracle_pureLegs Line.reachable_store Line.outcome_createRun⟩

end ServiceRoute.RoutePlanner
