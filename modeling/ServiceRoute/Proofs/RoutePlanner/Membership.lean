import Mathlib.Data.List.Perm.Subperm
import ServiceRoute.Proofs.RoutePlanner.Resolution
import ServiceRoute.Proofs.RoutePlanner.Uncached

/-!
# The stops of a planned route

A planned route visits exactly the stops that were chosen for it. The trip only
promises as many visits as there are stops, and the final walk only that no stop
occurs twice; together they leave no room for another stop or a missing one.
-/

namespace ServiceRoute.RoutePlanner

open Planning Selection

variable {σ : Type}

/-- The rows `chosen` are what the request asks for: the rows of its own ids, or the
candidates selected from the pool. -/
def Answers (services : Services σ) (options : SelectionOptions) (request : RouteRequest)
    (world : σ) (chosen : List Stop) (world' : σ) : Prop :=
  match request.stops with
  | some ids => chosen.map (·.id) = distinct ids
  | none => ∃ overrides picks between,
      (services.overrides request.header.pool).outcome world = (.ok overrides, between) ∧
      (candidates services.catalog request.header.pool overrides options).outcome between =
        (.ok picks, world') ∧
      chosen = picks.map (·.stop)

theorem answers_of_chooseStops {services : Services σ} {options : SelectionOptions}
    {request : RouteRequest} {world world' : σ} {chosen : List Stop}
    (h : (chooseStops services options request).outcome world = (.ok chosen, world')) :
    Answers services options request world chosen world' := by
  unfold chooseStops at h
  unfold Answers
  cases hstops : request.stops with
  | some ids =>
    simp only [hstops] at h
    exact resolveStops_ensures _ _ ids h
  | none =>
    simp only [hstops] at h
    obtain ⟨overrides, between, hoverrides, picked⟩ := outcome_bind_eq_ok h
    obtain ⟨picks, between', hpicks, hchosen⟩ := outcome_bind_eq_ok picked
    cases hchosen
    exact ⟨overrides, picks, between, hoverrides, hpicks, rfl⟩

/-- Distinct ids, all of them among the chosen and as many as were chosen, are the chosen ids. -/
theorem perm_of_count {ids chosen : List StopId} (distinct : ids.Nodup)
    (inside : ∀ id ∈ ids, id ∈ chosen) (count : ids.length = chosen.length) :
    ids.Perm chosen :=
  (List.subperm_of_subset distinct inside).perm_of_length_le (Nat.le_of_eq count.symm)

theorem draft_perm_chosen {services : Services σ} {options : PlannerOptions}
    {request : RouteRequest} (kinds : services.oracle.KeepsKinds) {world world' : σ}
    {drafted : PolishedRoute}
    (run : (draft services options request (cachedPolish services options)).outcome world =
      (.ok drafted, world')) :
    ∃ depot chosen world₁ world₂,
      (resolveDepot services.registry request.header.base).outcome world = (.ok depot, world₁) ∧
      (chooseStops services options.selection request).outcome world₁ = (.ok chosen, world₂) ∧
      drafted.route.Covers drafted.stops ∧
      (drafted.route.entries.map (·.stop)).Perm (chosen.map (·.id)) := by
  obtain ⟨depot, world₁, chosen, world₂, trip, _, _, hdepot, hchosen, htrip, _, hpolish⟩ :=
    draft_eq_ok run
  obtain ⟨hcount, hvisits⟩ := Tour.planDepotTrip_ensures kinds depot chosen htrip
  obtain ⟨hperm, hcovers⟩ := cachedPolish_ensures services options depot trip.stops hpolish
  have inside : ∀ id ∈ drafted.route.entries.map (·.stop), id ∈ chosen.map (·.id) := by
    intro id hid
    obtain ⟨e, he, rfl⟩ := List.mem_map.mp hid
    have hkind : WaypointKind.stop e.stop ∈ drafted.stops.map (·.kind) := by
      rw [hcovers.kinds]
      exact List.mem_map.mpr ⟨e, he, rfl⟩
    obtain ⟨w, hw, hwkind⟩ := List.mem_map.mp hkind
    obtain ⟨s, hs, hskind⟩ := hvisits w (hperm.mem_iff.mp hw)
    have hid : s.id = e.stop := WaypointKind.stop.inj (hskind.symm.trans hwkind)
    exact List.mem_map.mpr ⟨s, hs, hid⟩
  have count : (drafted.route.entries.map (·.stop)).length = (chosen.map (·.id)).length := by
    rw [List.length_map, List.length_map, hcovers.length_eq, hperm.length_eq, hcount]
  exact ⟨depot, chosen, world₁, world₂, hdepot, hchosen, hcovers,
    perm_of_count hcovers.distinct inside count⟩

/-- A planned route files one run, whose entries are the planned stops, in order and numbered
from zero, all of them catalog stops and none twice, and exactly the stops that were chosen. -/
theorem createRun_visits_chosen {services : Services σ} (kinds : services.oracle.KeepsKinds)
    {options : PlannerOptions} {request : RouteRequest} {world world' : σ} {planned : PlannedRoute}
    (run : (createRun services options request).outcome world = (.ok planned, world')) :
    ∃ depot world₁ chosen world₂ total entries,
      (resolveDepot services.registry request.header.base).outcome world = (.ok depot, world₁) ∧
      (chooseStops services options.selection request).outcome world₁ = (.ok chosen, world₂) ∧
      Answers services options.selection request world₁ chosen world₂ ∧
      filings (trace services options request world) = [(request.header, total, entries)] ∧
      planned.stops.map (·.kind) = entries.map (fun e => .stop e.stop) ∧
      entries.map (·.sequence) = List.range entries.length ∧
      (entries.map (·.stop)).Nodup ∧
      (entries.map (·.stop)).Perm (chosen.map (·.id)) := by
  rw [createRun_eq] at run
  obtain ⟨drafted, worldₙ, hdraft, hfile⟩ := outcome_bind_eq_ok run
  obtain ⟨id, _, _, hplanned⟩ := outcome_bind_eq_ok hfile
  cases hplanned
  obtain ⟨depot, chosen, world₁, world₂, hdepot, hchosen, hcovers, hperm⟩ :=
    draft_perm_chosen kinds hdraft
  refine ⟨depot, world₁, chosen, world₂, drafted.route.total, drafted.route.entries, hdepot,
    hchosen, answers_of_chooseStops hchosen, filings_trace_of_ok hdraft, hcovers.kinds,
    hcovers.numbered, hcovers.distinct, hperm⟩

theorem Line.keepsKinds : Line.services.oracle.KeepsKinds := by
  intro requested source world plan world' run w hw
  cases run
  exact List.mem_map.mpr ⟨w, hw, rfl⟩

theorem createRun_visits_chosen_line :
    Line.services.oracle.KeepsKinds ∧
      (createRun Line.services Line.options Line.request).outcome (Line.store, ()) =
        (.ok Line.planned, (Line.filed, ())) ∧
      ∃ depot world₁ chosen world₂ total entries,
        (resolveDepot Line.services.registry Line.request.header.base).outcome (Line.store, ()) =
          (.ok depot, world₁) ∧
        (chooseStops Line.services Line.options.selection Line.request).outcome world₁ =
          (.ok chosen, world₂) ∧
        Answers Line.services Line.options.selection Line.request world₁ chosen world₂ ∧
        filings (trace Line.services Line.options Line.request (Line.store, ())) =
          [(Line.request.header, total, entries)] ∧
        Line.planned.stops.map (·.kind) = entries.map (fun e => .stop e.stop) ∧
        entries.map (·.sequence) = List.range entries.length ∧
        (entries.map (·.stop)).Nodup ∧
        (entries.map (·.stop)).Perm (chosen.map (·.id)) :=
  ⟨Line.keepsKinds, Line.outcome_createRun,
    createRun_visits_chosen Line.keepsKinds Line.outcome_createRun⟩

end ServiceRoute.RoutePlanner
