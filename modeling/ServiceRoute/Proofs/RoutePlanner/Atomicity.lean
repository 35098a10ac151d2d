import ServiceRoute.Proofs.RoutePlanner.FinalLegs
import ServiceRoute.Proofs.RoutePlanner.Uncached
import ServiceRoute.Proofs.Store.Transaction

/-!
# Planning is all or nothing

Nothing is written to the store before the draft stands, and filing the draft is a
transaction. A planning call that fails, wherever that happens, leaves the store as
it was; one that succeeds leaves one more run in it.
-/

namespace ServiceRoute

open Planning

variable {σ : Type}

namespace Store

variable (oracle : CostOracle σ) (announce : Stage → List Waypoint → Planning σ Unit)
variable (schedule : Schedule)

theorem outcome_services_overrides (pool : String) (store : Store) (world : σ) :
    ((services oracle announce schedule).overrides pool).outcome (store, world) =
      ((store.overrides.forPool pool).mapError fun e => .persistenceFailed (.store e),
        (store, world)) := by
  have asked := outcome_overridesForPool store pool
  show (((overridesForPool pool).outcome store).1.mapError _,
    ((overridesForPool pool).outcome store).2, world) = _
  rw [asked]

/-- Nothing that planning asks a store changes it, the filing of runs aside. -/
theorem services_keeps (store : Store) :
    Services.InStep (fun p q => p = q ∧ p.1 = store) (services oracle announce schedule)
      (services oracle announce schedule) where
  activeBase _ := keeps_iff_inStep.mp fun _ h => h
  overrides pool := by
    refine keeps_iff_inStep.mp fun p h => ?_
    rw [outcome_services_overrides]
    exact h
  topStops _ _ := keeps_iff_inStep.mp fun _ h => h
  stopsById _ _ := keeps_iff_inStep.mp fun _ h => h
  planTrip _ _ := keeps_iff_inStep.mp fun _ h => h
  legCost _ _ _ := keeps_iff_inStep.mp fun _ h => h
  announce _ _ := keeps_iff_inStep.mp fun _ h => h
  schedule := rfl

theorem outcome_services_insertRun (header : RunHeader) (total : Cost) (entries : List RouteEntry)
    (store : Store) (world : σ) :
    ((services oracle announce schedule).registry.insertRun header total entries).outcome
        (store, world) =
      (((insertRun header total entries).outcome store).1.mapError fun e =>
          .persistenceFailed (.store e),
        (((insertRun header total entries).outcome store).2, world)) := rfl

end Store

namespace RoutePlanner

open Store

variable {oracle : CostOracle σ} {announce : Stage → List Waypoint → Planning σ Unit}
variable {schedule : Schedule} {options : PlannerOptions} {request : RouteRequest}
variable {store store' : Store} {world world' : σ}

theorem draft_keeps_store {answer : Except PlanError PolishedRoute}
    (run : (draft (services oracle announce schedule) options request
      (cachedPolish (services oracle announce schedule) options)).outcome (store, world) =
        (answer, (store', world'))) : store' = store := by
  have kept := services_keeps oracle announce schedule store
  exact (keeps_iff_inStep.mpr (draft_inStep kept options request
    (cachedPolish_inStep kept options))).left (by rfl) run

theorem outcome_fileDraft (drafted : PolishedRoute) :
    (fileDraft (services oracle announce schedule) request drafted).outcome (store, world) =
      match (insertRun request.header drafted.route.total drafted.route.entries).outcome store with
      | (.ok id, left) =>
        (.ok ⟨id, drafted.stops, drafted.route.total, drafted.moves⟩, (left, world))
      | (.error e, left) => (.error (.persistenceFailed (.store e)), (left, world)) := by
  unfold fileDraft FinalRoute.file
  rw [outcome_bind, outcome_adapt, outcome_services_insertRun]
  cases (insertRun request.header drafted.route.total drafted.route.entries).outcome store with
  | mk answer left => cases answer <;> rfl

theorem store_of_fileDraft {drafted : PolishedRoute} {answer : Except PlanError PlannedRoute}
    (run : (fileDraft (services oracle announce schedule) request drafted).outcome (store, world) =
      (answer, (store', world'))) :
    store' =
      ((insertRun request.header drafted.route.total drafted.route.entries).outcome store).2 := by
  rw [outcome_fileDraft] at run
  split at run <;> cases run <;> simp [*]

theorem fileDraft_eq_ok {drafted : PolishedRoute} {planned : PlannedRoute}
    (run : (fileDraft (services oracle announce schedule) request drafted).outcome (store, world) =
      (.ok planned, (store', world'))) :
    ∃ total entries,
      planned = ⟨store.runs.lastId + 1, drafted.stops, drafted.route.total, drafted.moves⟩ ∧
      drafted.route.total.Same total ∧ List.Forall₂ StoredAs drafted.route.entries entries ∧
      store' = store.withRun (store.runs.lastId + 1) request.header total entries := by
  rw [outcome_fileDraft] at run
  split at run
  · rename_i id left hinsert
    obtain ⟨total, entries, htotal, hentries, rfl, rfl⟩ := insertRun_eq_ok hinsert
    cases run
    exact ⟨total, entries, rfl, htotal, hentries, rfl⟩
  · cases run

theorem fileDraft_eq_error {drafted : PolishedRoute} {e : PlanError}
    (run : (fileDraft (services oracle announce schedule) request drafted).outcome (store, world) =
      (.error e, (store', world'))) : store' = store := by
  rw [outcome_fileDraft] at run
  split at run
  · cases run
  · rename_i fault left hinsert
    cases run
    exact insertRun_eq_error hinsert

/-- What planning does to a store: nothing if it fails, and otherwise one more run under a new id,
with one row for each planned stop. -/
def AllOrNothing (request : RouteRequest) (store store' : Store) :
    Except PlanError PlannedRoute → Prop
  | .error _ => store' = store
  | .ok planned => ∃ total entries,
      store' = store.withRun planned.runId request.header total entries ∧
      store.runs.lastId < planned.runId ∧ (∀ row ∈ store.runs.rows, row.id < planned.runId) ∧
      planned.stops.map (·.kind) = entries.map fun e => .stop e.stop

/-- What a log has to show when a run is filed: nothing was filed before, the base was found
active, and every leg of the filed order was costed as the entries say. -/
structure Grounds (request : RouteRequest) (before : List Consultation)
    (entries : List RouteEntry) : Prop where
  first : filings before = []
  costed : ∃ depot stops, .activeBase request.header.base (.ok (some depot)) ∈ before ∧
    stops.map Waypoint.kind = entries.map (fun e => .stop e.stop) ∧
    List.Forall₂ (fun leg e => .legCost leg.1 leg.2 .curb (.ok e.cost) ∈ before)
      (legs (.depot depot) stops) entries

/-- Nothing is filed, or one run at the end of the call, row by row in a transaction. -/
def FilesOnce (request : RouteRequest) (store store' : Store) (log : List Consultation) : Prop :=
  filings log = [] ∨ ∃ before total entries answer,
    log = before ++ [.insertRun request.header total entries answer] ∧
    Grounds request before entries ∧
    store' = ((transaction (enterRows request.header total entries)).outcome store).2

theorem allOrNothing_of_draft (reachable : Reachable store) {drafted : PolishedRoute}
    (covered : drafted.route.Covers drafted.stops) {answer : Except PlanError PlannedRoute}
    (run : (fileDraft (services oracle announce schedule) request drafted).outcome (store, world) =
      (answer, (store', world'))) : AllOrNothing request store store' answer := by
  cases answer with
  | error e => exact fileDraft_eq_error run
  | ok planned =>
    obtain ⟨total, entries, rfl, _, hentries, rfl⟩ := fileDraft_eq_ok run
    refine ⟨total, entries, rfl, Int.lt_succ _, fun row hrow => ?_, ?_⟩
    · have hle := reachable.wellNumbered row hrow
      dsimp only
      omega
    · rw [covered.kinds, map_kind_entries, map_kind_entries, stops_of_storedAs hentries]

/-- A planning call writes to the store all at once or not at all: a failed call leaves it as it
was, and a run is filed at most once, after everything it rests on was answered. -/
theorem createRun_all_or_nothing (reachable : Reachable store)
    {answer : Except PlanError PlannedRoute}
    (run : (createRun (services oracle announce schedule) options request).outcome (store, world) =
      (answer, (store', world'))) :
    AllOrNothing request store store' answer ∧
      FilesOnce request store store'
        (trace (services oracle announce schedule) options request (store, world)) := by
  rw [createRun_eq, createRunWith, outcome_bind] at run
  cases hdraft : (draft (services oracle announce schedule) options request
      (cachedPolish (services oracle announce schedule) options)).outcome (store, world) with
  | mk drafted left =>
    obtain ⟨storeₙ, worldₙ⟩ := left
    obtain rfl : storeₙ = store := draft_keeps_store hdraft
    rw [hdraft] at run
    cases drafted with
    | error e =>
      cases run
      refine ⟨rfl, .inl ?_⟩
      rw [trace_of_error hdraft]
      exact filings_draftTrace _ _ _ _
    | ok drafted =>
      have covered : drafted.route.Covers drafted.stops := by
        obtain ⟨_, _, _, _, trip, _, _, _, _, _, _, hpolish⟩ := draft_eq_ok hdraft
        exact (cachedPolish_ensures _ options _ _ hpolish).2
      obtain ⟨depot, hbase, hlegs⟩ := draft_asked hdraft
      refine ⟨allOrNothing_of_draft reachable covered run, .inr ?_⟩
      refine ⟨_, _, _, _, trace_of_ok hdraft, ?_, ?_⟩
      · exact ⟨filings_draftTrace _ _ _ _, depot, drafted.stops, hbase, covered.kinds, hlegs⟩
      · rw [← outcome_insertRun_eq_transaction reachable.wellNumbered]
        exact store_of_fileDraft run

theorem createRun_all_or_nothing_line :
    Reachable Line.store ∧
      (createRun Line.services Line.options Line.request).outcome (Line.store, ()) =
        (.ok Line.planned, (Line.filed, ())) ∧
      AllOrNothing Line.request Line.store Line.filed (.ok Line.planned) ∧
      FilesOnce Line.request Line.store Line.filed
        (trace Line.services Line.options Line.request (Line.store, ())) :=
  ⟨Line.reachable_store, Line.outcome_createRun,
    createRun_all_or_nothing Line.reachable_store Line.outcome_createRun⟩

end RoutePlanner

end ServiceRoute
