import ServiceRoute.Proofs.RoutePlanner.Atomicity
import ServiceRoute.Proofs.RoutePlanner.Resolution
import ServiceRoute.Proofs.Store.CatalogLookup

/-!
# Pools apart

A planning call for a pool reads four things in a store: the row of its base, the overrides of the
pool, the riskiest stops of the pool and its stops with given ids. Stores that agree on these are
not told apart by the call, whatever they hold besides. It asks the oracle the same, and fails for
the same reason or files the same run.
-/

namespace ServiceRoute

open Planning Selection

variable {σ α β : Type}

namespace Store

/-- The override without its id and its author. -/
def OverrideRow.anonymous (row : OverrideRow) : OverrideRow :=
  { row with id := 0, author := "" }

/-- The stores have the same row of the base, the same overrides of the pool in their order, and
the same stops of the pool with their risks, in whatever order. -/
structure AgreeOn (base pool : String) (store store' : Store) : Prop where
  bases : store.bases.filter (·.id = base) = store'.bases.filter (·.id = base)
  overrides : (store.overrides.rows.filter (·.pool = pool)).map OverrideRow.anonymous =
    (store'.overrides.rows.filter (·.pool = pool)).map OverrideRow.anonymous
  stops : (store.catalog.ofPool pool).Perm (store'.catalog.ofPool pool)

section Reads

variable {base pool : String} {store store' : Store}

theorem activeBase_eq_filter (store : Store) (base : String) :
    store.activeBase base =
      ((store.bases.filter (·.id = base)).find? (·.active)).map (·.location) := by
  rw [activeBase, List.find?_filter]
  simp

theorem forPool_eq_anonymous (log : OverrideLog) (pool : String) :
    log.forPool pool =
      ((log.rows.filter (·.pool = pool)).map OverrideRow.anonymous).mapM OverrideRow.read := by
  rw [List.mapM_map]
  rfl

theorem AgreeOn.activeBase_eq (h : AgreeOn base pool store store') :
    store.activeBase base = store'.activeBase base := by
  rw [activeBase_eq_filter, activeBase_eq_filter, h.bases]

theorem AgreeOn.forPool_eq (h : AgreeOn base pool store store') :
    store.overrides.forPool pool = store'.overrides.forPool pool := by
  rw [forPool_eq_anonymous, forPool_eq_anonymous, h.overrides]

theorem AgreeOn.topStops_sameRows (h : AgreeOn base pool store store')
    (kept : store.catalog.WellKept) (limit : Nat) :
    SameRows (store.topStops pool limit) (store'.topStops pool limit) := by
  refine ⟨kept.nodup_top pool limit, ?_⟩
  rw [topStops, Catalog.top_eq_of_perm h.stops kept]
  rfl

theorem AgreeOn.stopsById_sameRows (h : AgreeOn base pool store store')
    (kept : store.catalog.WellKept) {ids : List StopId} (distinct : ids.Nodup) :
    SameRows (store.stopsById pool ids) (store'.stopsById pool ids) :=
  ⟨kept.nodup_byId distinct, Catalog.byId_perm h.stops ids⟩

end Reads

end Store

def Consultation.ofOracle : Consultation → Bool
  | planTrip .. | legCost .. => true
  | _ => false

def oracleCalls (log : List Consultation) : List Consultation :=
  log.filter (·.ofOracle)

theorem oracleCalls_append (log log' : List Consultation) :
    oracleCalls (log ++ log') = oracleCalls log ++ oracleCalls log' :=
  List.filter_append ..

section Notes

open Consultation

/-- The oracle was called alike, and the worlds are related. -/
def AskedAlike (R : σ → σ → Prop) (p q : List Consultation × σ) : Prop :=
  oracleCalls p.1 = oracleCalls q.1 ∧ R p.2 q.2

variable {R : σ → σ → Prop}

theorem note_inStep_asked (entry : Except PlanError α → Consultation) {act act' : Planning σ α}
    (h : InStep R act act') : InStep (AskedAlike R) (note entry act) (note entry act') := by
  rintro ⟨log, world⟩ ⟨log', world'⟩ ⟨calls, related⟩
  obtain ⟨same, left⟩ := h related
  refine ⟨same, ?_, left⟩
  rw [outcome_note, outcome_note]
  dsimp only at calls ⊢
  rw [oracleCalls_append, oracleCalls_append, calls, same]

/-- A question that is not for the oracle may be answered differently. -/
theorem note_inStepUpTo_asked {Q : α → α → Prop} {entry : Except PlanError α → Consultation}
    (quiet : ∀ answer, (entry answer).ofOracle = false) {act act' : Planning σ α}
    (h : InStepUpTo Q R act act') :
    InStepUpTo Q (AskedAlike R) (note entry act) (note entry act') := by
  rintro ⟨log, world⟩ ⟨log', world'⟩ ⟨calls, related⟩
  obtain ⟨alike, left⟩ := h related
  refine ⟨alike, ?_, left⟩
  rw [outcome_note, outcome_note]
  dsimp only at calls ⊢
  rw [oracleCalls_append, oracleCalls_append, calls]
  simp [oracleCalls, quiet]

end Notes

namespace RoutePlanner

open Store

section Beside

/-- Each call has its own store, and the worlds of the oracle are the same. -/
def Beside (store store' : Store) (p q : Store × σ) : Prop :=
  (p.1 = store ∧ q.1 = store') ∧ p.2 = q.2

variable (oracle : CostOracle σ) (announce : Stage → List Waypoint → Planning σ Unit)
variable (schedule : Schedule) {request : RouteRequest} {store store' : Store} {base pool : String}

theorem inner_inStep_beside (act : Planning σ α) :
    InStep (Beside store store') act.inner act.inner :=
  (inStep_refl act).inner (S := fun s t => s = store ∧ t = store')

theorem activeBase_inStep_beside (agree : AgreeOn base pool store store') :
    InStep (Beside store store') ((services oracle announce schedule).registry.activeBase base)
      ((services oracle announce schedule).registry.activeBase base) := by
  rintro ⟨_, world⟩ ⟨_, _⟩ ⟨⟨rfl, rfl⟩, rfl⟩
  exact ⟨congrArg Except.ok agree.activeBase_eq, ⟨rfl, rfl⟩, rfl⟩

theorem overrides_inStep_beside (agree : AgreeOn base pool store store') :
    InStep (Beside store store') ((services oracle announce schedule).overrides pool)
      ((services oracle announce schedule).overrides pool) := by
  rintro ⟨_, world⟩ ⟨_, _⟩ ⟨⟨rfl, rfl⟩, rfl⟩
  rw [outcome_services_overrides, outcome_services_overrides, agree.forPool_eq]
  exact ⟨rfl, ⟨rfl, rfl⟩, rfl⟩

theorem topStops_inStep_beside (agree : AgreeOn base pool store store')
    (kept : store.catalog.WellKept) (limit : Nat) :
    InStepUpTo SameRows (Beside store store')
      ((services oracle announce schedule).catalog.topStops pool limit)
      ((services oracle announce schedule).catalog.topStops pool limit) := by
  rintro ⟨_, world⟩ ⟨_, _⟩ ⟨⟨rfl, rfl⟩, rfl⟩
  exact ⟨.ok (agree.topStops_sameRows kept limit), ⟨rfl, rfl⟩, rfl⟩

theorem stopsById_inStep_beside (agree : AgreeOn base pool store store')
    (kept : store.catalog.WellKept) {ids : List StopId} (distinct : ids.Nodup) :
    InStepUpTo SameRows (Beside store store')
      ((services oracle announce schedule).catalog.stopsById pool ids)
      ((services oracle announce schedule).catalog.stopsById pool ids) := by
  rintro ⟨_, world⟩ ⟨_, _⟩ ⟨⟨rfl, rfl⟩, rfl⟩
  exact ⟨.ok (agree.stopsById_sameRows kept distinct), ⟨rfl, rfl⟩, rfl⟩

/-- The same stops are chosen from both stores, though their rows may be answered in two orders. -/
theorem chooseStops_inStep_beside (agree : AgreeOn base request.header.pool store store')
    (kept : store.catalog.WellKept) (options : SelectionOptions) :
    InStep (AskedAlike (Beside store store'))
      (chooseStops (services oracle announce schedule).traced options request)
      (chooseStops (services oracle announce schedule).traced options request) := by
  have found : ∀ ids : List StopId, ids.Nodup →
      InStepUpTo SameRows (AskedAlike (Beside store store'))
        ((services oracle announce schedule).traced.catalog.stopsById request.header.pool ids)
        ((services oracle announce schedule).traced.catalog.stopsById request.header.pool ids) :=
    fun ids distinct =>
      note_inStepUpTo_asked (fun _ => rfl)
        (stopsById_inStep_beside oracle announce schedule agree kept distinct)
  unfold chooseStops
  cases request.stops with
  | some ids => exact resolveStops_inStep_of_sameRows (found _ (nodup_distinct ids))
  | none =>
    refine (note_inStep_asked _ (overrides_inStep_beside oracle announce schedule agree)).bind
      fun overrides => ?_
    refine (candidates_inStep_of_sameRows ?_ fun top _ => found _ nodup_wanted).bind
      fun chosen => inStep_pure _
    exact note_inStepUpTo_asked (fun _ => rfl)
      (topStops_inStep_beside oracle announce schedule agree kept _)

theorem draft_inStep_beside
    (agree : AgreeOn request.header.base request.header.pool store store')
    (kept : store.catalog.WellKept) (options : PlannerOptions) :
    InStep (AskedAlike (Beside store store'))
      (draft (services oracle announce schedule).traced options request
        (cachedPolish (services oracle announce schedule).traced options))
      (draft (services oracle announce schedule).traced options request
        (cachedPolish (services oracle announce schedule).traced options)) := by
  have base := note_inStep_asked (.activeBase request.header.base)
    (activeBase_inStep_beside oracle announce schedule agree)
  have announced : ∀ stage stops, InStep (AskedAlike (Beside store store'))
      ((services oracle announce schedule).traced.announce stage stops)
      ((services oracle announce schedule).traced.announce stage stops) :=
    fun stage stops => (inner_inStep_beside (announce stage stops)).inner
      (S := fun log log' => oracleCalls log = oracleCalls log')
  have chosen := chooseStops_inStep_beside oracle announce schedule agree kept options.selection
  refine draft_inStep_of_chosen (resolveDepot_inStep_of_base base) chosen ?_ announced
    (cachedPolish_inStep_of_legs rfl ?_ announced options)
  · exact fun waypoints source => note_inStep_asked _ (inner_inStep_beside _)
  · exact fun a b approach => note_inStep_asked _ (inner_inStep_beside _)

theorem outcome_draft_beside
    (agree : AgreeOn request.header.base request.header.pool store store')
    (kept : store.catalog.WellKept) (options : PlannerOptions) (world : σ) :
    ∃ drafted world',
      (draft (services oracle announce schedule) options request
        (cachedPolish (services oracle announce schedule) options)).outcome (store, world) =
          (drafted, (store, world')) ∧
      (draft (services oracle announce schedule) options request
        (cachedPolish (services oracle announce schedule) options)).outcome (store', world) =
          (drafted, (store', world')) ∧
      oracleCalls (draftTrace (services oracle announce schedule) options request
          (store, world)) =
        oracleCalls (draftTrace (services oracle announce schedule) options request
          (store', world)) := by
  have began : AskedAlike (Beside store store') ([], (store, world)) ([], (store', world)) :=
    ⟨rfl, ⟨rfl, rfl⟩, rfl⟩
  have drafts := draft_inStep_beside oracle announce schedule agree kept options began
  rw [outcome_draft_traced, outcome_draft_traced] at drafts
  obtain ⟨same, calls, ⟨left, right⟩, worlds⟩ := drafts
  exact ⟨_, _, Prod.ext rfl (Prod.ext left rfl),
    Prod.ext same.symm (Prod.ext right worlds.symm), calls⟩

end Beside

/-- The oracle is called for the draft only. -/
theorem oracleCalls_trace (services : Services σ) (options : PlannerOptions)
    (request : RouteRequest) (world : σ) :
    oracleCalls (trace services options request world) =
      oracleCalls (draftTrace services options request world) := by
  cases run : (draft services options request (cachedPolish services options)).outcome world with
  | mk answer world' =>
    cases answer with
    | error e => rw [trace_of_error run]
    | ok drafted =>
      rw [trace_of_ok run, oracleCalls_append]
      exact List.append_nil _

/-- What two planning calls answer and leave: they fail for the same reason and leave their stores
as they were, or they plan the same and file the same rows, each under an id of its own. -/
inductive FiledAlike (request : RouteRequest) (store store' : Store) :
    Except PlanError PlannedRoute × Store × σ → Except PlanError PlannedRoute × Store × σ → Prop
  | error (e : PlanError) (world : σ) :
    FiledAlike request store store' (.error e, store, world) (.error e, store', world)
  | ok (planned : PlannedRoute) (id' : Int) (total : Cost) (entries : List RouteEntry)
    (world : σ) :
    FiledAlike request store store'
      (.ok planned, store.withRun planned.runId request.header total entries, world)
      (.ok { planned with runId := id' }, store'.withRun id' request.header total entries, world)

theorem FiledAlike.planned {request : RouteRequest} {store store' : Store}
    {outcome outcome' : Except PlanError PlannedRoute × Store × σ}
    (h : FiledAlike request store store' outcome outcome') {planned : PlannedRoute}
    (succeeds : outcome.1 = .ok planned) :
    ∃ id', outcome'.1 = .ok { planned with runId := id' } := by
  cases h with
  | error e world => cases succeeds
  | ok planned' id' total entries world =>
    cases succeeds
    exact ⟨id', rfl⟩

/-- What is planned for a pool depends on nothing in the store but the base, the stops of the pool
and its overrides. Over stores that agree on these, and under whatever schedule, the oracle is
called alike, and both calls fail for the same reason or file the same route. So what a planning
call may come to over one store, it may come to over the other. -/
theorem createRun_pool_isolated {oracle : CostOracle σ}
    {announce : Stage → List Waypoint → Planning σ Unit} (schedule : Schedule)
    {options : PlannerOptions} {request : RouteRequest} {store store' : Store}
    (reachable : Reachable store)
    (agree : AgreeOn request.header.base request.header.pool store store') (world : σ) :
    oracleCalls (trace (services oracle announce schedule) options request (store, world)) =
        oracleCalls (trace (services oracle announce schedule) options request (store', world)) ∧
      FiledAlike request store store'
        ((createRun (services oracle announce schedule) options request).outcome (store, world))
        ((createRun (services oracle announce schedule) options request).outcome
          (store', world)) := by
  obtain ⟨drafted, world', run, run', calls⟩ :=
    outcome_draft_beside oracle announce schedule agree reachable.wellKept options world
  refine ⟨by rw [oracleCalls_trace, oracleCalls_trace, calls], ?_⟩
  rw [createRun_eq, createRunWith, outcome_bind, outcome_bind, run, run']
  cases drafted with
  | error e => exact .error e world'
  | ok drafted =>
    dsimp only
    rw [outcome_fileDraft, outcome_fileDraft]
    obtain ⟨e, refused⟩ | ⟨total, entries, filed⟩ :=
      insertRun_everywhere request.header drafted.route.total drafted.route.entries
    · rw [refused, refused]
      exact .error _ world'
    · rw [filed, filed]
      exact .ok _ _ total entries world'

/-! A store with the same pool, its stops in another order, beside another pool with a run. -/

namespace Neighbour

def history : List Operation :=
  [.upsertBase "quay" ⟨5, 5⟩ true, .upsertBase "yard" ⟨0, 0⟩ true,
    .upsertStop "north" ⟨"D", ⟨110, 0⟩, none, none, none⟩,
    .upsertStop "south" ⟨"E", ⟨50, 0⟩, none, none, some ⟨90, 1, 1⟩⟩,
    .upsertStop "north" ⟨"B", ⟨100, 0⟩, none, none, none⟩,
    .upsertStop "north" ⟨"A", ⟨1, 0⟩, none, none, none⟩,
    .upsertStop "north" ⟨"C", ⟨10, 0⟩, none, none, none⟩,
    .addOverride ⟨"south", "A", .forceExclude, none⟩ "ana",
    .insertRun ⟨"south", "quay", "2024-04-30"⟩ ⟨10, 1⟩ [⟨"E", 0, ⟨10, 1⟩⟩]]

def store : Store :=
  Store.empty.afterAll history

theorem agree : AgreeOn "yard" "north" Line.store store :=
  ⟨by decide, by decide, by decide⟩

end Neighbour

theorem createRun_pool_isolated_neighbour :
    Reachable Line.store ∧ AgreeOn "yard" "north" Line.store Neighbour.store ∧
      oracleCalls (trace Line.services Line.options Line.request (Line.store, ())) =
        oracleCalls (trace Line.services Line.options Line.request (Neighbour.store, ())) ∧
      FiledAlike Line.request Line.store Neighbour.store
        ((createRun Line.services Line.options Line.request).outcome (Line.store, ()))
        ((createRun Line.services Line.options Line.request).outcome (Neighbour.store, ())) ∧
      ∃ id', ((createRun Line.services Line.options Line.request).outcome
        (Neighbour.store, ())).1 = .ok { Line.planned with runId := id' } := by
  have isolated : _ ∧ FiledAlike Line.request Line.store Neighbour.store
      ((createRun Line.services Line.options Line.request).outcome (Line.store, ()))
      ((createRun Line.services Line.options Line.request).outcome (Neighbour.store, ())) :=
    createRun_pool_isolated Line.schedule Line.reachable_store Neighbour.agree ()
  exact ⟨Line.reachable_store, Neighbour.agree, isolated.1, isolated.2,
    isolated.2.planned (congrArg Prod.fst Line.outcome_createRun)⟩

end RoutePlanner

end ServiceRoute
