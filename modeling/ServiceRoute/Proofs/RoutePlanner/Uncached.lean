import ServiceRoute.Proofs.FinalRoute.Visitable
import ServiceRoute.Proofs.RoutePlanner.Trace
import ServiceRoute.Proofs.Store.Filing
import ServiceRoute.Proofs.Store.History

/-!
# Planning without a leg cache

The leg cache is transparent: over legs that depend on nothing but their two ends,
planning succeeds exactly when it succeeds with every leg asked anew, and then
with the same route. The cache knows a stop only by its id, so this fails inside a
trip that visits one stop at two places. No such trip has a final route, though:
relocation and refinement permute the trip, and the final walk rejects it.
-/

namespace ServiceRoute

open Planning

variable {σ : Type}

/-- The answer to a leg depends on its ends and the approach only, and asking changes nothing. -/
def CostOracle.PureLegs (oracle : CostOracle σ)
    (answer : Waypoint → Waypoint → Approach → Except PlanError Cost) : Prop :=
  ∀ a b approach world, (oracle.legCost a b approach).outcome world = (answer a b approach, world)

def Services.under (services : Services σ) (schedule : Schedule) : Services σ :=
  { services with schedule := schedule }

namespace RoutePlanner

/-- Plans and files a route run, every leg asked of the oracle as often as it is needed. -/
def createRunUncached (services : Services σ) (options : PlannerOptions) (request : RouteRequest) :
    Planning σ PlannedRoute := do
  let depot ← resolveDepot services.registry request.header.base
  let stops ← chooseStops services options.selection request
  let trip ← Tour.planDepotTrip services.oracle depot (stops.map Waypoint.ofStop)
  services.announce .trip trip.stops
  let legCost a b := services.oracle.legCost a b .curb
  let polished ← polish services.schedule legCost services.announce options depot trip.stops
  let id ← polished.route.file services.registry request.header
  pure ⟨id, polished.stops, polished.route.total, polished.moves⟩

/-- The trip polished with every leg asked anew. -/
def directPolish (services : Services σ) (options : PlannerOptions) (depot : Coordinate)
    (trip : List Waypoint) : Planning σ PolishedRoute :=
  polish services.schedule (fun a b => services.oracle.legCost a b .curb) services.announce options
    depot trip

theorem createRunUncached_eq (services : Services σ) (options : PlannerOptions)
    (request : RouteRequest) :
    createRunUncached services options request =
      createRunWith services options request (directPolish services options) := by
  simp only [createRunUncached, createRunWith, draft, directPolish, bind_assoc]
  rfl

section Polishers

variable {services : Services σ}
variable {answer : Waypoint → Waypoint → Approach → Except PlanError Cost}

/-- On a visitable trip the cache answers every lookup as the oracle would. -/
theorem cachedPolish_inStep_directPolish (pureLegs : services.oracle.PureLegs answer)
    (options : PlannerOptions) (depot : Coordinate) {trip : List Waypoint}
    (visitable : Visitable trip) :
    InStep Eq (cachedPolish services options depot trip)
      (directPolish services options depot trip) := by
  have apart := visitable.apart depot
  have asked : ∀ a b world, (services.oracle.legCost a b .curb).outcome world =
      (answer a b .curb, world) := fun a b => pureLegs a b .curb
  have polished := polish_inStep services.schedule (fun w => w = .depot depot ∨ w ∈ trip)
    (fun a b ha hb => LegCache.cost_inStep_ask apart asked ha hb)
    (fun stage stops => (inStep_refl (services.announce stage stops)).inner_left)
    options (.inl rfl) fun w hw => .inr hw
  exact LegCache.withFresh_inStep polished
    (fun _ _ h => ⟨LegCache.vouched_empty _ _, h⟩) fun _ _ h => h.2

theorem directPolish_ensures (options : PlannerOptions) (depot : Coordinate)
    (trip : List Waypoint) :
    Ensures (fun polished => polished.stops.Perm trip ∧ polished.route.Covers polished.stops)
      (directPolish services options depot trip) :=
  polish_ensures _ _ _ options depot trip

theorem cachedPolish_succeedAlike (pureLegs : services.oracle.PureLegs answer)
    (options : PlannerOptions) (depot : Coordinate) (trip : List Waypoint) :
    SucceedAlike (cachedPolish services options depot trip)
      (directPolish services options depot trip) := by
  by_cases visitable : Visitable trip
  · exact (cachedPolish_inStep_directPolish pureLegs options depot visitable).succeedAlike
  · have never : ∀ polished : PolishedRoute, polished.stops.Perm trip ∧
        polished.route.Covers polished.stops → False :=
      fun polished h => visitable (h.2.visitable.perm h.1)
    exact .of_never
      (fun _ _ _ run => never _ (cachedPolish_ensures services options depot trip run))
      fun _ _ _ run => never _ (directPolish_ensures options depot trip run)

theorem draft_succeedAlike (pureLegs : services.oracle.PureLegs answer) (options : PlannerOptions)
    (request : RouteRequest) :
    SucceedAlike (draft services options request (cachedPolish services options))
      (draft services options request (directPolish services options)) := by
  unfold draft
  refine (succeedAlike_refl _).bind fun depot => (succeedAlike_refl _).bind fun chosen => ?_
  refine (succeedAlike_refl _).bind fun trip => (succeedAlike_refl _).bind fun _ => ?_
  exact cachedPolish_succeedAlike pureLegs options depot trip.stops

theorem createRun_succeedAlike (pureLegs : services.oracle.PureLegs answer)
    (options : PlannerOptions) (request : RouteRequest) :
    SucceedAlike (createRun services options request)
      (createRunUncached services options request) := by
  rw [createRun_eq, createRunUncached_eq]
  exact (draft_succeedAlike pureLegs options request).bind fun _ => succeedAlike_refl _

theorem polish_succeedAlike {cost : Waypoint → Waypoint → Planning σ Cost}
    {price : Waypoint → Waypoint → Except PlanError Cost}
    (pureLegs : ∀ a b world, (cost a b).outcome world = (price a b, world))
    (schedule schedule' : Schedule) (announce : Stage → List Waypoint → Planning σ Unit)
    (options : PlannerOptions) (depot : Coordinate) (trip : List Waypoint) :
    SucceedAlike (polish schedule cost announce options depot trip)
      (polish schedule' cost announce options depot trip) := by
  have durations : ∀ a b world, (Cost.duration <$> cost a b).outcome world =
      ((price a b).map Cost.duration, world) := by
    intro a b world
    rw [outcome_map, pureLegs]
  exact (Relocation.relocateUnder_succeedAlike durations schedule schedule' _ _ _ trip).bind
    fun _ => succeedAlike_refl _

/-- Over pure legs, a planning call succeeds under all schedules alike, with the same planned route
and the same world behind it. -/
theorem createRun_succeedAlike_schedule (pureLegs : services.oracle.PureLegs answer)
    (schedule : Schedule) (options : PlannerOptions) (request : RouteRequest) :
    SucceedAlike (createRun services options request)
      (createRun (services.under schedule) options request) := by
  have polished : ∀ depot trip, SucceedAlike (directPolish services options depot trip)
      (directPolish (services.under schedule) options depot trip) :=
    polish_succeedAlike (fun a b => pureLegs a b .curb) _ schedule _ options
  have uncached : SucceedAlike (createRunUncached services options request)
      (createRunUncached (services.under schedule) options request) := by
    rw [createRunUncached_eq, createRunUncached_eq]
    refine SucceedAlike.bind ?_ fun _ => succeedAlike_refl _
    unfold draft
    refine (succeedAlike_refl _).bind fun depot => (succeedAlike_refl _).bind fun chosen => ?_
    refine (succeedAlike_refl _).bind fun trip => (succeedAlike_refl _).bind fun _ => ?_
    exact polished depot _
  have under : (services.under schedule).oracle.PureLegs answer := pureLegs
  exact (createRun_succeedAlike pureLegs options request).trans
    (uncached.trans (createRun_succeedAlike under options request).symm)

end Polishers

section Direct

variable (services : Services σ) (options : PlannerOptions) (request : RouteRequest)

def traceUncached (world : σ) : List Consultation :=
  logOf (createRunUncached services.traced options request) world

theorem directPolish_inStep {τ : Type} {R : σ → τ → Prop} {services : Services σ}
    {services' : Services τ} (h : Services.InStep R services services')
    (options : PlannerOptions) (depot : Coordinate) (trip : List Waypoint) :
    InStep R (directPolish services options depot trip)
      (directPolish services' options depot trip) := by
  unfold directPolish
  rw [h.schedule]
  exact polish_inStep _ (fun _ => True) (fun a b _ _ => h.legCost a b .curb) h.announce options
    trivial fun _ _ => trivial

theorem directPolish_traced_keeps (depot : Coordinate) (trip : List Waypoint) :
    Keeps (fun p => filings p.1 = []) (directPolish services.traced options depot trip) :=
  keeps_iff_inStep.mpr (directPolish_inStep
    (services.traced_keeps (I := fun log => filings log = []) fun _ _ => filings_append_quiet)
    options depot trip)

theorem filings_traceUncached_of_ok {world world' : σ} {drafted : PolishedRoute}
    (run : (draft services options request (directPolish services options)).outcome world =
      (.ok drafted, world')) :
    filings (traceUncached services options request world) =
      [(request.header, drafted.route.total, drafted.route.entries)] := by
  rw [traceUncached, createRunUncached_eq]
  exact filings_createRunWith_of_ok services options request
    (directPolish_inStep services.traced_inStep options)
    (directPolish_traced_keeps services options) run

end Direct

/-- Over pure legs, planning with the cache succeeds exactly when planning without it does, with
the same planned route and the same world behind it, and both hand over the same run. -/
theorem createRun_eq_ok_iff_uncached {services : Services σ}
    {answer : Waypoint → Waypoint → Approach → Except PlanError Cost}
    (pureLegs : services.oracle.PureLegs answer) (options : PlannerOptions) (request : RouteRequest)
    (world : σ) (planned : PlannedRoute) (world' : σ) :
    ((createRun services options request).outcome world = (.ok planned, world') ↔
      (createRunUncached services options request).outcome world = (.ok planned, world')) ∧
    ((createRun services options request).outcome world = (.ok planned, world') →
      filings (trace services options request world) =
        filings (traceUncached services options request world)) := by
  refine ⟨createRun_succeedAlike pureLegs options request world planned world', fun run => ?_⟩
  rw [createRun_eq] at run
  obtain ⟨drafted, between, hdraft, _⟩ := outcome_bind_eq_ok run
  have hdirect := (draft_succeedAlike pureLegs options request _ _ _).mp hdraft
  rw [filings_trace_of_ok hdraft, filings_traceUncached_of_ok services options request hdirect]

/-! Four stops along a line, requested in an order that goes back and forth. -/

namespace Line

open Store

/-- The store is built up from nothing by these operations. -/
def history : List Operation :=
  [.upsertBase "yard" ⟨0, 0⟩ true,
    .upsertStop "north" ⟨"A", ⟨1, 0⟩, none, none, none⟩,
    .upsertStop "north" ⟨"B", ⟨100, 0⟩, none, none, none⟩,
    .upsertStop "north" ⟨"C", ⟨10, 0⟩, none, none, none⟩,
    .upsertStop "north" ⟨"D", ⟨110, 0⟩, none, none, none⟩]

def store : Store :=
  Store.empty.afterAll history

theorem reachable_store : Reachable store :=
  Reachable.empty.afterAll history

def answer (a b : Waypoint) (_ : Approach) : Except PlanError Cost :=
  let apart := (a.location.lon - b.location.lon).abs
  .ok ⟨10 * apart, apart⟩

/-- Trips are answered in the order of the request, and legs by their length. -/
def oracle : CostOracle Unit where
  planTrip request _ := pure ⟨.zero, request, []⟩
  legCost a b approach := liftM (answer a b approach)

/-- The second candidate of a window asks first, and then it is the turn of the first one. -/
def schedule : Schedule :=
  fun _ => ⟨[1, 0, 0, 1], 0⟩

def services : Services (Store × Unit) :=
  Store.services oracle (fun _ _ => pure ()) schedule

def options : PlannerOptions := {}

def request : RouteRequest :=
  ⟨⟨"north", "yard", "2024-05-01"⟩, some ["A", "B", "C", "D"]⟩

def visit (id : StopId) (lon : Float) : Waypoint :=
  ⟨⟨lon, 0⟩, .stop id, none, none⟩

/-- The third stop has been moved in front of the second. -/
def planned : PlannedRoute :=
  ⟨1, [visit "A" 1, visit "C" 10, visit "B" 100, visit "D" 110], ⟨1100, 110⟩, 1⟩

def filed : Store :=
  store.withRun 1 request.header ⟨1100, 110⟩
    [⟨"A", 0, ⟨10, 1⟩⟩, ⟨"C", 1, ⟨90, 9⟩⟩, ⟨"B", 2, ⟨900, 90⟩⟩, ⟨"D", 3, ⟨100, 10⟩⟩]

theorem oracle_pureLegs : oracle.PureLegs answer :=
  fun _ _ _ _ => rfl

theorem services_pureLegs : services.oracle.PureLegs answer :=
  fun _ _ _ _ => rfl

theorem outcome_createRunUncached :
    (createRunUncached services options request).outcome (store, ()) =
      (.ok planned, (filed, ())) := by
  decide +kernel

theorem outcome_createRun :
    (createRun services options request).outcome (store, ()) = (.ok planned, (filed, ())) :=
  (createRun_succeedAlike services_pureLegs options request _ _ _).mpr outcome_createRunUncached

end Line

theorem createRun_eq_ok_iff_uncached_line :
    Line.services.oracle.PureLegs Line.answer ∧
      (createRun Line.services Line.options Line.request).outcome (Line.store, ()) =
        (.ok Line.planned, (Line.filed, ())) ∧
      filings (trace Line.services Line.options Line.request (Line.store, ())) =
        filings (traceUncached Line.services Line.options Line.request (Line.store, ())) := by
  obtain ⟨succeeds, hands_over⟩ := createRun_eq_ok_iff_uncached Line.services_pureLegs Line.options
    Line.request (Line.store, ()) Line.planned (Line.filed, ())
  have run := succeeds.mpr Line.outcome_createRunUncached
  exact ⟨Line.services_pureLegs, run, hands_over run⟩

end RoutePlanner

end ServiceRoute
