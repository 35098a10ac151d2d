import ServiceRoute.Proofs.Corridor.Permutation
import ServiceRoute.Proofs.FinalRoute.Entries
import ServiceRoute.Proofs.LegCache.Lookup
import ServiceRoute.Proofs.Relocation.Permutation
import ServiceRoute.Proofs.Tour.DepotTrip
import ServiceRoute.RoutePlanner

/-!
# The stages of planning

A planning call drafts a route and files the draft. Only the last step writes.
Every stage is in step over services that are in step, and a polished trip is a
permutation of the trip, covered by its final route.
-/

namespace ServiceRoute

open Planning

variable {σ τ : Type}

/-- Services under one schedule whose answers, the filing of runs aside, are in step. -/
structure Services.InStep (R : σ → τ → Prop) (services : Services σ) (services' : Services τ) :
    Prop where
  activeBase : ∀ base, Planning.InStep R (services.registry.activeBase base)
    (services'.registry.activeBase base)
  overrides : ∀ pool, Planning.InStep R (services.overrides pool) (services'.overrides pool)
  topStops : ∀ pool limit, Planning.InStep R (services.catalog.topStops pool limit)
    (services'.catalog.topStops pool limit)
  stopsById : ∀ pool ids, Planning.InStep R (services.catalog.stopsById pool ids)
    (services'.catalog.stopsById pool ids)
  planTrip : ∀ request source, Planning.InStep R (services.oracle.planTrip request source)
    (services'.oracle.planTrip request source)
  legCost : ∀ a b approach, Planning.InStep R (services.oracle.legCost a b approach)
    (services'.oracle.legCost a b approach)
  announce : ∀ stage stops, Planning.InStep R (services.announce stage stops)
    (services'.announce stage stops)
  schedule : services.schedule = services'.schedule

namespace RoutePlanner

section Drafts

def cachedPolish (services : Services σ) (options : PlannerOptions) (depot : Coordinate)
    (trip : List Waypoint) : Planning σ PolishedRoute :=
  LegCache.withFresh (polish services.schedule
    (LegCache.cost fun a b => services.oracle.legCost a b .curb)
    (fun stage stops => (services.announce stage stops).inner) options depot trip)

/-- Everything before the filing, the trip polished by `polisher`. -/
def draft (services : Services σ) (options : PlannerOptions) (request : RouteRequest)
    (polisher : Coordinate → List Waypoint → Planning σ PolishedRoute) :
    Planning σ PolishedRoute := do
  let depot ← resolveDepot services.registry request.header.base
  let stops ← chooseStops services options.selection request
  let trip ← Tour.planDepotTrip services.oracle depot (stops.map Waypoint.ofStop)
  services.announce .trip trip.stops
  polisher depot trip.stops

def fileDraft (services : Services σ) (request : RouteRequest) (drafted : PolishedRoute) :
    Planning σ PlannedRoute := do
  let id ← drafted.route.file services.registry request.header
  pure ⟨id, drafted.stops, drafted.route.total, drafted.moves⟩

/-- A planning call whose trip is polished by `polisher`. -/
def createRunWith (services : Services σ) (options : PlannerOptions) (request : RouteRequest)
    (polisher : Coordinate → List Waypoint → Planning σ PolishedRoute) :
    Planning σ PlannedRoute :=
  draft services options request polisher >>= fileDraft services request

theorem createRun_eq (services : Services σ) (options : PlannerOptions) (request : RouteRequest) :
    createRun services options request =
      createRunWith services options request (cachedPolish services options) := by
  simp only [createRun, createRunWith, draft, cachedPolish, bind_assoc]
  rfl

theorem createRun_eq_ok {services : Services σ} {options : PlannerOptions}
    {request : RouteRequest} {world world' : σ} {planned : PlannedRoute}
    (run : (createRun services options request).outcome world = (.ok planned, world')) :
    ∃ drafted between,
      (draft services options request (cachedPolish services options)).outcome world =
        (.ok drafted, between) ∧
      (fileDraft services request drafted).outcome between = (.ok planned, world') ∧
      planned.stops = drafted.stops := by
  rw [createRun_eq] at run
  obtain ⟨drafted, between, hdraft, hfile⟩ := outcome_bind_eq_ok run
  refine ⟨drafted, between, hdraft, hfile, ?_⟩
  obtain ⟨_, _, _, hplanned⟩ := outcome_bind_eq_ok hfile
  cases hplanned
  rfl

/-- The stages a draft has gone through, with the worlds between them. -/
theorem draft_eq_ok {services : Services σ} {options : PlannerOptions} {request : RouteRequest}
    {polisher : Coordinate → List Waypoint → Planning σ PolishedRoute} {world world' : σ}
    {drafted : PolishedRoute}
    (run : (draft services options request polisher).outcome world = (.ok drafted, world')) :
    ∃ depot world₁ chosen world₂ trip world₃ world₄,
      (resolveDepot services.registry request.header.base).outcome world = (.ok depot, world₁) ∧
      (chooseStops services options.selection request).outcome world₁ = (.ok chosen, world₂) ∧
      (Tour.planDepotTrip services.oracle depot (chosen.map Waypoint.ofStop)).outcome world₂ =
        (.ok trip, world₃) ∧
      (services.announce .trip trip.stops).outcome world₃ = (.ok (), world₄) ∧
      (polisher depot trip.stops).outcome world₄ = (.ok drafted, world') := by
  unfold draft at run
  obtain ⟨depot, world₁, hdepot, run₁⟩ := outcome_bind_eq_ok run
  obtain ⟨chosen, world₂, hchosen, run₂⟩ := outcome_bind_eq_ok run₁
  obtain ⟨trip, world₃, htrip, run₃⟩ := outcome_bind_eq_ok run₂
  obtain ⟨⟨⟩, world₄, hannounce, run₄⟩ := outcome_bind_eq_ok run₃
  exact ⟨depot, world₁, chosen, world₂, trip, world₃, world₄, hdepot, hchosen, htrip, hannounce,
    run₄⟩

theorem polish_ensures (schedule : Schedule) (cost : Waypoint → Waypoint → Planning σ Cost)
    (announce : Stage → List Waypoint → Planning σ Unit) (options : PlannerOptions)
    (depot : Coordinate) (trip : List Waypoint) :
    Ensures (fun polished => polished.stops.Perm trip ∧ polished.route.Covers polished.stops)
      (polish schedule cost announce options depot trip) := by
  unfold polish
  refine (Relocation.relocateUnder_ensures_perm _ _ _ _ _ trip).bind fun relocated hrelocated => ?_
  refine Ensures.of_next fun _ => Ensures.of_next fun _ => ?_
  refine (FinalRoute.compute_ensures_covers cost depot _).bind fun route hroute => ?_
  exact ensures_pure ⟨(Corridor.refine_perm options.corridor relocated.stops).trans hrelocated,
    hroute⟩

theorem cachedPolish_ensures (services : Services σ) (options : PlannerOptions)
    (depot : Coordinate) (trip : List Waypoint) :
    Ensures (fun polished => polished.stops.Perm trip ∧ polished.route.Covers polished.stops)
      (cachedPolish services options depot trip) :=
  LegCache.withFresh_ensures (polish_ensures _ _ _ options depot trip)

end Drafts

section InStep

variable {R : σ → τ → Prop} {services : Services σ} {services' : Services τ}

theorem resolveDepot_inStep_of_base {registry : RunRegistry σ} {registry' : RunRegistry τ}
    {base : String} (h : InStep R (registry.activeBase base) (registry'.activeBase base)) :
    InStep R (resolveDepot registry base) (resolveDepot registry' base) := by
  unfold resolveDepot
  refine h.bind fun depot => ?_
  cases depot with
  | none => exact inStep_throw _
  | some depot => exact inStep_pure depot

theorem resolveDepot_inStep (h : Services.InStep R services services') (base : String) :
    InStep R (resolveDepot services.registry base) (resolveDepot services'.registry base) :=
  resolveDepot_inStep_of_base (h.activeBase base)

theorem candidates_inStep_of_catalog {catalog : RiskCatalog σ} {catalog' : RiskCatalog τ}
    (tops : ∀ pool limit, InStep R (catalog.topStops pool limit) (catalog'.topStops pool limit))
    (founds : ∀ pool ids, InStep R (catalog.stopsById pool ids) (catalog'.stopsById pool ids))
    (pool : String) (overrides : List Override) (options : SelectionOptions) :
    InStep R (Selection.candidates catalog pool overrides options)
      (Selection.candidates catalog' pool overrides options) := by
  have fetched : ∀ ids, InStep R (Selection.fetchMissing catalog pool ids)
      (Selection.fetchMissing catalog' pool ids) := by
    intro ids
    unfold Selection.fetchMissing
    split_ifs
    · exact inStep_pure []
    · exact (founds pool ids).map _
  unfold Selection.candidates
  refine (tops pool _).bind fun top => (fetched _).bind fun forced => ?_
  dsimp only
  split_ifs
  · exact inStep_throw _
  · exact inStep_pure _

theorem candidates_inStep (h : Services.InStep R services services') (pool : String)
    (overrides : List Override) (options : SelectionOptions) :
    InStep R (Selection.candidates services.catalog pool overrides options)
      (Selection.candidates services'.catalog pool overrides options) :=
  candidates_inStep_of_catalog h.topStops h.stopsById pool overrides options

theorem resolveStops_inStep (h : Services.InStep R services services') (pool : String)
    (ids : List StopId) :
    InStep R (resolveStops services.catalog pool ids)
      (resolveStops services'.catalog pool ids) := by
  unfold resolveStops
  refine (h.stopsById pool _).bind fun rows => ?_
  dsimp only
  split_ifs
  · exact inStep_throw _
  · exact inStep_throw _
  · exact inStep_pure _

theorem chooseStops_inStep (h : Services.InStep R services services') (options : SelectionOptions)
    (request : RouteRequest) :
    InStep R (chooseStops services options request) (chooseStops services' options request) := by
  unfold chooseStops
  cases request.stops with
  | some ids => exact resolveStops_inStep h _ ids
  | none =>
    refine (h.overrides _).bind fun overrides => ?_
    exact (candidates_inStep h _ overrides options).bind fun chosen => inStep_pure _

/-- The draft stage by stage, for stops that are chosen alike. -/
theorem draft_inStep_of_chosen {options : PlannerOptions} {request : RouteRequest}
    {polisher : Coordinate → List Waypoint → Planning σ PolishedRoute}
    {polisher' : Coordinate → List Waypoint → Planning τ PolishedRoute}
    (depots : InStep R (resolveDepot services.registry request.header.base)
      (resolveDepot services'.registry request.header.base))
    (chosen : InStep R (chooseStops services options.selection request)
      (chooseStops services' options.selection request))
    (planned : ∀ waypoints source, InStep R (services.oracle.planTrip waypoints source)
      (services'.oracle.planTrip waypoints source))
    (announced : ∀ stage stops, InStep R (services.announce stage stops)
      (services'.announce stage stops))
    (polished : ∀ depot trip, InStep R (polisher depot trip) (polisher' depot trip)) :
    InStep R (draft services options request polisher)
      (draft services' options request polisher') := by
  unfold draft
  refine depots.bind fun depot => chosen.bind fun stops => ?_
  refine (Tour.planDepotTrip_inStep planned depot _).bind fun trip => ?_
  exact (announced _ _).bind fun _ => polished depot trip.stops

theorem draft_inStep (h : Services.InStep R services services') (options : PlannerOptions)
    (request : RouteRequest) {polisher : Coordinate → List Waypoint → Planning σ PolishedRoute}
    {polisher' : Coordinate → List Waypoint → Planning τ PolishedRoute}
    (polished : ∀ depot trip, InStep R (polisher depot trip) (polisher' depot trip)) :
    InStep R (draft services options request polisher)
      (draft services' options request polisher') :=
  draft_inStep_of_chosen (resolveDepot_inStep h _) (chooseStops_inStep h _ request) h.planTrip
    h.announce polished

theorem polish_inStep (schedule : Schedule) (place : Waypoint → Prop)
    {cost : Waypoint → Waypoint → Planning σ Cost}
    {cost' : Waypoint → Waypoint → Planning τ Cost}
    {announce : Stage → List Waypoint → Planning σ Unit}
    {announce' : Stage → List Waypoint → Planning τ Unit}
    (legs : ∀ a b, place a → place b → InStep R (cost a b) (cost' a b))
    (announced : ∀ stage stops, InStep R (announce stage stops) (announce' stage stops))
    (options : PlannerOptions) {depot : Coordinate} {trip : List Waypoint}
    (start : place (.depot depot)) (inside : ∀ w ∈ trip, place w) :
    InStep R (polish schedule cost announce options depot trip)
      (polish schedule cost' announce' options depot trip) := by
  have durations : ∀ a b, place a → place b →
      InStep R (Cost.duration <$> cost a b) (Cost.duration <$> cost' a b) :=
    fun a b ha hb => (legs a b ha hb).map _
  unfold polish
  refine (Relocation.relocateUnder_inStep durations schedule _ _ _ inside).bind_ensures
    (Relocation.relocateUnder_ensures_perm _ _ _ _ _ trip) fun relocated hrelocated => ?_
  refine (announced _ _).bind fun _ => (announced _ _).bind fun _ => ?_
  have refined_inside : ∀ w ∈ Corridor.refine options.corridor relocated.stops, place w := by
    intro w hw
    have hperm := (Corridor.refine_perm options.corridor relocated.stops).trans hrelocated
    exact inside w (hperm.mem_iff.mp hw)
  exact (FinalRoute.compute_inStep legs start refined_inside).bind fun route => inStep_pure _

theorem cachedPolish_inStep_of_legs (scheduled : services.schedule = services'.schedule)
    (legs : ∀ a b approach, InStep R (services.oracle.legCost a b approach)
      (services'.oracle.legCost a b approach))
    (announced : ∀ stage stops, InStep R (services.announce stage stops)
      (services'.announce stage stops)) (options : PlannerOptions) (depot : Coordinate)
    (trip : List Waypoint) :
    InStep R (cachedPolish services options depot trip)
      (cachedPolish services' options depot trip) := by
  unfold cachedPolish
  rw [scheduled]
  refine LegCache.withFresh_inStep_withFresh (polish_inStep _ (fun _ => True) ?_ ?_ options
    trivial fun _ _ => trivial)
  · exact fun a b _ _ => LegCache.cost_inStep (legs a b .curb)
  · exact fun stage stops => (announced stage stops).inner

theorem cachedPolish_inStep (h : Services.InStep R services services') (options : PlannerOptions)
    (depot : Coordinate) (trip : List Waypoint) :
    InStep R (cachedPolish services options depot trip)
      (cachedPolish services' options depot trip) :=
  cachedPolish_inStep_of_legs h.schedule h.legCost h.announce options depot trip

theorem fileDraft_inStep
    (h : ∀ header total entries, InStep R (services.registry.insertRun header total entries)
      (services'.registry.insertRun header total entries)) (request : RouteRequest)
    (drafted : PolishedRoute) :
    InStep R (fileDraft services request drafted) (fileDraft services' request drafted) := by
  unfold fileDraft FinalRoute.file
  exact ((h _ _ _).adapt _).bind fun id => inStep_pure _

theorem createRunWith_inStep (h : Services.InStep R services services')
    (filed : ∀ header total entries, InStep R (services.registry.insertRun header total entries)
      (services'.registry.insertRun header total entries)) (options : PlannerOptions)
    (request : RouteRequest)
    {polisher : Coordinate → List Waypoint → Planning σ PolishedRoute}
    {polisher' : Coordinate → List Waypoint → Planning τ PolishedRoute}
    (polished : ∀ depot trip, InStep R (polisher depot trip) (polisher' depot trip)) :
    InStep R (createRunWith services options request polisher)
      (createRunWith services' options request polisher') :=
  (draft_inStep h options request polished).bind fun drafted =>
    fileDraft_inStep filed request drafted

end InStep

end RoutePlanner

end ServiceRoute
