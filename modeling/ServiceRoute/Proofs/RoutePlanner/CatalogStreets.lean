import ServiceRoute.Proofs.RoutePlanner.Atomicity
import ServiceRoute.Proofs.RoutePlanner.Membership
import ServiceRoute.Proofs.Store.CatalogLookup
import ServiceRoute.Proofs.Tour.RestoredStreets

/-!
# Streets from the catalog

A planning call looks at no street and no bearing that the oracle hands back. It plans with an
oracle as it plans with the one that drops them, so two oracles that differ in nothing else are
not told apart. The streets and bearings of a planned route are those of rows that the catalog
answered with during the call.
-/

namespace ServiceRoute

open Planning Consultation

variable {σ τ : Type}

def Services.withoutStreets (services : Services σ) : Services σ :=
  { services with oracle := services.oracle.withoutStreets }

/-- The stops that the consultation was answered with, if it was one of the catalog. -/
def Consultation.rows : Consultation → List Stop
  | topStops _ _ (.ok rows) => rows
  | stopsById _ _ (.ok rows) => rows
  | _ => []

def catalogRows (log : List Consultation) : List Stop :=
  log.flatMap (·.rows)

theorem catalogRows_subset {front log : List Consultation} (h : front <+: log) :
    catalogRows front ⊆ catalogRows log := by
  obtain ⟨later, rfl⟩ := h
  rw [catalogRows, catalogRows, List.flatMap_append]
  exact List.subset_append_left _ _

theorem mem_catalogRows_concat {c : Consultation} {s : Stop} (h : s ∈ c.rows)
    (log : List Consultation) : s ∈ catalogRows (log ++ [c]) := by
  rw [catalogRows, List.flatMap_append, List.flatMap_singleton]
  exact List.mem_append_right _ h

namespace Selection

theorem candidates_rows {catalog : RiskCatalog σ} {pool : String} {overrides : List Override}
    {options : SelectionOptions} {world world'' : σ} {chosen : List Candidate}
    (run : (candidates catalog pool overrides options).outcome world = (.ok chosen, world'')) :
    ∃ top world' found,
      (catalog.topStops pool (max options.rawLimit options.limit)).outcome world =
        (.ok top, world') ∧
      (lookUp catalog pool (wanted pool overrides top)).outcome world' = (.ok found, world'') ∧
      ∀ s ∈ chosen.map (·.stop), s ∈ top ∨ s ∈ found := by
  rw [candidates_eq] at run
  obtain ⟨top, world', fetched, selected⟩ := outcome_bind_eq_ok run
  obtain ⟨found, left, lookedUp, chosen_best⟩ := outcome_bind_eq_ok selected
  rw [outcome_liftM] at chosen_best
  obtain ⟨best_eq, rfl⟩ := Prod.mk.inj chosen_best
  have ranking : IsRanking pool overrides (Eligible pool overrides top found) _ :=
    isRanking_ranked (nodup_ids_pooled pool overrides top found) fun s => mem_pooled pool overrides
  refine ⟨top, world', found, fetched, lookedUp, fun s hs => ?_⟩
  rw [best_eq_ok best_eq] at hs
  have eligible := (ranking.complete s).mp (((List.take_sublist _ _).map _).subset hs)
  rcases eligible with ⟨first, _⟩ | ⟨_, first⟩
  · exact .inl (List.mem_of_find?_eq_some first)
  · exact .inr (List.mem_of_find?_eq_some first)

end Selection

namespace RoutePlanner

open Selection

section Chosen

variable {services : Services σ} {options : PlannerOptions} {request : RouteRequest}

theorem chooseStops_rows {options : SelectionOptions} {log log' : List Consultation}
    {world world' : σ} {chosen : List Stop}
    (run : (chooseStops services.traced options request).outcome (log, world) =
      (.ok chosen, (log', world'))) :
    ∀ s ∈ chosen, s ∈ catalogRows log' := by
  unfold chooseStops at run
  cases hstops : request.stops with
  | some ids =>
    simp only [hstops] at run
    obtain ⟨rows, answered, inside⟩ := resolveStops_rows run
    intro s hs
    rw [note_eq_ok answered]
    exact mem_catalogRows_concat (inside s hs) log
  | none =>
    simp only [hstops] at run
    obtain ⟨overrides, ⟨log₁, world₁⟩, _, picked⟩ := outcome_bind_eq_ok run
    obtain ⟨picks, ⟨log₃, world₃⟩, hpicks, hchosen⟩ := outcome_bind_eq_ok picked
    cases hchosen
    obtain ⟨top, ⟨log₂, world₂⟩, found, fetched, lookedUp, inside⟩ := candidates_rows hpicks
    have noted := note_eq_ok fetched
    intro s hs
    -- The second question is put only if an included stop is missing.
    unfold lookUp at lookedUp
    split_ifs at lookedUp
    · cases lookedUp
      rw [noted]
      exact mem_catalogRows_concat ((inside s hs).resolve_right List.not_mem_nil) log₁
    · rw [note_eq_ok lookedUp]
      rcases inside s hs with fetched_row | found_row
      · have fetched_log : s ∈ catalogRows log₂ := by
          rw [noted]
          exact mem_catalogRows_concat fetched_row log₁
        exact catalogRows_subset (List.prefix_append log₂ _) fetched_log
      · exact mem_catalogRows_concat found_row log₂

/-- A draft visits chosen stops only, each on the street and with the bearing of the row that the
catalog answered with. -/
theorem draft_visits (kinds : services.oracle.KeepsKinds) {world world' : σ}
    {drafted : PolishedRoute}
    (run : (draft services options request (cachedPolish services options)).outcome world =
      (.ok drafted, world')) :
    ∃ depot world₁ chosen world₂,
      (resolveDepot services.registry request.header.base).outcome world = (.ok depot, world₁) ∧
      (chooseStops services options.selection request).outcome world₁ = (.ok chosen, world₂) ∧
      (∀ s ∈ chosen, s ∈ catalogRows (draftTrace services options request world)) ∧
      ∀ w ∈ drafted.stops, ∃ s ∈ chosen, w.VisitOf s := by
  obtain ⟨depot, log₁, world₁, chosen, log₂, world₂, trip, _, _, hdepot, hchosen, htrip, hpolished,
    _, front⟩ := draftTrace_stages run
  refine ⟨depot, world₁, chosen, world₂,
    outcome_untraced (resolveDepot_inStep services.traced_inStep _) hdepot,
    outcome_untraced (chooseStops_inStep services.traced_inStep _ request) hchosen, ?_, ?_⟩
  · intro s hs
    exact catalogRows_subset front (chooseStops_rows hchosen s hs)
  · have planned := outcome_untraced
      (Tour.planDepotTrip_inStep services.traced_inStep.planTrip depot _) htrip
    have perm := (cachedPolish_ensures services.traced options depot trip.stops hpolished).1
    intro w hw
    exact Tour.planDepotTrip_ensures_visits kinds depot chosen planned w (perm.mem_iff.mp hw)

end Chosen

/-- Without the streets of its plans, an oracle that answers with kinds it was asked for serves a
planning call as it did with them. -/
theorem createRun_withoutStreets {services : Services σ} (kinds : services.oracle.KeepsKinds)
    (options : PlannerOptions) (request : RouteRequest) :
    createRun services.withoutStreets options request = createRun services options request := by
  unfold createRun
  refine bind_congr fun depot => bind_congr fun chosen => ?_
  have same : Tour.planDepotTrip services.withoutStreets.oracle depot
      (chosen.map Waypoint.ofStop) = _ :=
    Tour.planDepotTrip_withoutStreets kinds depot chosen
  rw [same]
  rfl

/-- Services that differ in nothing but the streets and bearings in the plans of their oracles plan
alike: whatever the schedule that they share is, both calls fail for the same reason or plan the
same. Every stop of a planned route stands on the street, and is approached with the bearing, that
the catalog answered for it, whatever the oracle handed back. -/
theorem createRun_streets_from_catalog {R : σ → τ → Prop} {services : Services σ}
    {services' : Services τ} (kinds : services.oracle.KeepsKinds)
    (kinds' : services'.oracle.KeepsKinds)
    (alike : Services.InStep R services.withoutStreets services'.withoutStreets)
    (filed : ∀ header total entries, InStep R (services.registry.insertRun header total entries)
      (services'.registry.insertRun header total entries))
    (options : PlannerOptions) (request : RouteRequest) :
    InStep R (createRun services options request) (createRun services' options request) ∧
      ∀ ⦃world planned world'⦄,
        (createRun services options request).outcome world = (.ok planned, world') →
        ∃ depot world₁ chosen world₂,
          (resolveDepot services.registry request.header.base).outcome world =
            (.ok depot, world₁) ∧
          (chooseStops services options.selection request).outcome world₁ =
            (.ok chosen, world₂) ∧
          (∀ s ∈ chosen, s ∈ catalogRows (trace services options request world)) ∧
          (chosen.map (·.id)).Nodup ∧
          ∀ w ∈ planned.stops, ∃ s ∈ chosen, w.VisitOf s := by
  constructor
  · rw [← createRun_withoutStreets kinds, ← createRun_withoutStreets kinds', createRun_eq,
      createRun_eq]
    exact createRunWith_inStep alike filed options request (cachedPolish_inStep alike options)
  · intro world planned world' run
    obtain ⟨drafted, _, hdraft, _, same⟩ := createRun_eq_ok run
    obtain ⟨depot, world₁, chosen, world₂, hdepot, hchosen, rows, visits⟩ :=
      draft_visits kinds hdraft
    obtain ⟨depot', chosen', _, _, hdepot', hchosen', hcovers, perm⟩ :=
      draft_perm_chosen kinds hdraft
    cases hdepot.symm.trans hdepot'
    cases hchosen.symm.trans hchosen'
    refine ⟨depot, world₁, chosen, world₂, hdepot, hchosen, fun s hs => ?_,
      perm.nodup_iff.mp hcovers.distinct, same ▸ visits⟩
    rw [trace_of_ok hdraft]
    exact catalogRows_subset (List.prefix_append _ _) (rows s hs)

/-! Two stops on one street with a third one between them, planned by an oracle that drops the
streets and by one that hands them back in the wrong order. -/

namespace Signs

open Store

def history : List Operation :=
  [.upsertBase "yard" ⟨0, 0⟩ true,
    .upsertStop "north" ⟨"P", ⟨2, 0⟩, some "Elm St", some "LOOP", none⟩,
    .upsertStop "north" ⟨"Q", ⟨5, 0⟩, some "Oak Ave", none, none⟩,
    .upsertStop "north" ⟨"R", ⟨3, 0⟩, some " elm st", some "loop", none⟩]

def store : Store :=
  Store.empty.afterAll history

/-- The plans of these oracles repeat the request, with the streets as `label` puts them. -/
def oracle (label : List Waypoint → List Waypoint) : CostOracle Unit where
  planTrip request _ := pure ⟨.zero, label request, []⟩
  legCost a b approach := liftM (Line.answer a b approach)

def services (label : List Waypoint → List Waypoint) : Services (Store × Unit) :=
  Store.services (oracle label) (fun _ _ => pure ()) Line.schedule

/-- Nothing but streets and bearings is written anew. -/
def Relabels (label : List Waypoint → List Waypoint) : Prop :=
  ∀ request, (label request).map Waypoint.withoutStreet = request.map Waypoint.withoutStreet

def dropped (request : List Waypoint) : List Waypoint :=
  request.map Waypoint.withoutStreet

/-- Every waypoint gets the street and the bearing of another one. -/
def crossed (request : List Waypoint) : List Waypoint :=
  (request.zip request.reverse).map fun (w, other) =>
    { w with street := other.street, bearing := other.bearing }

theorem dropped_relabels : Relabels dropped := by
  intro request
  rw [dropped, List.map_map]
  rfl

theorem crossed_relabels : Relabels crossed := by
  intro request
  have kept : (request.zip request.reverse).map Prod.fst = request :=
    List.map_fst_zip (by simp)
  rw [crossed, List.map_map]
  conv_rhs => rw [← kept, List.map_map]
  rfl

theorem keepsKinds {label : List Waypoint → List Waypoint} (h : Relabels label) :
    (services label).oracle.KeepsKinds := by
  intro requested source world plan world' run w hw
  cases run
  have labelled : w.withoutStreet ∈ requested.map Waypoint.withoutStreet :=
    h requested ▸ List.mem_map_of_mem hw
  obtain ⟨v, hv, same⟩ := List.mem_map.mp labelled
  have kind : v.withoutStreet.kind = w.withoutStreet.kind := congrArg Waypoint.kind same
  exact List.mem_map.mpr ⟨v, hv, kind⟩

theorem alike {label label' : List Waypoint → List Waypoint} (h : Relabels label)
    (h' : Relabels label') :
    Services.InStep Eq (services label).withoutStreets (services label').withoutStreets where
  activeBase _ := inStep_refl _
  overrides _ := inStep_refl _
  topStops _ _ := inStep_refl _
  stopsById _ _ := inStep_refl _
  planTrip request source := by
    rintro world _ rfl
    have same : (⟨.zero, label request, []⟩ : TripPlan).withoutStreets =
        (⟨.zero, label' request, []⟩ : TripPlan).withoutStreets := by
      rw [TripPlan.withoutStreets, TripPlan.withoutStreets, h request, h' request]
    exact ⟨congrArg Except.ok same, rfl⟩
  legCost _ _ _ := inStep_refl _
  announce _ _ := inStep_refl _
  schedule := rfl

def options : PlannerOptions := {}

def request : RouteRequest :=
  ⟨⟨"north", "yard", "2024-05-02"⟩, some ["P", "Q", "R"]⟩

/-- The stops of the street have been brought together. -/
def planned : PlannedRoute :=
  ⟨1, [⟨⟨2, 0⟩, .stop "P", some "Elm St", some "LOOP"⟩,
    ⟨⟨3, 0⟩, .stop "R", some " elm st", some "loop"⟩,
    ⟨⟨5, 0⟩, .stop "Q", some "Oak Ave", none⟩], ⟨50, 5⟩, 0⟩

def filed : Store :=
  store.withRun 1 request.header ⟨50, 5⟩
    [⟨"P", 0, ⟨20, 2⟩⟩, ⟨"R", 1, ⟨10, 1⟩⟩, ⟨"Q", 2, ⟨20, 2⟩⟩]

theorem services_pureLegs (label : List Waypoint → List Waypoint) :
    (services label).oracle.PureLegs Line.answer :=
  fun _ _ _ _ => rfl

theorem outcome_createRun :
    (createRun (services dropped) options request).outcome (store, ()) =
      (.ok planned, (filed, ())) := by
  have uncached : (createRunUncached (services dropped) options request).outcome (store, ()) =
      (.ok planned, (filed, ())) := by
    decide +kernel
  exact (createRun_succeedAlike (services_pureLegs dropped) options request _ _ _).mpr uncached

end Signs

theorem createRun_streets_from_catalog_signs :
    (Signs.services Signs.dropped).oracle.KeepsKinds ∧
      (Signs.services Signs.crossed).oracle.KeepsKinds ∧
      Services.InStep Eq (Signs.services Signs.dropped).withoutStreets
        (Signs.services Signs.crossed).withoutStreets ∧
      (createRun (Signs.services Signs.crossed) Signs.options Signs.request).outcome
        (Signs.store, ()) = (.ok Signs.planned, (Signs.filed, ())) ∧
      ∃ depot world₁ chosen world₂,
        (resolveDepot (Signs.services Signs.dropped).registry "yard").outcome (Signs.store, ()) =
          (.ok depot, world₁) ∧
        (chooseStops (Signs.services Signs.dropped) {} Signs.request).outcome world₁ =
          (.ok chosen, world₂) ∧
        (∀ s ∈ chosen, s ∈ catalogRows
          (trace (Signs.services Signs.dropped) Signs.options Signs.request (Signs.store, ()))) ∧
        (chosen.map (·.id)).Nodup ∧
        ∀ w ∈ Signs.planned.stops, ∃ s ∈ chosen, w.VisitOf s := by
  have kinds := Signs.keepsKinds Signs.dropped_relabels
  have kinds' := Signs.keepsKinds Signs.crossed_relabels
  have alike := Signs.alike Signs.dropped_relabels Signs.crossed_relabels
  obtain ⟨same, streets⟩ := createRun_streets_from_catalog kinds kinds' alike
    (fun _ _ _ => inStep_refl _) Signs.options Signs.request
  obtain ⟨answer, left⟩ := same (rfl : (Signs.store, ()) = (Signs.store, ()))
  rw [Signs.outcome_createRun] at answer left
  exact ⟨kinds, kinds', alike, Prod.ext answer.symm left.symm, streets Signs.outcome_createRun⟩

end RoutePlanner

end ServiceRoute
