import ServiceRoute.Proofs.RoutePlanner.Stages

/-!
# The trace of a planning call

Traced services write down every question with its answer, in a log beside the
world. Tracing changes neither the outcome of a planning call nor its world, so
the log is a faithful record of what the call asked and filed, and in which order.
-/

namespace ServiceRoute

open Planning

variable {σ α : Type}

/-- A question put to a service during planning, and the answer it got. -/
inductive Consultation where
  | activeBase (base : String) (answer : Except PlanError (Option Coordinate))
  | overrides (pool : String) (answer : Except PlanError (List Override))
  | topStops (pool : String) (limit : Nat) (answer : Except PlanError (List Stop))
  | stopsById (pool : String) (ids : List StopId) (answer : Except PlanError (List Stop))
  | planTrip (request : List Waypoint) (source : TripSource) (answer : Except PlanError TripPlan)
  | legCost (a b : Waypoint) (approach : Approach) (answer : Except PlanError Cost)
  | insertRun (header : RunHeader) (total : Cost) (entries : List RouteEntry)
    (answer : Except PlanError Int)

namespace Consultation

/-- What was handed over for filing, if anything was. -/
def filing? : Consultation → Option (RunHeader × Cost × List RouteEntry)
  | insertRun header total entries _ => some (header, total, entries)
  | _ => none

/-- Runs an action and notes it in the log with its answer. -/
def note (entry : Except PlanError α → Consultation) (act : Planning σ α) :
    Planning (List Consultation × σ) α :=
  .ofOutcome fun (log, world) =>
    let (answer, world) := act.outcome world
    (answer, (log ++ [entry answer], world))

@[simp] theorem outcome_note (entry : Except PlanError α → Consultation) (act : Planning σ α)
    (log : List Consultation) (world : σ) :
    (note entry act).outcome (log, world) =
      ((act.outcome world).1,
        (log ++ [entry (act.outcome world).1], (act.outcome world).2)) := rfl

theorem note_eq_ok {entry : Except PlanError α → Consultation} {act : Planning σ α}
    {log log' : List Consultation} {world world' : σ} {a : α}
    (run : (note entry act).outcome (log, world) = (.ok a, (log', world'))) :
    log' = log ++ [entry (.ok a)] := by
  rw [outcome_note] at run
  obtain ⟨answered, logged, _⟩ : _ ∧ _ ∧ _ := by simpa only [Prod.mk.injEq] using run
  rw [← logged, answered]

theorem note_inStep (entry : Except PlanError α → Consultation) (act : Planning σ α) :
    InStep (fun p world => p.2 = world) (note entry act) act := by
  rintro ⟨log, world⟩ world' h
  obtain rfl : world = world' := h
  exact ⟨rfl, rfl⟩

theorem note_keeps {I : List Consultation → Prop} {entry : Except PlanError α → Consultation}
    (h : ∀ log answer, I log → I (log ++ [entry answer])) (act : Planning σ α) :
    Keeps (fun p => I p.1) (note entry act) := by
  rintro ⟨log, world⟩ hlog
  exact h log _ hlog

end Consultation

open Consultation

/-- The runs handed over for filing, in order. -/
def filings (log : List Consultation) : List (RunHeader × Cost × List RouteEntry) :=
  log.filterMap filing?

theorem filings_append (log log' : List Consultation) :
    filings (log ++ log') = filings log ++ filings log' := by
  simp [filings]

/-- The services with every question noted in a log beside their world. -/
def Services.traced (services : Services σ) : Services (List Consultation × σ) where
  oracle :=
    { planTrip := fun request source =>
        note (.planTrip request source) (services.oracle.planTrip request source)
      legCost := fun a b approach =>
        note (.legCost a b approach) (services.oracle.legCost a b approach) }
  catalog :=
    { topStops := fun pool limit =>
        note (.topStops pool limit) (services.catalog.topStops pool limit)
      stopsById := fun pool ids =>
        note (.stopsById pool ids) (services.catalog.stopsById pool ids) }
  overrides pool := note (.overrides pool) (services.overrides pool)
  registry :=
    { activeBase := fun base => note (.activeBase base) (services.registry.activeBase base)
      insertRun := fun header total entries =>
        note (.insertRun header total entries) (services.registry.insertRun header total entries) }
  announce stage stops := (services.announce stage stops).inner
  schedule := services.schedule

theorem Services.traced_inStep (services : Services σ) :
    Services.InStep (fun p world => p.2 = world) services.traced services where
  activeBase _ := note_inStep _ _
  overrides _ := note_inStep _ _
  topStops _ _ := note_inStep _ _
  stopsById _ _ := note_inStep _ _
  planTrip _ _ := note_inStep _ _
  legCost _ _ _ := note_inStep _ _
  announce stage stops := by
    rintro ⟨log, world⟩ world' h
    obtain rfl : world = world' := h
    exact ⟨rfl, rfl⟩
  schedule := rfl

/-- What survives every further question other than a filing survives a draft. -/
theorem Services.traced_keeps {I : List Consultation → Prop}
    (h : ∀ log c, c.filing? = none → I log → I (log ++ [c])) (services : Services σ) :
    Services.InStep (fun p q => p = q ∧ I p.1) services.traced services.traced where
  activeBase _ := keeps_iff_inStep.mp (note_keeps (fun log _ => h log _ rfl) _)
  overrides _ := keeps_iff_inStep.mp (note_keeps (fun log _ => h log _ rfl) _)
  topStops _ _ := keeps_iff_inStep.mp (note_keeps (fun log _ => h log _ rfl) _)
  stopsById _ _ := keeps_iff_inStep.mp (note_keeps (fun log _ => h log _ rfl) _)
  planTrip _ _ := keeps_iff_inStep.mp (note_keeps (fun log _ => h log _ rfl) _)
  legCost _ _ _ := keeps_iff_inStep.mp (note_keeps (fun log _ => h log _ rfl) _)
  announce _ _ := keeps_iff_inStep.mp fun _ hI => hI
  schedule := rfl

def logOf (act : Planning (List Consultation × σ) α) (world : σ) : List Consultation :=
  (act.outcome ([], world)).2.1

/-- A traced action answers as the plain one does, and leaves its log beside the world. -/
theorem outcome_of_traced {act : Planning (List Consultation × σ) α} {act' : Planning σ α}
    (h : InStep (fun p world => p.2 = world) act act') (world : σ) :
    act.outcome ([], world) =
      ((act'.outcome world).1, (logOf act world, (act'.outcome world).2)) := by
  obtain ⟨hanswer, hworld⟩ := h (show (([], world) : List Consultation × σ).2 = world from rfl)
  exact Prod.ext hanswer (Prod.ext rfl hworld)

theorem outcome_untraced {act : Planning (List Consultation × σ) α} {act' : Planning σ α}
    (h : InStep (fun p world => p.2 = world) act act') {p p' : List Consultation × σ}
    {answer : Except PlanError α} (run : act.outcome p = (answer, p')) :
    act'.outcome p.2 = (answer, p'.2) := by
  obtain ⟨same, left⟩ := h (show p.2 = p.2 from rfl)
  rw [run] at same left
  exact Prod.ext same.symm left.symm

namespace RoutePlanner

section Polisher

variable (services : Services σ) (options : PlannerOptions) (request : RouteRequest)
variable {polisher : Coordinate → List Waypoint → Planning (List Consultation × σ) PolishedRoute}
variable {polisher' : Coordinate → List Waypoint → Planning σ PolishedRoute}

theorem draft_traced_inStep
    (polished : ∀ depot trip, InStep (fun p world => p.2 = world) (polisher depot trip)
      (polisher' depot trip)) :
    InStep (fun p world => p.2 = world) (draft services.traced options request polisher)
      (draft services options request polisher') :=
  draft_inStep services.traced_inStep options request polished

theorem draft_traced_keeps {I : List Consultation → Prop}
    (h : ∀ log c, c.filing? = none → I log → I (log ++ [c]))
    (polished : ∀ depot trip, Keeps (fun p => I p.1) (polisher depot trip)) :
    Keeps (fun p => I p.1) (draft services.traced options request polisher) :=
  keeps_iff_inStep.mpr (draft_inStep (services.traced_keeps h) options request
    fun depot trip => keeps_iff_inStep.mp (polished depot trip))

theorem filings_append_quiet {log : List Consultation} {c : Consultation} (hc : c.filing? = none)
    (h : filings log = []) : filings (log ++ [c]) = [] := by
  rw [filings_append, h]
  simp [filings, hc]

/-- A draft files nothing. -/
theorem filings_draft
    (quiet : ∀ depot trip, Keeps (fun p => filings p.1 = []) (polisher depot trip)) (world : σ) :
    filings (logOf (draft services.traced options request polisher) world) = [] :=
  draft_traced_keeps services options request (I := fun log => filings log = [])
    (fun _ _ => filings_append_quiet) quiet rfl

theorem outcome_fileDraft_traced (drafted : PolishedRoute) (log : List Consultation) (world : σ) :
    ((fileDraft services.traced request drafted).outcome (log, world)).2.1 =
      log ++ [.insertRun request.header drafted.route.total drafted.route.entries
        ((services.registry.insertRun request.header drafted.route.total
          drafted.route.entries).outcome world).1] := by
  rw [fileDraft, FinalRoute.file, outcome_bind, outcome_adapt]
  unfold Services.traced
  rw [outcome_note]
  cases ((services.registry.insertRun request.header drafted.route.total
    drafted.route.entries).outcome world).1 <;> rfl

theorem logOf_createRunWith_of_error
    (polished : ∀ depot trip, InStep (fun p world => p.2 = world) (polisher depot trip)
      (polisher' depot trip)) {world world' : σ} {e : PlanError}
    (run : (draft services options request polisher').outcome world = (.error e, world')) :
    logOf (createRunWith services.traced options request polisher) world =
      logOf (draft services.traced options request polisher) world := by
  have traced := outcome_of_traced (draft_traced_inStep services options request polished) world
  rw [run] at traced
  rw [logOf, createRunWith, outcome_bind_of_error traced]

theorem logOf_createRunWith_of_ok
    (polished : ∀ depot trip, InStep (fun p world => p.2 = world) (polisher depot trip)
      (polisher' depot trip)) {world world' : σ} {drafted : PolishedRoute}
    (run : (draft services options request polisher').outcome world = (.ok drafted, world')) :
    logOf (createRunWith services.traced options request polisher) world =
      logOf (draft services.traced options request polisher) world ++
        [.insertRun request.header drafted.route.total drafted.route.entries
          ((services.registry.insertRun request.header drafted.route.total
            drafted.route.entries).outcome world').1] := by
  have traced := outcome_of_traced (draft_traced_inStep services options request polished) world
  rw [run] at traced
  rw [logOf, createRunWith, outcome_bind_of_ok traced, outcome_fileDraft_traced]

theorem filings_createRunWith_of_ok
    (polished : ∀ depot trip, InStep (fun p world => p.2 = world) (polisher depot trip)
      (polisher' depot trip))
    (quiet : ∀ depot trip, Keeps (fun p => filings p.1 = []) (polisher depot trip))
    {world world' : σ} {drafted : PolishedRoute}
    (run : (draft services options request polisher').outcome world = (.ok drafted, world')) :
    filings (logOf (createRunWith services.traced options request polisher) world) =
      [(request.header, drafted.route.total, drafted.route.entries)] := by
  rw [logOf_createRunWith_of_ok services options request polished run, filings_append,
    filings_draft services options request quiet]
  rfl

end Polisher

section Cached

variable (services : Services σ) (options : PlannerOptions) (request : RouteRequest)

def trace (world : σ) : List Consultation :=
  logOf (createRun services.traced options request) world

theorem cachedPolish_traced_inStep (depot : Coordinate) (trip : List Waypoint) :
    InStep (fun p world => p.2 = world) (cachedPolish services.traced options depot trip)
      (cachedPolish services options depot trip) :=
  cachedPolish_inStep services.traced_inStep options depot trip

theorem cachedPolish_traced_keeps {I : List Consultation → Prop}
    (h : ∀ log c, c.filing? = none → I log → I (log ++ [c])) (depot : Coordinate)
    (trip : List Waypoint) :
    Keeps (fun p => I p.1) (cachedPolish services.traced options depot trip) :=
  keeps_iff_inStep.mpr (cachedPolish_inStep (services.traced_keeps h) options depot trip)

def draftTrace (world : σ) : List Consultation :=
  logOf (draft services.traced options request (cachedPolish services.traced options)) world

theorem filings_draftTrace (world : σ) :
    filings (draftTrace services options request world) = [] :=
  filings_draft services options request
    (cachedPolish_traced_keeps services options (I := fun log => filings log = [])
      fun _ _ => filings_append_quiet) world

theorem outcome_draft_traced (world : σ) :
    (draft services.traced options request (cachedPolish services.traced options)).outcome
        ([], world) =
      (((draft services options request (cachedPolish services options)).outcome world).1,
        (draftTrace services options request world,
          ((draft services options request (cachedPolish services options)).outcome world).2)) :=
  outcome_of_traced (draft_traced_inStep services options request
    (cachedPolish_traced_inStep services options)) world

variable {services options request}

/-- The stages of a traced draft. What was asked up to a stage is a front of what was asked up to
the next one. -/
theorem draftTrace_stages {world world' : σ} {drafted : PolishedRoute}
    (run : (draft services options request (cachedPolish services options)).outcome world =
      (.ok drafted, world')) :
    ∃ depot log₁ world₁ chosen log₂ world₂ trip left left',
      (resolveDepot services.traced.registry request.header.base).outcome ([], world) =
        (.ok depot, (log₁, world₁)) ∧
      (chooseStops services.traced options.selection request).outcome (log₁, world₁) =
        (.ok chosen, (log₂, world₂)) ∧
      (Tour.planDepotTrip services.traced.oracle depot (chosen.map Waypoint.ofStop)).outcome
        (log₂, world₂) = (.ok trip, left) ∧
      (cachedPolish services.traced options depot trip.stops).outcome left' =
        (.ok drafted, (draftTrace services options request world, world')) ∧
      log₁ <+: log₂ ∧ log₂ <+: draftTrace services options request world := by
  have traced := outcome_draft_traced services options request world
  rw [run] at traced
  obtain ⟨depot, ⟨log₁, world₁⟩, chosen, ⟨log₂, world₂⟩, trip, left, left', hdepot, hchosen, htrip,
    hannounced, hpolished⟩ := draft_eq_ok traced
  have grows : ∀ front : List Consultation, Services.InStep (fun p q => p = q ∧ front <+: p.1)
      services.traced services.traced :=
    fun front => services.traced_keeps (I := fun log => front <+: log)
      fun log c _ before => before.trans (List.prefix_append log [c])
  refine ⟨depot, log₁, world₁, chosen, log₂, world₂, trip, left, left', hdepot, hchosen, htrip,
    hpolished, ?_, ?_⟩
  · exact (keeps_iff_inStep.mpr (chooseStops_inStep (grows log₁) _ request)).left
      (List.prefix_refl log₁) hchosen
  · have h₃ := (keeps_iff_inStep.mpr (Tour.planDepotTrip_inStep (grows log₂).planTrip _ _)).left
      (List.prefix_refl log₂) htrip
    have h₄ := (keeps_iff_inStep.mpr ((grows log₂).announce _ _)).left h₃ hannounced
    have h₅ := (keeps_iff_inStep.mpr (cachedPolish_inStep (grows log₂) options depot _)).left h₄
      hpolished
    exact h₅

theorem trace_of_error {world world' : σ} {e : PlanError}
    (run : (draft services options request (cachedPolish services options)).outcome world =
      (.error e, world')) :
    trace services options request world = draftTrace services options request world := by
  rw [trace, createRun_eq]
  exact logOf_createRunWith_of_error services options request
    (cachedPolish_traced_inStep services options) run

theorem trace_of_ok {world world' : σ} {drafted : PolishedRoute}
    (run : (draft services options request (cachedPolish services options)).outcome world =
      (.ok drafted, world')) :
    trace services options request world =
      draftTrace services options request world ++
        [.insertRun request.header drafted.route.total drafted.route.entries
          ((services.registry.insertRun request.header drafted.route.total
            drafted.route.entries).outcome world').1] := by
  rw [trace, createRun_eq]
  exact logOf_createRunWith_of_ok services options request
    (cachedPolish_traced_inStep services options) run

theorem filings_trace_of_ok {world world' : σ} {drafted : PolishedRoute}
    (run : (draft services options request (cachedPolish services options)).outcome world =
      (.ok drafted, world')) :
    filings (trace services options request world) =
      [(request.header, drafted.route.total, drafted.route.entries)] := by
  rw [trace_of_ok run, filings_append, filings_draftTrace]
  rfl

end Cached

end RoutePlanner

end ServiceRoute
