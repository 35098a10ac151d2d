import ServiceRoute.Proofs.FinalRoute.Visitable
import ServiceRoute.Proofs.RoutePlanner.Trace

/-!
# The legs of a drafted route

Behind every drafted route stand the questions it rests on: the base was found
active, and every leg of the final order was asked of the oracle, which answered
with the cost in the entry. That holds although most of these costs come from the
cache, filled while the order was still changing.
-/

namespace ServiceRoute.RoutePlanner

open Planning Consultation

variable {σ : Type}

/-- Marks that the lookups leave and nothing removes are there for every leg of the final order. -/
theorem polish_costed (schedule : Schedule) (place : Waypoint → Prop) (I : σ → Prop)
    (Q : Waypoint → Waypoint → Cost → σ → Prop) {cost : Waypoint → Waypoint → Planning σ Cost}
    {announce : Stage → List Waypoint → Planning σ Unit} (options : PlannerOptions)
    {depot : Coordinate} {trip : List Waypoint}
    (marks : ∀ ⦃a b world c world'⦄, place a → place b → I world →
      (cost a b).outcome world = (.ok c, world') → I world' ∧ Q a b c world')
    (keeps : ∀ a b, place a → place b → Keeps I (cost a b))
    (lasts : ∀ a b, place a → place b → ∀ x y c, Keeps (Q x y c) (cost a b))
    (announced : ∀ stage stops, Keeps I (announce stage stops))
    (start : place (.depot depot)) (inside : ∀ w ∈ trip, place w) {world world' : σ}
    {polished : PolishedRoute} (hI : I world)
    (run : (polish schedule cost announce options depot trip).outcome world =
      (.ok polished, world')) :
    List.Forall₂ (fun leg e => Q leg.1 leg.2 e.cost world') (legs (.depot depot) polished.stops)
      polished.route.entries := by
  unfold polish at run
  obtain ⟨relocated, world₁, hrelocated, run₁⟩ := outcome_bind_eq_ok run
  obtain ⟨_, world₂, hannounced, run₂⟩ := outcome_bind_eq_ok run₁
  obtain ⟨_, world₃, hannounced', run₃⟩ := outcome_bind_eq_ok run₂
  obtain ⟨route, world₄, hroute, hpolished⟩ := outcome_bind_eq_ok run₃
  cases hpolished
  have durations : ∀ a b, place a → place b →
      InStep (fun p q => p = q ∧ I p) (Cost.duration <$> cost a b) (Cost.duration <$> cost a b) :=
    fun a b ha hb => (keeps_iff_inStep.mp (keeps a b ha hb)).map _
  have relocate_keeps := keeps_iff_inStep.mpr (Relocation.relocateUnder_inStep durations schedule
    ⟨options.relocation.lookahead, options.relocation.minImprovement⟩
    options.relocation.maxMoves options.relocation.maxStops inside)
  have hI₁ : I world₁ := relocate_keeps.left hI hrelocated
  have hI₂ : I world₂ := (announced _ _).left hI₁ hannounced
  have hI₃ : I world₃ := (announced _ _).left hI₂ hannounced'
  have refined_inside : ∀ w ∈ Corridor.refine options.corridor relocated.stops, place w := by
    intro w hw
    have hperm := (Corridor.refine_perm options.corridor relocated.stops).trans
      (Relocation.relocateUnder_ensures_perm _ _ _ _ _ trip hrelocated)
    exact inside w (hperm.mem_iff.mp hw)
  exact FinalRoute.compute_costed marks lasts start refined_inside hI₃ hroute

theorem cachedPolish_asked (services : Services σ) (options : PlannerOptions) (depot : Coordinate)
    {trip : List Waypoint} {log log' : List Consultation} {world world' : σ}
    {polished : PolishedRoute}
    (run : (cachedPolish services.traced options depot trip).outcome (log, world) =
      (.ok polished, (log', world'))) :
    List.Forall₂ (fun leg e => .legCost leg.1 leg.2 .curb (.ok e.cost) ∈ log')
      (legs (.depot depot) polished.stops) polished.route.entries := by
  obtain ⟨hperm, hcovers⟩ := cachedPolish_ensures services.traced options depot trip run
  have apart := (hcovers.visitable.perm hperm).apart depot
  let place : Waypoint → Prop := fun w => w = .depot depot ∨ w ∈ trip
  let ask := fun a b => services.traced.oracle.legCost a b .curb
  let V : List Consultation × σ → Waypoint → Waypoint → Except PlanError Cost → Prop :=
    fun p a b given => .legCost a b .curb given ∈ p.1
  have asked : ∀ a b p, V ((ask a b).outcome p).2 a b ((ask a b).outcome p).1 :=
    fun a b p => List.mem_append_right _ (List.mem_singleton.mpr rfl)
  have lasts : ∀ a b x y given, Keeps (fun p => V p x y given) (ask a b) :=
    fun a b x y given => note_keeps (fun log _ => List.mem_append_left _) _
  let I : LegCache × (List Consultation × σ) → Prop := fun p => p.1.Vouched place (V p.2)
  have keeps : ∀ a b, place a → place b → Keeps I (LegCache.cost ask a b) :=
    fun a b ha hb _ hI => (LegCache.cost_vouched apart asked lasts ha hb hI rfl).1
  let announce : Stage → List Waypoint → Planning (LegCache × (List Consultation × σ)) Unit :=
    fun stage stops => (services.traced.announce stage stops).inner
  have announced : ∀ stage stops, Keeps I (announce stage stops) := fun _ _ _ hI => hI
  rw [cachedPolish, LegCache.outcome_withFresh] at run
  generalize hpolish : (polish services.traced.schedule (LegCache.cost ask) announce options depot
    trip).outcome (LegCache.empty, (log, world)) = left at run
  obtain ⟨answer, cache', world''⟩ := left
  cases run
  exact polish_costed _ place I (fun a b c p => V p.2 a b (.ok c)) options
    (fun a b _ c _ ha hb hI hcost => LegCache.cost_vouched apart asked lasts ha hb hI hcost)
    keeps (fun a b _ _ x y c => LegCache.cost_keeps (lasts a b x y (.ok c)))
    announced (.inl rfl) (fun w hw => .inr hw) (LegCache.vouched_empty _ _) hpolish

theorem resolveDepot_asked {services : Services σ} {base : String} {log log' : List Consultation}
    {world world' : σ} {depot : Coordinate}
    (run : (resolveDepot services.traced.registry base).outcome (log, world) =
      (.ok depot, (log', world'))) :
    .activeBase base (.ok (some depot)) ∈ log' := by
  unfold resolveDepot at run
  obtain ⟨found, left, hfound, hdepot⟩ := outcome_bind_eq_ok run
  cases found with
  | none => cases hdepot
  | some depot' =>
    cases hdepot
    have noted : log' = log ++ [.activeBase base (.ok (some depot))] := note_eq_ok hfound
    rw [noted]
    exact List.mem_append_right _ (List.mem_singleton.mpr rfl)

/-- A draft rests on an active base, and on answers of the oracle for every leg of its order. -/
theorem draft_asked {services : Services σ} {options : PlannerOptions} {request : RouteRequest}
    {world world' : σ} {drafted : PolishedRoute}
    (run : (draft services options request (cachedPolish services options)).outcome world =
      (.ok drafted, world')) :
    ∃ depot, .activeBase request.header.base (.ok (some depot)) ∈
        draftTrace services options request world ∧
      List.Forall₂
        (fun leg e => .legCost leg.1 leg.2 .curb (.ok e.cost) ∈
          draftTrace services options request world)
        (legs (.depot depot) drafted.stops) drafted.route.entries := by
  obtain ⟨depot, log₁, _, chosen, log₂, _, trip, _, ⟨log₄, world₄⟩, hdepot, _, _, hpolished, front,
    front'⟩ := draftTrace_stages run
  exact ⟨depot, (front.trans front').subset (resolveDepot_asked hdepot),
    cachedPolish_asked services options depot hpolished⟩

end ServiceRoute.RoutePlanner
