import Mathlib.Data.List.Nodup
import ServiceRoute.FinalRoute
import ServiceRoute.Proofs.Planning.InStep

/-!
# The entries of a final route

A final route that comes back covers its stops: one entry for each, in order,
numbered from zero, none twice, with a total that is the sum of the entries. The
cost of an entry is the answer to the leg that arrives at its stop.
-/

namespace ServiceRoute

/-- The legs of a walk that begins at `previous`. -/
def legs (previous : Waypoint) (stops : List Waypoint) : List (Waypoint × Waypoint) :=
  (previous :: stops).zip stops

@[simp] theorem legs_nil (previous : Waypoint) : legs previous [] = [] := rfl

@[simp] theorem legs_cons (previous w : Waypoint) (rest : List Waypoint) :
    legs previous (w :: rest) = (previous, w) :: legs w rest := rfl

theorem length_legs (previous : Waypoint) (stops : List Waypoint) :
    (legs previous stops).length = stops.length := by
  simp [legs]

theorem legs_append (previous : Waypoint) (front back : List Waypoint) :
    legs previous (front ++ back) = legs previous front ++ legs (front.getLastD previous) back := by
  induction front generalizing previous with
  | nil => rfl
  | cons w front ih =>
    rw [List.cons_append, legs_cons, legs_cons, ih, List.getLastD_cons]
    rfl

theorem Waypoint.stopId?_eq_some_iff {w : Waypoint} {id : StopId} :
    w.stopId? = some id ↔ w.kind = .stop id := by
  unfold stopId?
  cases w.kind <;> simp

theorem map_kind_entries (entries : List RouteEntry) :
    entries.map (fun e => WaypointKind.stop e.stop) = (entries.map (·.stop)).map .stop := by
  simp

namespace FinalRoute

open Planning

variable {σ τ : Type}

/-- The route has one numbered entry for each stop, and its total is their sum. -/
structure Covers (route : FinalRoute) (stops : List Waypoint) : Prop where
  kinds : stops.map (·.kind) = route.entries.map fun e => .stop e.stop
  numbered : route.entries.map (·.sequence) = List.range route.entries.length
  distinct : (route.entries.map (·.stop)).Nodup
  total : route.total = Cost.sum (route.entries.map (·.cost))

theorem covers_nil : Covers ⟨[], .zero⟩ [] :=
  ⟨rfl, rfl, List.nodup_nil, rfl⟩

theorem Covers.length_eq {route : FinalRoute} {stops : List Waypoint} (h : route.Covers stops) :
    route.entries.length = stops.length := by
  simpa using (congrArg List.length h.kinds).symm

theorem accept_eq_ok {seen : List StopId} {position : Nat} {w : Waypoint} {id : StopId}
    (h : accept seen position w = .ok id) : w.kind = .stop id ∧ id ∉ seen := by
  unfold accept at h
  cases hid : w.stopId? with
  | none => simp [hid] at h
  | some found =>
    simp only [hid] at h
    split_ifs at h with hseen hposition
    obtain rfl := Except.ok.inj h
    exact ⟨Waypoint.stopId?_eq_some_iff.mp hid, hseen⟩

theorem sum_append (costs : List Cost) (leg : Cost) :
    Cost.sum (costs ++ [leg]) = Cost.sum costs + leg := by
  simp [Cost.sum]

theorem Covers.append {route : FinalRoute} {stops : List Waypoint} {w : Waypoint} {id : StopId}
    (h : route.Covers stops) (leg : Cost)
    (accepted : accept (route.entries.map (·.stop)) route.entries.length w = .ok id) :
    Covers ⟨route.entries ++ [⟨id, route.entries.length, leg⟩], route.total + leg⟩
      (stops ++ [w]) := by
  obtain ⟨hkind, hnew⟩ := accept_eq_ok accepted
  refine ⟨?_, ?_, ?_, ?_⟩
  · simp [h.kinds, hkind]
  · simp [h.numbered, List.range_succ]
  · rw [List.map_append, List.nodup_append]
    refine ⟨h.distinct, List.nodup_singleton _, ?_⟩
    rintro a ha b hb rfl
    obtain rfl : a = id := by simpa using hb
    exact hnew ha
  · simp [h.total, sum_append]

theorem extend_ensures_covers (cost : Waypoint → Waypoint → Planning σ Cost) {route : FinalRoute}
    {previous : Waypoint} {done : List Waypoint} (stops : List Waypoint)
    (h : route.Covers done) :
    Ensures (fun r => r.Covers (done ++ stops)) (extend cost route previous stops) := by
  induction stops generalizing route previous done with
  | nil => exact ensures_pure (by simpa using h)
  | cons w rest ih =>
    unfold extend
    intro world r world' run
    obtain ⟨id, world₁, hid, costed⟩ := outcome_bind_eq_ok run
    obtain ⟨leg, world₂, hleg, walked⟩ := outcome_bind_eq_ok costed
    rw [outcome_liftM] at hid
    have covered := ih (h.append leg (congrArg Prod.fst hid)) walked
    simpa using covered

/-- A final route covers its stops, so these are catalog stops and none occurs twice. -/
theorem compute_ensures_covers (cost : Waypoint → Waypoint → Planning σ Cost)
    (depot : Coordinate) (stops : List Waypoint) :
    Ensures (fun r => r.Covers stops) (compute cost depot stops) :=
  extend_ensures_covers cost stops covers_nil

section Costs

variable {place : Waypoint → Prop}

theorem extend_inStep {R : σ → τ → Prop} {cost : Waypoint → Waypoint → Planning σ Cost}
    {cost' : Waypoint → Waypoint → Planning τ Cost}
    (step : ∀ a b, place a → place b → InStep R (cost a b) (cost' a b))
    (route : FinalRoute) {previous : Waypoint} {stops : List Waypoint} (start : place previous)
    (inside : ∀ w ∈ stops, place w) :
    InStep R (extend cost route previous stops) (extend cost' route previous stops) := by
  induction stops generalizing route previous with
  | nil => exact inStep_pure route
  | cons w rest ih =>
    have hw : place w := inside w (by simp)
    unfold extend
    refine (inStep_liftM _).bind fun id => ?_
    refine (step previous w start hw).bind fun leg => ?_
    exact ih _ hw fun a ha => inside a (by simp [ha])

theorem compute_inStep {R : σ → τ → Prop} {cost : Waypoint → Waypoint → Planning σ Cost}
    {cost' : Waypoint → Waypoint → Planning τ Cost}
    (step : ∀ a b, place a → place b → InStep R (cost a b) (cost' a b))
    {depot : Coordinate} {stops : List Waypoint} (start : place (.depot depot))
    (inside : ∀ w ∈ stops, place w) :
    InStep R (compute cost depot stops) (compute cost' depot stops) :=
  extend_inStep step _ start inside

/-- If a costed leg leaves a mark `Q` that no later lookup removes, then after the walk
every leg is marked with the cost of its entry. -/
theorem extend_costed {I : σ → Prop} {Q : Waypoint → Waypoint → Cost → σ → Prop}
    {cost : Waypoint → Waypoint → Planning σ Cost}
    (marks : ∀ ⦃a b world c world'⦄, place a → place b → I world →
      (cost a b).outcome world = (.ok c, world') → I world' ∧ Q a b c world')
    (lasts : ∀ a b, place a → place b → ∀ x y c, Keeps (Q x y c) (cost a b))
    {route r : FinalRoute} {previous : Waypoint} {stops : List Waypoint} {world world' : σ}
    (start : place previous) (inside : ∀ w ∈ stops, place w) (hI : I world)
    (run : (extend cost route previous stops).outcome world = (.ok r, world')) :
    ∃ added, r.entries = route.entries ++ added ∧
      List.Forall₂ (fun leg e => Q leg.1 leg.2 e.cost world') (legs previous stops) added := by
  induction stops generalizing route previous world with
  | nil =>
    cases run
    exact ⟨[], by simp, .nil⟩
  | cons w rest ih =>
    have hw : place w := inside w (by simp)
    have hrest : ∀ a ∈ rest, place a := fun a ha => inside a (by simp [ha])
    unfold extend at run
    obtain ⟨id, world₁, hid, costed⟩ := outcome_bind_eq_ok run
    obtain ⟨leg, world₂, hleg, walked⟩ := outcome_bind_eq_ok costed
    rw [outcome_liftM] at hid
    obtain rfl : world = world₁ := congrArg Prod.snd hid
    obtain ⟨hI₂, hmark⟩ := marks start hw hI hleg
    obtain ⟨added, hadded, hcosts⟩ := ih hw hrest hI₂ walked
    have walk_keeps : Keeps (Q previous w leg)
        (extend cost ⟨route.entries ++ [⟨id, route.entries.length, leg⟩], route.total + leg⟩
          w rest) := by
      rw [keeps_iff_inStep]
      refine extend_inStep (fun a b ha hb => ?_) _ hw hrest
      exact keeps_iff_inStep.mp (lasts a b ha hb previous w leg)
    have hmark' := walk_keeps hmark
    rw [walked] at hmark'
    exact ⟨⟨id, route.entries.length, leg⟩ :: added, by simp [hadded], .cons hmark' hcosts⟩

theorem compute_costed {I : σ → Prop} {Q : Waypoint → Waypoint → Cost → σ → Prop}
    {cost : Waypoint → Waypoint → Planning σ Cost}
    (marks : ∀ ⦃a b world c world'⦄, place a → place b → I world →
      (cost a b).outcome world = (.ok c, world') → I world' ∧ Q a b c world')
    (lasts : ∀ a b, place a → place b → ∀ x y c, Keeps (Q x y c) (cost a b))
    {depot : Coordinate} {stops : List Waypoint} {world world' : σ} {r : FinalRoute}
    (start : place (.depot depot)) (inside : ∀ w ∈ stops, place w) (hI : I world)
    (run : (compute cost depot stops).outcome world = (.ok r, world')) :
    List.Forall₂ (fun leg e => Q leg.1 leg.2 e.cost world') (legs (.depot depot) stops)
      r.entries := by
  obtain ⟨added, hadded, hcosts⟩ := extend_costed marks lasts start inside hI run
  rwa [hadded, List.nil_append]

end Costs

end FinalRoute

end ServiceRoute
