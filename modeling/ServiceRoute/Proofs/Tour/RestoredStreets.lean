import ServiceRoute.Proofs.Tour.DepotTrip

/-!
# Restored streets

Whatever streets and bearings an oracle writes into its plan, a depot trip has those of the
candidates. A plan and the same plan without its streets make the same trip, so planning with
an oracle is planning with the oracle that answers without streets.
-/

namespace ServiceRoute

open Planning

variable {σ : Type}

/-- The waypoint is a visit to the stop, on the street and with the bearing of the stop. -/
structure Waypoint.VisitOf (s : Stop) (w : Waypoint) : Prop where
  kind : w.kind = .stop s.id
  street : w.street = s.street
  bearing : w.bearing = s.bearing

/-- The plan as an oracle would give it that drops streets and bearings. -/
def TripPlan.withoutStreets (plan : TripPlan) : TripPlan :=
  { plan with ordered := plan.ordered.map Waypoint.withoutStreet }

def CostOracle.withoutStreets (oracle : CostOracle σ) : CostOracle σ :=
  { oracle with
    planTrip := fun request source =>
      TripPlan.withoutStreets <$> oracle.planTrip request source }

namespace Tour

variable {stops : List Stop} {s : Stop} {w : Waypoint}

/-- Every stop has a candidate, which may be another stop with its id. -/
theorem candidateFor_ofStop (hs : s ∈ stops) :
    ∃ t ∈ stops, t.id = s.id ∧
      candidateFor (stops.map Waypoint.ofStop) s.id = some (.ofStop t) := by
  have found : (candidateFor (stops.map Waypoint.ofStop) s.id).isSome := by
    rw [candidateFor, List.find?_isSome]
    exact ⟨.ofStop s, by simpa using ⟨s, hs, rfl⟩, by simp [Waypoint.ofStop, Waypoint.stopId?]⟩
  obtain ⟨c, hc⟩ := Option.isSome_iff_exists.mp found
  obtain ⟨t, ht, rfl⟩ := List.mem_map.mp (List.mem_reverse.mp (List.mem_of_find?_eq_some hc))
  have same : (Waypoint.ofStop t).stopId? = some s.id := by
    simpa using List.find?_some hc
  exact ⟨t, ht, Option.some.inj same, hc⟩

theorem restoreStreet_of_candidate {candidates : List Waypoint} {id : StopId} {c : Waypoint}
    (hw : w.kind = .stop id) (hc : candidateFor candidates id = some c) :
    restoreStreet candidates w = { w with street := c.street, bearing := c.bearing } := by
  have named : w.stopId? = some id := by
    rw [Waypoint.stopId?, hw]
  rw [restoreStreet, named, Option.bind_some, hc]

theorem restoreStreet_visitOf (hs : s ∈ stops) (hw : w.kind = .stop s.id) :
    ∃ t ∈ stops, (restoreStreet (stops.map Waypoint.ofStop) w).VisitOf t := by
  obtain ⟨t, ht, same, hc⟩ := candidateFor_ofStop hs
  refine ⟨t, ht, ?_⟩
  rw [restoreStreet_of_candidate hw hc]
  exact ⟨by rw [same]; exact hw, rfl, rfl⟩

theorem restoreStreet_withoutStreet (hs : s ∈ stops) (hw : w.kind = .stop s.id) :
    restoreStreet (stops.map Waypoint.ofStop) w.withoutStreet =
      restoreStreet (stops.map Waypoint.ofStop) w := by
  obtain ⟨t, _, _, hc⟩ := candidateFor_ofStop hs
  rw [restoreStreet_of_candidate hw hc,
    restoreStreet_of_candidate (w := w.withoutStreet) hw hc]
  rfl

theorem ofPlan_withoutStreets {plan : TripPlan} (requested : Nat)
    (visits : ∀ w ∈ plan.ordered, (!w.isDepot) = true → ∃ s ∈ stops, w.kind = .stop s.id) :
    DepotTrip.ofPlan (stops.map Waypoint.ofStop) requested plan.withoutStreets =
      DepotTrip.ofPlan (stops.map Waypoint.ofStop) requested plan := by
  have restored : (plan.withoutStreets.ordered.filter (!·.isDepot)).map
      (restoreStreet (stops.map Waypoint.ofStop)) =
      (plan.ordered.filter (!·.isDepot)).map (restoreStreet (stops.map Waypoint.ofStop)) := by
    rw [TripPlan.withoutStreets, List.filter_map, List.map_map]
    refine List.map_congr_left fun w hw => ?_
    obtain ⟨hordered, elsewhere⟩ := List.mem_filter.mp hw
    obtain ⟨s, hs, hkind⟩ := visits w hordered elsewhere
    exact restoreStreet_withoutStreet hs hkind
  unfold DepotTrip.ofPlan
  rw [restored]
  rfl

/-- An oracle that answers with kinds it was asked for plans the same trips without its streets. -/
theorem planDepotTrip_withoutStreets {oracle : CostOracle σ} (kinds : oracle.KeepsKinds)
    (depot : Coordinate) (stops : List Stop) :
    planDepotTrip oracle.withoutStreets depot (stops.map Waypoint.ofStop) =
      planDepotTrip oracle depot (stops.map Waypoint.ofStop) := by
  unfold planDepotTrip CostOracle.withoutStreets
  rw [bind_map_left]
  refine (kinds _ .first).bind_congr fun plan hplan => ?_
  exact congrArg liftM (ofPlan_withoutStreets _ fun w hw => kind_of_requested (hplan w hw))

theorem planDepotTrip_ensures_visits {oracle : CostOracle σ} (kinds : oracle.KeepsKinds)
    (depot : Coordinate) (stops : List Stop) :
    Ensures (fun trip => ∀ w ∈ trip.stops, ∃ s ∈ stops, w.VisitOf s)
      (planDepotTrip oracle depot (stops.map Waypoint.ofStop)) := by
  unfold planDepotTrip
  refine (kinds _ .first).bind fun plan hplan => ?_
  intro world trip world' run w hw
  rw [outcome_liftM] at run
  rw [(DepotTrip.ofPlan_eq_ok (congrArg Prod.fst run)).1] at hw
  obtain ⟨visited, hvisited, rfl⟩ := List.mem_map.mp hw
  obtain ⟨hordered, elsewhere⟩ := List.mem_filter.mp hvisited
  obtain ⟨s, hs, hkind⟩ := kind_of_requested (hplan visited hordered) elsewhere
  exact restoreStreet_visitOf hs hkind

end Tour

end ServiceRoute
