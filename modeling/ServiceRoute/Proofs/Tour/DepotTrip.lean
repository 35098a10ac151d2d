import ServiceRoute.Proofs.Planning.InStep
import ServiceRoute.Tour.DepotTrip

/-!
# What a depot trip visits

A trip that is accepted visits as many stops as it was asked to. Restoring
streets changes no kind and no place of a waypoint, so when the oracle answers
with kinds it was asked for, the trip visits requested stops only.
-/

namespace ServiceRoute

/-- Every waypoint of a trip has the kind of some requested waypoint. -/
def CostOracle.KeepsKinds {σ : Type} (oracle : CostOracle σ) : Prop :=
  ∀ request source, Planning.Ensures
    (fun plan => ∀ w ∈ plan.ordered, w.kind ∈ request.map (·.kind))
    (oracle.planTrip request source)

namespace Tour

open Planning

variable {σ τ : Type}

theorem kind_restoreStreet (candidates : List Waypoint) (w : Waypoint) :
    (restoreStreet candidates w).kind = w.kind := by
  unfold restoreStreet
  split <;> rfl

theorem DepotTrip.ofPlan_eq_ok {candidates : List Waypoint} {requested : Nat} {plan : TripPlan}
    {trip : DepotTrip} (h : ofPlan candidates requested plan = .ok trip) :
    trip.stops = (plan.ordered.filter (!·.isDepot)).map (restoreStreet candidates) ∧
      trip.stops.length = requested := by
  unfold ofPlan at h
  dsimp only at h
  split at h
  · cases h
  · split at h
    · cases h
    · rename_i hcount
      obtain rfl := Except.ok.inj h
      exact ⟨rfl, Decidable.not_not.mp hcount⟩

theorem tripRequest_ofStop (depot : Coordinate) (stops : List Stop) :
    tripRequest depot (stops.map Waypoint.ofStop) =
      .depot depot :: stops.map Waypoint.ofStop := by
  have kept : (stops.map Waypoint.ofStop).filter (!·.isDepot) = stops.map Waypoint.ofStop := by
    rw [List.filter_eq_self]
    intro w hw
    obtain ⟨s, _, rfl⟩ := List.mem_map.mp hw
    rfl
  rw [tripRequest, kept]

theorem kind_of_requested {depot : Coordinate} {stops : List Stop} {w : Waypoint}
    (requested : w.kind ∈ (tripRequest depot (stops.map Waypoint.ofStop)).map (·.kind))
    (elsewhere : (!w.isDepot) = true) : ∃ s ∈ stops, w.kind = .stop s.id := by
  rw [tripRequest_ofStop, List.map_cons, List.mem_cons] at requested
  rcases requested with same | requested
  · simp [Waypoint.isDepot, same, Waypoint.depot] at elsewhere
  · obtain ⟨_, hmem, same⟩ := List.mem_map.mp requested
    obtain ⟨s, hs, rfl⟩ := List.mem_map.mp hmem
    exact ⟨s, hs, same.symm⟩

theorem planDepotTrip_inStep {R : σ → τ → Prop} {oracle : CostOracle σ} {oracle' : CostOracle τ}
    (h : ∀ request source, InStep R (oracle.planTrip request source)
      (oracle'.planTrip request source)) (depot : Coordinate) (candidates : List Waypoint) :
    InStep R (planDepotTrip oracle depot candidates) (planDepotTrip oracle' depot candidates) := by
  unfold planDepotTrip
  exact (h _ .first).bind fun plan => inStep_liftM _

/-- A trip over catalog stops has one visit for each of them, each to one of them. -/
theorem planDepotTrip_ensures {oracle : CostOracle σ} (kinds : oracle.KeepsKinds)
    (depot : Coordinate) (stops : List Stop) :
    Ensures
      (fun trip => trip.stops.length = stops.length ∧
        ∀ w ∈ trip.stops, ∃ s ∈ stops, w.kind = .stop s.id)
      (planDepotTrip oracle depot (stops.map Waypoint.ofStop)) := by
  unfold planDepotTrip
  refine (kinds _ .first).bind fun plan hplan => ?_
  intro world trip world' run
  rw [outcome_liftM] at run
  obtain ⟨hstops, hcount⟩ := DepotTrip.ofPlan_eq_ok (congrArg Prod.fst run)
  refine ⟨?_, fun w hw => ?_⟩
  · rw [hcount, tripRequest_ofStop]
    simp
  · rw [hstops] at hw
    obtain ⟨visited, hvisited, rfl⟩ := List.mem_map.mp hw
    obtain ⟨hordered, hdepot⟩ := List.mem_filter.mp hvisited
    rw [kind_restoreStreet]
    exact kind_of_requested (hplan visited hordered) hdepot

end Tour

end ServiceRoute
