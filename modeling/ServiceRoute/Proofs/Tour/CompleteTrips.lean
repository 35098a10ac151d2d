import Mathlib.Data.List.Perm.Subperm
import ServiceRoute.Proofs.FinalRoute.Visitable
import ServiceRoute.Proofs.Tour.DepotTrip

/-!
# Complete trips

A trip is complete if it visits every candidate once and nothing else. A trip is accepted as soon as
it has as many stops as there are candidates. So of the plans that leave out, repeat or invent a
stop the ones with another number of stops are refused, and the ones that make up for every stop
they leave out are not.
-/

namespace ServiceRoute.Tour

open Planning

variable {σ : Type} {candidates visited : List Waypoint}

/-- Every candidate is visited once, and nothing else is. -/
def Complete (candidates visited : List Waypoint) : Prop :=
  (visited.map (·.kind)).Perm (candidates.map (·.kind))

def LeavesOut (candidates visited : List Waypoint) : Prop :=
  ∃ c ∈ candidates, c.kind ∉ visited.map (·.kind)

def Repeats (visited : List Waypoint) : Prop :=
  ∃ id, 2 ≤ (visited.map (·.kind)).count (.stop id)

def Invents (candidates visited : List Waypoint) : Prop :=
  ∃ w ∈ visited, w.kind ∉ candidates.map (·.kind)

theorem Complete.not_leavesOut (h : Complete candidates visited) :
    ¬ LeavesOut candidates visited := by
  rintro ⟨c, hc, missing⟩
  exact missing (h.mem_iff.mpr (List.mem_map_of_mem hc))

theorem Complete.not_repeats (h : Complete candidates visited) (visitable : Visitable candidates) :
    ¬ Repeats visited := by
  rintro ⟨id, twice⟩
  have once := List.nodup_iff_count_le_one.mp (h.nodup_iff.mpr visitable.distinct) (.stop id)
  omega

theorem Complete.not_invents (h : Complete candidates visited) : ¬ Invents candidates visited := by
  rintro ⟨w, hw, foreign⟩
  exact foreign (h.mem_iff.mp (List.mem_map_of_mem hw))

/-- Of as many stops as there are candidates none is superfluous if no candidate is left out. -/
theorem complete_of_not_leavesOut (visitable : Visitable candidates)
    (count : visited.length = candidates.length) (h : ¬ LeavesOut candidates visited) :
    Complete candidates visited := by
  have inside : candidates.map (·.kind) ⊆ visited.map (·.kind) := by
    intro kind hkind
    obtain ⟨c, hc, rfl⟩ := List.mem_map.mp hkind
    by_contra missing
    exact h ⟨c, hc, missing⟩
  have among := List.subperm_of_subset visitable.distinct inside
  exact (among.perm_of_length_le (by simp [count])).symm

theorem complete_of_candidates (visitable : Visitable candidates)
    (count : visited.length = candidates.length) (once : ¬ Repeats visited)
    (listed : ¬ Invents candidates visited) : Complete candidates visited := by
  have inside : visited.map (·.kind) ⊆ candidates.map (·.kind) := by
    intro kind hkind
    obtain ⟨w, hw, rfl⟩ := List.mem_map.mp hkind
    by_contra foreign
    exact listed ⟨w, hw, foreign⟩
  have distinct : (visited.map (·.kind)).Nodup := by
    refine List.nodup_iff_count_le_one.mpr fun kind => ?_
    by_contra twice
    have visits : kind ∈ visited.map (·.kind) := List.count_pos_iff.mp (by omega)
    obtain ⟨c, hc, rfl⟩ := List.mem_map.mp (inside visits)
    obtain ⟨id, hid⟩ := visitable.catalogued c hc
    rw [hid] at twice
    exact once ⟨id, by omega⟩
  exact (List.subperm_of_subset distinct inside).perm_of_length_le (by simp [count])

theorem tripRequest_of_visitable (visitable : Visitable candidates) (depot : Coordinate) :
    tripRequest depot candidates = .depot depot :: candidates := by
  have kept : candidates.filter (!·.isDepot) = candidates := by
    refine List.filter_eq_self.mpr fun c hc => ?_
    obtain ⟨id, hid⟩ := visitable.catalogued c hc
    simp [Waypoint.isDepot, hid]
  rw [tripRequest, kept]

theorem map_kind_restoreStreet (candidates visited : List Waypoint) :
    (visited.map (restoreStreet candidates)).map (·.kind) = visited.map (·.kind) := by
  rw [List.map_map]
  exact List.map_congr_left fun w _ => kind_restoreStreet candidates w

section Plans

variable {plan : TripPlan} {requested : Nat}

theorem ofPlan_of_short (short : (plan.ordered.filter (!·.isDepot)).length < 2) :
    DepotTrip.ofPlan candidates requested plan =
      .error (.planningFailed (.shortTrip (plan.ordered.filter (!·.isDepot)).length)) := by
  rw [DepotTrip.ofPlan, List.length_map, if_pos short]

theorem ofPlan_of_ne (enough : 2 ≤ (plan.ordered.filter (!·.isDepot)).length)
    (other : (plan.ordered.filter (!·.isDepot)).length ≠ requested) :
    DepotTrip.ofPlan candidates requested plan = .error (.planningFailed
      (.incompleteTrip (plan.ordered.filter (!·.isDepot)).length requested)) := by
  rw [DepotTrip.ofPlan, List.length_map, if_neg (Nat.not_lt.mpr enough), if_pos other]

theorem ofPlan_of_eq (enough : 2 ≤ (plan.ordered.filter (!·.isDepot)).length)
    (count : (plan.ordered.filter (!·.isDepot)).length = requested) :
    DepotTrip.ofPlan candidates requested plan =
      .ok ⟨(plan.ordered.filter (!·.isDepot)).map (restoreStreet candidates), plan.total,
        plan.legs⟩ := by
  rw [DepotTrip.ofPlan, List.length_map, if_neg (Nat.not_lt.mpr enough),
    if_neg (not_not.mpr count)]

end Plans

/-- Planning a trip over distinct catalog stops fails as the oracle fails, and refuses a plan with
fewer than two stops or with another number of stops than there are candidates. Every other plan is
accepted with its stops in its order. It is complete exactly if it leaves out no candidate, and
exactly if it neither repeats nor invents a stop. -/
theorem planDepotTrip_counts_stops (oracle : CostOracle σ) (depot : Coordinate)
    (visitable : Visitable candidates) (world : σ) :
    let answer := (oracle.planTrip (.depot depot :: candidates) .first).outcome world
    let outcome := (planDepotTrip oracle depot candidates).outcome world
    (∀ e world', answer = (.error e, world') → outcome = (.error e, world')) ∧
    ∀ plan world', answer = (.ok plan, world') →
      let visited := plan.ordered.filter (!·.isDepot)
      (visited.length < 2 →
        outcome = (.error (.planningFailed (.shortTrip visited.length)), world')) ∧
      (2 ≤ visited.length → visited.length ≠ candidates.length →
        outcome = (.error (.planningFailed
          (.incompleteTrip visited.length candidates.length)), world')) ∧
      (2 ≤ visited.length → visited.length = candidates.length →
        ∃ trip, outcome = (.ok trip, world') ∧
          trip = ⟨visited.map (restoreStreet candidates), plan.total, plan.legs⟩ ∧
          trip.stops.map (·.kind) = visited.map (·.kind) ∧
          (Complete candidates trip.stops ↔ ¬ LeavesOut candidates trip.stops) ∧
          (Complete candidates trip.stops ↔
            ¬ Repeats trip.stops ∧ ¬ Invents candidates trip.stops)) := by
  have planned : planDepotTrip oracle depot candidates =
      oracle.planTrip (.depot depot :: candidates) .first >>= fun plan =>
        liftM (DepotTrip.ofPlan candidates candidates.length plan) := by
    rw [planDepotTrip, tripRequest_of_visitable visitable]
    rfl
  rw [planned]
  refine ⟨fun e world' failed => outcome_bind_of_error failed, fun plan world' run => ?_⟩
  dsimp only
  rw [outcome_bind_of_ok run, outcome_liftM]
  refine ⟨fun short => by rw [ofPlan_of_short short], fun enough other => by
    rw [ofPlan_of_ne enough other], fun enough count => ?_⟩
  rw [ofPlan_of_eq enough count]
  refine ⟨_, rfl, rfl, map_kind_restoreStreet _ _, ?_, ?_⟩
  · exact ⟨Complete.not_leavesOut,
      complete_of_not_leavesOut visitable ((List.length_map _).trans count)⟩
  · exact ⟨fun complete => ⟨complete.not_repeats visitable, complete.not_invents⟩, fun sound =>
      complete_of_candidates visitable ((List.length_map _).trans count) sound.1 sound.2⟩

/-! Two oracles: one answers with what it was asked for, backwards, the other one with the last stop
in the place of every stop. -/

namespace Untrusted

def backwards : CostOracle Unit where
  planTrip request _ := pure ⟨.zero, request.reverse, []⟩
  legCost _ _ _ := pure .zero

def stuck : CostOracle Unit where
  planTrip request _ :=
    pure ⟨.zero, request.map fun w => if w.isDepot then w else request.getLastD default, []⟩
  legCost _ _ _ := pure .zero

def depot : Coordinate :=
  ⟨0, 50⟩

def visit (id : StopId) (lon : Float) : Waypoint :=
  ⟨⟨lon, 50⟩, .stop id, none, none⟩

def stops : List Waypoint :=
  [visit "A" 3, visit "B" 4]

theorem visitable : Visitable stops where
  catalogued := by simp [stops, visit]
  distinct := by decide

theorem outcome_backwards :
    (backwards.planTrip (.depot depot :: stops) .first).outcome () =
      (.ok ⟨.zero, [visit "B" 4, visit "A" 3, .depot depot], []⟩, ()) := rfl

theorem outcome_stuck : (planDepotTrip stuck depot stops).outcome () =
    (.ok ⟨[visit "B" 4, visit "B" 4], .zero, []⟩, ()) := by
  decide

end Untrusted

theorem planDepotTrip_counts_stops_backwards : Visitable Untrusted.stops ∧
    ∃ trip, (planDepotTrip Untrusted.backwards Untrusted.depot Untrusted.stops).outcome () =
        (.ok trip, ()) ∧
      ¬ LeavesOut Untrusted.stops trip.stops ∧ Complete Untrusted.stops trip.stops := by
  obtain ⟨-, answered⟩ :=
    planDepotTrip_counts_stops Untrusted.backwards Untrusted.depot Untrusted.visitable ()
  obtain ⟨-, -, accepted⟩ := answered _ _ Untrusted.outcome_backwards
  obtain ⟨trip, planned, -, kinds, complete, -⟩ := accepted (by decide) (by decide)
  have kept : ¬ LeavesOut Untrusted.stops trip.stops := by
    rw [LeavesOut, kinds]
    decide
  exact ⟨Untrusted.visitable, trip, planned, kept, complete.mpr kept⟩

/-- A trip that visits one candidate twice and the other one not at all is accepted. -/
theorem planDepotTrip_accepts_repeats :
    (planDepotTrip Untrusted.stuck Untrusted.depot Untrusted.stops).outcome () =
        (.ok ⟨[Untrusted.visit "B" 4, Untrusted.visit "B" 4], .zero, []⟩, ()) ∧
      (Untrusted.stops.map (·.kind)).Nodup ∧
      ¬ Complete Untrusted.stops [Untrusted.visit "B" 4, Untrusted.visit "B" 4] := by
  refine ⟨Untrusted.outcome_stuck, by decide, fun complete => complete.not_leavesOut ?_⟩
  exact ⟨Untrusted.visit "A" 3, by decide, by decide⟩

end ServiceRoute.Tour
