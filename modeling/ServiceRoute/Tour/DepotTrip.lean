import ServiceRoute.Planning

/-! # Trips from the depot

The first visiting order: the oracle is asked for an open trip that starts at the
depot and visits every candidate. Oracles drop street names and bearings, so they
are restored from the candidates.
-/

namespace ServiceRoute.Tour

variable {σ : Type}

/-- A trip without its depot. The totals and legs are the oracle's, before any
reordering. -/
structure DepotTrip where
  stops : List Waypoint
  total : Cost
  legs : List Leg
deriving DecidableEq, Inhabited

/-- The candidate with the stop id, the last one if several have it. -/
def candidateFor (candidates : List Waypoint) (id : StopId) : Option Waypoint :=
  candidates.reverse.find? (·.stopId? = some id)

/-- Gives a waypoint the street and bearing of the candidate with its id. -/
def restoreStreet (candidates : List Waypoint) (w : Waypoint) : Waypoint :=
  match w.stopId?.bind (candidateFor candidates) with
  | some c => { w with street := c.street, bearing := c.bearing }
  | none => w

/-- What the oracle is asked for: the depot first, then the candidates. -/
def tripRequest (depot : Coordinate) (candidates : List Waypoint) : List Waypoint :=
  Waypoint.depot depot :: candidates.filter (!·.isDepot)

/-- Accepts a plan that visits at least two stops, as many as were asked for. -/
def DepotTrip.ofPlan (candidates : List Waypoint) (requested : Nat) (plan : TripPlan) :
    Except PlanError DepotTrip :=
  let stops := (plan.ordered.filter (!·.isDepot)).map (restoreStreet candidates)
  if stops.length < 2 then .error (.planningFailed (.shortTrip stops.length))
  else if stops.length ≠ requested then
    .error (.planningFailed (.incompleteTrip stops.length requested))
  else .ok ⟨stops, plan.total, plan.legs⟩

/-- Asks the oracle for the trip and takes the depot out of it. -/
def planDepotTrip (oracle : CostOracle σ) (depot : Coordinate) (candidates : List Waypoint) :
    Planning σ DepotTrip := do
  let request := tripRequest depot candidates
  let plan ← oracle.planTrip request .first
  liftM (DepotTrip.ofPlan candidates (request.length - 1) plan)

end ServiceRoute.Tour
