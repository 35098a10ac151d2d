import ServiceRoute.Planning

/-! # Final routes

The last walk over a route costs every leg in the final order, from the depot to
the first stop and on from stop to stop. The costs it adds up are the totals a
run is filed with. Every waypoint has to be a catalog stop, and none may occur
twice.
-/

namespace ServiceRoute

/-- A route ready to be filed. -/
structure FinalRoute where
  entries : List RouteEntry
  total : Cost
deriving DecidableEq, Inhabited

namespace FinalRoute

variable {σ : Type}

/-- The stop id of a waypoint that may come next, at `position` behind the `seen` stops. -/
def accept (seen : List StopId) (position : Nat) (w : Waypoint) : Except PlanError StopId :=
  match w.stopId? with
  | none => .error (.invalidRequest (.notAStop w.display position))
  | some id =>
    if id ∈ seen then .error (.invalidRequest (.repeatedStop id))
    else if position < 0x100000000 then .ok id
    else .error (.invalidRequest .tooManyStops)

/-- Costs the legs from `previous` on and appends their entries. -/
def extend (cost : Waypoint → Waypoint → Planning σ Cost) (route : FinalRoute)
    (previous : Waypoint) : List Waypoint → Planning σ FinalRoute
  | [] => pure route
  | w :: rest => do
    let position := route.entries.length
    let id ← liftM (accept (route.entries.map (·.stop)) position w)
    let leg ← cost previous w
    extend cost ⟨route.entries ++ [⟨id, position, leg⟩], route.total + leg⟩ w rest

/-- The final route over these stops from the depot. -/
def compute (cost : Waypoint → Waypoint → Planning σ Cost) (depot : Coordinate)
    (stops : List Waypoint) : Planning σ FinalRoute :=
  extend cost ⟨[], .zero⟩ (.depot depot) stops

/-- A failure to file, whatever its kind, is a persistence failure. -/
def asPersistenceFailure : PlanError → PlanError
  | .persistenceFailed fault => .persistenceFailed fault
  | other => .persistenceFailed (.reported other.message)

def file (registry : RunRegistry σ) (header : RunHeader) (route : FinalRoute) :
    Planning σ Int :=
  ExceptT.adapt asPersistenceFailure (registry.insertRun header route.total route.entries)

end FinalRoute

end ServiceRoute
