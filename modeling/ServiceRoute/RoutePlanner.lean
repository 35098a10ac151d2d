import ServiceRoute.Corridor.Refinement
import ServiceRoute.FinalRoute
import ServiceRoute.LegCache
import ServiceRoute.Relocation
import ServiceRoute.Selection.Candidates
import ServiceRoute.Tour.DepotTrip

/-! # Planning a route run

A route run is planned in stages: find the depot, choose the stops, ask the
oracle for a trip, shorten it by relocations, refine its corridors, cost the
final order and file it. Nothing is filed unless every stage succeeds. The stages
follow one another; only relocation asks for legs side by side, as the schedule of
the call has it.
-/

namespace ServiceRoute

/-- What to plan: the best candidates of a pool, or exactly the listed stops. -/
structure RouteRequest where
  header : RunHeader
  stops : Option (List StopId)
deriving DecidableEq, Inhabited

structure PlannedRoute where
  runId : Int
  stops : List Waypoint
  total : Cost
  moves : Nat
deriving DecidableEq, Inhabited

namespace RoutePlanner

open Selection

variable {σ : Type}

/-- Takes the element at a position out; the last element moves into its place. -/
def swapRemove {α : Type} (xs : List α) (position : Nat) : List α :=
  match xs.getLast? with
  | some last => (xs.set position last).dropLast
  | none => []

/-- Matches the wanted ids with rows: the rows in the order of the ids, and the
ids that have none. Every row is used once. -/
def matchRows (rows : List Stop) : List StopId → List Stop × List StopId
  | [] => ([], [])
  | id :: ids =>
    match rows.findIdx? (·.id = id) with
    | some position =>
      let (found, unknown) := matchRows (swapRemove rows position) ids
      (rows[position]?.toList ++ found, unknown)
    | none =>
      let (found, unknown) := matchRows rows ids
      (found, id :: unknown)

/-- The rows of explicitly requested stops, in the order of first request. -/
def resolveStops (catalog : RiskCatalog σ) (pool : String) (ids : List StopId) :
    Planning σ (List Stop) := do
  let wanted := distinct ids
  let rows ← catalog.stopsById pool wanted
  let (found, unknown) := matchRows rows wanted
  if unknown ≠ [] then throw (.invalidRequest (.unknownStops pool unknown))
  else if found.length < 2 then throw (.insufficientCandidates found.length)
  else pure found

def resolveDepot (registry : RunRegistry σ) (base : String) : Planning σ Coordinate := do
  match ← registry.activeBase base with
  | some depot => pure depot
  | none => throw (.depotUnavailable base)

/-- The stops to visit: the requested ones, or the candidates of the pool. -/
def chooseStops (services : Services σ) (options : SelectionOptions) (request : RouteRequest) :
    Planning σ (List Stop) := do
  let pool := request.header.pool
  match request.stops with
  | some ids => resolveStops services.catalog pool ids
  | none =>
    let overrides ← services.overrides pool
    let chosen ← candidates services.catalog pool overrides options
    pure (chosen.map (·.stop))

structure PolishedRoute where
  stops : List Waypoint
  moves : Nat
  route : FinalRoute
deriving DecidableEq, Inhabited

/-- Turns a trip into a final route, all legs costed by `cost`. -/
def polish (schedule : Schedule) (cost : Waypoint → Waypoint → Planning σ Cost)
    (announce : Stage → List Waypoint → Planning σ Unit) (options : PlannerOptions)
    (depot : Coordinate) (trip : List Waypoint) : Planning σ PolishedRoute := do
  let limits := ⟨options.relocation.lookahead, options.relocation.minImprovement⟩
  let relocated ← Relocation.relocateUnder schedule (fun a b => Cost.duration <$> cost a b) limits
    options.relocation.maxMoves options.relocation.maxStops trip
  announce .relocated relocated.stops
  let refined := Corridor.refine options.corridor relocated.stops
  announce .refined refined
  let route ← FinalRoute.compute cost depot refined
  pure ⟨refined, relocated.moves, route⟩

/-- Plans and files a route run. One leg cache serves relocation and final costs. -/
def createRun (services : Services σ) (options : PlannerOptions) (request : RouteRequest) :
    Planning σ PlannedRoute := do
  let depot ← resolveDepot services.registry request.header.base
  let stops ← chooseStops services options.selection request
  let trip ← Tour.planDepotTrip services.oracle depot (stops.map Waypoint.ofStop)
  services.announce .trip trip.stops
  let legCost := LegCache.cost fun a b => services.oracle.legCost a b .curb
  let announce stage stops := (services.announce stage stops).inner
  let polished ← LegCache.withFresh
    (polish services.schedule legCost announce options depot trip.stops)
  let id ← polished.route.file services.registry request.header
  pure ⟨id, polished.stops, polished.route.total, polished.moves⟩

end RoutePlanner

end ServiceRoute
