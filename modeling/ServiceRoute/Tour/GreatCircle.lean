import ServiceRoute.Planning
import ServiceRoute.Tour.Nearest

/-! # Great-circle estimates

A cost oracle that needs no server: distances are great-circle distances, travel
times assume one average speed, and a trip is a nearest-neighbour tour.
-/

namespace ServiceRoute.Tour

def earthRadiusKm : Float := 6371

def defaultSpeedKmh : Float := 40

def radians (degrees : Float) : Float :=
  degrees * (3.141592653589793 / 180)

/-- The great-circle distance by the haversine formula. -/
def greatCircleKm (a b : Coordinate) : Float :=
  let half (x : Float) : Float := (radians x / 2).sin
  let acrossLat := half (b.lat - a.lat)
  let acrossLon := half (b.lon - a.lon)
  let chord := acrossLat * acrossLat +
    (radians a.lat).cos * (radians b.lat).cos * (acrossLon * acrossLon)
  earthRadiusKm * (2 * chord.sqrt.asin)

def greatCircleCost (speedKmh : Float) (a b : Coordinate) : Cost :=
  let km := greatCircleKm a b
  ⟨km * 1000, km / speedKmh * 3600⟩

/-- A trip over waypoints in the given order, costed hop by hop. -/
def tripOfTour (cost : Coordinate → Coordinate → Cost) (tour : List Waypoint) : TripPlan :=
  let costs := (tour.zip tour.tail).map fun (a, b) => cost a.location b.location
  { total := .sum costs
    ordered := tour.map (·.withoutStreet)
    legs := Leg.chain costs }

/-- The offline trip: a nearest-neighbour tour under `km`, costed by `cost`. -/
def offlineTrip (km : Coordinate → Coordinate → Float)
    (cost : Coordinate → Coordinate → Cost) (waypoints : List Waypoint) :
    Except PlanError TripPlan :=
  if waypoints.length < 2 then .error (.planningFailed .tooFewWaypoints)
  else
    let ceiling : Float := 1 / 0
    .ok <| tripOfTour cost <|
      nearestTour ceiling (fun a b => km a.location b.location) waypoints

/-- An oracle that asks nobody. Its tour starts at the first waypoint, which suits every
trip source, and it ignores the side of the road. -/
def offlineOracle {σ : Type} (km : Coordinate → Coordinate → Float)
    (cost : Coordinate → Coordinate → Cost) : CostOracle σ where
  planTrip waypoints _ := liftM (offlineTrip km cost waypoints)
  legCost a b _ := pure (cost a.location b.location)

def greatCircleOracle {σ : Type} (speedKmh : Float) : CostOracle σ :=
  offlineOracle greatCircleKm (greatCircleCost speedKmh)

end ServiceRoute.Tour
