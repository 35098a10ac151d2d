import ServiceRoute.Stop

/-! # Failures

Why a route could not be planned and why the store refused an operation. Every
failure is a cause; its wording is in `message`.
-/

namespace ServiceRoute

/-- The columns a store failure can name. -/
inductive Column where
  | baseLon
  | baseLat
  | stopLon
  | stopLat
  | combinedRisk
  | hotspotWeight
  | urgencyWeight
  | overrideKind
  | runStatus
  | runDistance
  | runDuration
  | entryStatus
  | entryDistance
  | entryDuration
deriving DecidableEq, Inhabited

def Column.name : Column → String
  | baseLon => "bases.lon"
  | baseLat => "bases.lat"
  | stopLon => "stops.lon"
  | stopLat => "stops.lat"
  | combinedRisk => "stop_risk_snapshot.combined_risk_score"
  | hotspotWeight => "stop_risk_snapshot.hotspot_weight"
  | urgencyWeight => "stop_risk_snapshot.l3_urgency_weight"
  | overrideKind => "route_overrides.override_type"
  | runStatus => "route_runs.status"
  | runDistance => "route_runs.total_distance_m"
  | runDuration => "route_runs.total_duration_s"
  | entryStatus => "route_run_stops.status"
  | entryDistance => "route_run_stops.planned_distance_m"
  | entryDuration => "route_run_stops.planned_duration_s"

/-- The rules of the tables that a row can break. -/
inductive TableFault where
  | missingValue (column : Column)
  | blankStopId
  | unknownStop
  | repeatedSequence
  | repeatedStop
  | cannotOpen (path : String)
deriving DecidableEq, Inhabited

def TableFault.message : TableFault → String
  | missingValue column => "NOT NULL constraint failed: " ++ column.name
  | blankStopId => "CHECK constraint failed: length(trim(stop_id)) > 0"
  | unknownStop => "FOREIGN KEY constraint failed"
  | repeatedSequence =>
    "UNIQUE constraint failed: route_run_stops.route_run_id, route_run_stops.sequence"
  | repeatedStop =>
    "UNIQUE constraint failed: route_run_stops.route_run_id, route_run_stops.stop_id"
  | cannotOpen path => "unable to open database file: " ++ path

inductive StoreError where
  | table (fault : TableFault)
  | invalidValue (column : Column) (text : String)
  | runNotFound (id : Int)
  | stopNotInRun (id : Int) (stop : StopId)
deriving DecidableEq, Inhabited

def StoreError.message : StoreError → String
  | table fault => fault.message
  | invalidValue column text => s!"corrupt {column.name} value '{text}'"
  | runNotFound id => s!"route run {id} not found"
  | stopNotInRun id stop => s!"stop {stop} is not part of route run {id}"

/-- Why no usable trip or leg came back from the cost oracle. -/
inductive PlanningFault where
  | reported (reason : String)
  | tooFewWaypoints
  | shortTrip (stops : Nat)
  | incompleteTrip (visited requested : Nat)
  | timedOut (url : String) (seconds : Nat)
  | unreachable (url : String)
  | refused (status url body : String)
  | undecodable (url : String)
  | responded (code message : String)
  | noTrips
  | splitTrips (trips : Nat)
  | waypointCount (returned inputs : Nat)
  | noRoute
deriving DecidableEq, Inhabited

def PlanningFault.reason : PlanningFault → String
  | reported reason => reason
  | tooFewWaypoints => "at least two waypoints are required to plan a trip"
  | shortTrip stops => s!"trip contained {stops} stops, at least two are required"
  | incompleteTrip visited requested => s!"trip visited {visited} of {requested} requested stops"
  | timedOut url seconds => s!"OSRM request to {url} timed out after {seconds}s"
  | unreachable url => s!"OSRM request to {url} failed"
  | refused status url body => s!"OSRM returned {status} for {url}: {body}"
  | undecodable url => s!"undecodable OSRM response from {url}"
  | responded code message => s!"OSRM responded {code}: {message}"
  | noTrips => "OSRM returned no trips for the given stops"
  | splitTrips trips => s!"OSRM split the stops into {trips} disconnected trips"
  | waypointCount returned inputs => s!"OSRM returned {returned} waypoints for {inputs} inputs"
  | noRoute => "OSRM returned no route for leg"

/-- Why a finished route could not be filed. -/
inductive PersistenceFault where
  | reported (reason : String)
  | store (error : StoreError)
deriving DecidableEq, Inhabited

def PersistenceFault.reason : PersistenceFault → String
  | reported reason => reason
  | store error => error.message

/-- Why a request cannot be met, whatever the oracle says. -/
inductive RequestFault where
  | reported (reason : String)
  | unknownStops (pool : String) (ids : List StopId)
  | notAStop (waypoint : String) (position : Nat)
  | repeatedStop (id : StopId)
  | tooManyStops
deriving DecidableEq, Inhabited

def RequestFault.reason : RequestFault → String
  | reported reason => reason
  | unknownStops pool ids => s!"unknown stops in pool {pool}: " ++ ", ".intercalate ids
  | notAStop waypoint position =>
    s!"waypoint {waypoint} at position {position} is not a catalog stop"
  | repeatedStop id => s!"stop {id} appears more than once"
  | tooManyStops => "route has too many stops"

/-- Why one planning call failed. -/
inductive PlanError where
  | insufficientCandidates (found : Nat)
  | planningFailed (fault : PlanningFault)
  | depotUnavailable (base : String)
  | persistenceFailed (fault : PersistenceFault)
  | invalidRequest (fault : RequestFault)
deriving DecidableEq, Inhabited

namespace PlanError

def message : PlanError → String
  | insufficientCandidates found =>
    s!"not enough eligible stops to plan a route (found {found})"
  | planningFailed fault => "route planning failed: " ++ fault.reason
  | depotUnavailable base => s!"base '{base}' is missing or inactive"
  | persistenceFailed fault => "failed to persist route: " ++ fault.reason
  | invalidRequest fault => "invalid route request: " ++ fault.reason

/-- Whether the same call may succeed when it is made again. -/
def isRetryable : PlanError → Bool
  | planningFailed _ | persistenceFailed _ => true
  | insufficientCandidates _ | depotUnavailable _ | invalidRequest _ => false

end PlanError

end ServiceRoute
