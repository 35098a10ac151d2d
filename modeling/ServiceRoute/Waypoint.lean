import ServiceRoute.Stop

/-! # Waypoints

A waypoint is a place on a trip: the depot, a catalog stop, or a bare location.
The three kinds never coincide, whatever a stop may be called.
-/

namespace ServiceRoute

inductive WaypointKind where
  | depot
  | stop (id : StopId)
  | location
deriving DecidableEq, Inhabited

structure Waypoint where
  location : Coordinate
  kind : WaypointKind
  street : Option String
  bearing : Option String
deriving DecidableEq, Inhabited

namespace Waypoint

def depot (place : Coordinate) : Waypoint :=
  ⟨place, .depot, none, none⟩

def ofStop (s : Stop) : Waypoint :=
  ⟨s.location, .stop s.id, s.street, s.bearing⟩

def stopId? (w : Waypoint) : Option StopId :=
  match w.kind with
  | .stop id => some id
  | _ => none

def isDepot (w : Waypoint) : Bool :=
  w.kind = .depot

/-- The waypoint as a trip planner hands it back: without street and bearing. -/
def withoutStreet (w : Waypoint) : Waypoint :=
  { w with street := none, bearing := none }

/-- What a message or a log line calls the waypoint. -/
def display (w : Waypoint) : String :=
  match w.kind with
  | .depot => "depot"
  | .stop id => id
  | .location => w.location.text

end Waypoint

end ServiceRoute
