import ServiceRoute.Corridor.Grouping
import ServiceRoute.Corridor.RunOrder
import ServiceRoute.Corridor.Signature
import ServiceRoute.Options

/-! # Corridor refinement

Stops of one corridor are brought together and visited in the direction of
travel. Refinement regroups the route, sorts every corridor run, and at last
sorts again every run whose order still falls short of a threshold.
-/

namespace ServiceRoute.Corridor

/-- The corridor runs of a route, as intervals of positions. -/
def runs (route : List Waypoint) : List (Interval Signature) :=
  intervals signature route

def regroupWithin (window : Nat) (route : List Waypoint) : List Waypoint :=
  regroup signature window route

/-- A run in the order of its bearing, or as it is when it has none. -/
def sortRun (corridor : Signature) (run : List Waypoint) : List Waypoint :=
  match RunOrder.resolve run corridor.bearing with
  | some order => order.sort run
  | none => run

def refineRuns (route : List Waypoint) : List Waypoint :=
  rearrange signature sortRun route

/-- Sorts a run that scores below the threshold. -/
def correctRun (threshold : Float) (corridor : Signature) (run : List Waypoint) :
    List Waypoint :=
  if monotonicity run corridor.bearing < threshold then sortRun corridor run else run

def enforceSanity (threshold : Float) (route : List Waypoint) : List Waypoint :=
  rearrange signature (correctRun threshold) route

def refine (options : CorridorOptions) (route : List Waypoint) : List Waypoint :=
  enforceSanity options.threshold (refineRuns (regroupWithin options.window route))

end ServiceRoute.Corridor
