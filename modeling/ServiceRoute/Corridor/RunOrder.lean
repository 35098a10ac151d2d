import ServiceRoute.Corridor.Heading
import ServiceRoute.Number.TotalOrder
import ServiceRoute.Waypoint

/-! # The order of a corridor run

A run of stops is ordered along the axis on which it extends further, in the
direction its bearing names on that axis. Between equal extents longitude wins.
-/

namespace ServiceRoute.Corridor

open Number

inductive Axis where
  | lon
  | lat
deriving DecidableEq, Inhabited

inductive Direction where
  | ascending
  | descending
deriving DecidableEq, Inhabited

structure RunOrder where
  axis : Axis
  direction : Direction
deriving DecidableEq, Inhabited

def Axis.value (axis : Axis) (w : Waypoint) : Float :=
  match axis with
  | .lon => w.location.lon
  | .lat => w.location.lat

def Axis.extent (axis : Axis) (first : Waypoint) (rest : List Waypoint) : Float :=
  spread (axis.value first) (rest.map axis.value)

/-- The direction in which a heading runs along the axis, if it names one. -/
def Heading.along (heading : Heading) (axis : Axis) : Option Direction :=
  match axis with
  | .lon =>
    if heading.east then some .ascending
    else if heading.west then some .descending
    else Option.none
  | .lat =>
    if heading.north then some .ascending
    else if heading.south then some .descending
    else Option.none

/-- The axis on which a run extends further. -/
def dominantAxis (first : Waypoint) (rest : List Waypoint) : Axis :=
  if Axis.lon.extent first rest ≥ Axis.lat.extent first rest then .lon else .lat

namespace RunOrder

/-- The order of a run, if its bearing names a direction on the dominant axis. -/
def resolve (run : List Waypoint) (bearing : String) : Option RunOrder :=
  match run with
  | [] => none
  | first :: rest =>
    let axis := dominantAxis first rest
    ((Heading.ofBearing bearing).along axis).map fun direction => ⟨axis, direction⟩

/-- Whether `a` may stand before `b` in a sorted run. -/
def precedes (order : RunOrder) (a b : Waypoint) : Bool :=
  match order.direction with
  | .ascending => rank (order.axis.value a) ≤ rank (order.axis.value b)
  | .descending => rank (order.axis.value b) ≤ rank (order.axis.value a)

/-- Sorts a run; stops at the same position keep their order. -/
def sort (order : RunOrder) (run : List Waypoint) : List Waypoint :=
  run.mergeSort order.precedes

def inOrder (order : RunOrder) (a b : Waypoint) : Bool :=
  match order.direction with
  | .ascending => order.axis.value b ≥ order.axis.value a
  | .descending => order.axis.value b ≤ order.axis.value a

def orderedPairs (order : RunOrder) : List Waypoint → Nat
  | [] => 0
  | [_] => 0
  | a :: b :: rest => (order.inOrder a b).toNat + orderedPairs order (b :: rest)

end RunOrder

/-- The share of neighbours that are in the order the bearing asks for. A run of
one stop, or without such an order, scores 1. -/
def monotonicity (run : List Waypoint) (bearing : String) : Float :=
  match RunOrder.resolve run bearing with
  | none => 1
  | some order =>
    if run.length < 2 then 1
    else (order.orderedPairs run).toFloat / (run.length - 1).toFloat

end ServiceRoute.Corridor
