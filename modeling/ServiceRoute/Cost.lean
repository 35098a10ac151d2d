import ServiceRoute.Waypoint

/-! # Travel costs and trips

The cost of one directed hop, and the visiting order a cost oracle proposes for
a set of waypoints.
-/

namespace ServiceRoute

structure Cost where
  distance : Float
  duration : Float
deriving DecidableEq, Inhabited

namespace Cost

def zero : Cost :=
  ⟨0, 0⟩

def add (a b : Cost) : Cost :=
  ⟨a.distance + b.distance, a.duration + b.duration⟩

instance : Add Cost := ⟨add⟩

/-- The costs added up from the left, starting at nothing. -/
def sum (costs : List Cost) : Cost :=
  costs.foldl (· + ·) zero

end Cost

structure Leg where
  fromIndex : Nat
  toIndex : Nat
  cost : Cost
deriving DecidableEq, Inhabited

/-- Legs with these costs between consecutive positions. -/
def Leg.chain (costs : List Cost) : List Leg :=
  costs.zipIdx.map fun (cost, i) => ⟨i, i + 1, cost⟩

theorem Leg.getElem?_chain (costs : List Cost) (k : Nat) :
    (Leg.chain costs)[k]? = costs[k]?.map fun cost => ⟨k, k + 1, cost⟩ := by
  rw [Leg.chain, List.getElem?_map, List.getElem?_zipIdx, Option.map_map, Nat.zero_add]
  rfl

theorem Leg.length_chain (costs : List Cost) : (Leg.chain costs).length = costs.length := by
  rw [Leg.chain, List.length_map, List.length_zipIdx]

theorem Leg.map_cost_chain (costs : List Cost) : (Leg.chain costs).map (·.cost) = costs := by
  rw [Leg.chain, List.map_map]
  exact List.zipIdx_map_fst 0 costs

/-- Whether a trip has to begin at the first waypoint of the request. -/
inductive TripSource where
  | first
  | any
deriving DecidableEq, Inhabited

/-- The side of the road a leg has to arrive on. -/
inductive Approach where
  | curb
  | unrestricted
deriving DecidableEq, Inhabited

/-- A proposed visiting order, with its totals and its consecutive legs. -/
structure TripPlan where
  total : Cost
  ordered : List Waypoint
  legs : List Leg
deriving DecidableEq, Inhabited

end ServiceRoute
