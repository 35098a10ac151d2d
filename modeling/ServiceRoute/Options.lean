/-! # Options

The limits and thresholds of every stage of planning, and the address of the
routing server, each with its default.
-/

namespace ServiceRoute

/-- At most `limit` candidates are kept of at least `rawLimit` fetched stops. -/
structure SelectionOptions where
  limit : Nat := 25
  rawLimit : Nat := 200
deriving DecidableEq, Inhabited

/-- How far ahead a relocation looks, how many are made and what one must save.
Trips of more than `maxStops` stops are left alone. -/
structure RelocationOptions where
  lookahead : Nat := 8
  maxMoves : Nat := 30
  minImprovement : Float := 5
  maxStops : Nat := 150
deriving DecidableEq, Inhabited

/-- The reach of regrouping and the score below which a run is put in order. -/
structure CorridorOptions where
  window : Nat := 8
  threshold : Float := 0.8
deriving DecidableEq, Inhabited

structure ServerOptions where
  baseUrl : String := "http://localhost:5005"
  profile : String := "driving"
  timeoutSeconds : Nat := 10
deriving DecidableEq, Inhabited

structure PlannerOptions where
  server : ServerOptions := {}
  selection : SelectionOptions := {}
  relocation : RelocationOptions := {}
  corridor : CorridorOptions := {}
deriving DecidableEq, Inhabited

end ServiceRoute
