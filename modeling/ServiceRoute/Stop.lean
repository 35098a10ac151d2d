import ServiceRoute.Number.Decimal

/-! # Stops

A stop is a place to be serviced: where it is, on which street and bearing it is
approached, and how urgent the latest risk snapshot says it is.
-/

namespace ServiceRoute

abbrev StopId := String

/-- A position in degrees. -/
structure Coordinate where
  lon : Float
  lat : Float
deriving DecidableEq, Inhabited

/-- The position to six decimals, the precision at which places are told apart. -/
def Coordinate.text (c : Coordinate) : String :=
  Number.fixed 6 c.lon ++ "," ++ Number.fixed 6 c.lat

structure RiskScores where
  combined : Float
  hotspot : Float
  urgency : Float
deriving DecidableEq, Inhabited

def RiskScores.zero : RiskScores :=
  ⟨0, 0, 0⟩

/-- A catalog stop; `risk` is missing when the snapshot does not know the stop. -/
structure Stop where
  id : StopId
  location : Coordinate
  street : Option String
  bearing : Option String
  risk : Option RiskScores
deriving DecidableEq, Inhabited

/-- The risk scores of a stop, all zero for one without a snapshot. -/
def Stop.scores (s : Stop) : RiskScores :=
  s.risk.getD .zero

end ServiceRoute
