/-! # The total order on doubles

Ranking by score needs an order in which any two doubles compare, with no
exception for a value that is XX-/

namespace ServiceRoute.Number

/-- The place of a double in the total order. -/
def rank (x : Float) : Int :=
  let bits := x.toBits.toNat
  if bits < 0x8000000000000000 then bits else 0x7FFFFFFFFFFFFFFF - (bits : Int)

def compareTotal (x y : Float) : Ordering :=
  compare (rank x) (rank y)

/-- The lesser of two values; one that is no number gives way to the other. -/
def lesser (x y : Float) : Float :=
  if x.isNaN then y
  else if y.isNaN then x
  else if rank x ≤ rank y then x else y

/-- The greater of two values; one that is no number gives way to the other. -/
def greater (x y : Float) : Float :=
  if x.isNaN then y
  else if y.isNaN then x
  else if rank x ≤ rank y then y else x

/-- The distance between the least and the greatest value of a nonempty list. -/
def spread (first : Float) (rest : List Float) : Float :=
  (rest.foldl greater first - rest.foldl lesser first).abs

end ServiceRoute.Number
