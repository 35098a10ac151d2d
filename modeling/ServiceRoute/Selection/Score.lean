import ServiceRoute.Number.TotalOrder

/-! # Scores

A score is a sum of doubles. When infinities of opposite sign meet in it, they
cancel out, and the sum is no number from then on. Such a score is below all
others, while one that was given as no number is above them.
-/

namespace ServiceRoute.Selection

structure Score where
  value : Float
  cancelled : Bool
deriving DecidableEq, Inhabited

namespace Score

def ofFloat (value : Float) : Score :=
  ⟨value, false⟩

/-- Of two scores that are no numbers the first decides what the sum is. -/
def add (a b : Score) : Score :=
  let sum := a.value + b.value
  { value := sum
    cancelled :=
      if a.value.isNaN then a.cancelled
      else if b.value.isNaN then b.cancelled
      else sum.isNaN }

instance : Add Score := ⟨add⟩

/-- The place of a score among all scores. -/
def rank (s : Score) : Int :=
  if s.cancelled then -0x8000000000000000 else Number.rank s.value

def compare (a b : Score) : Ordering :=
  Ord.compare a.rank b.rank

end Score

end ServiceRoute.Selection
