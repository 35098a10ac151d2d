import ServiceRoute.Cost
import ServiceRoute.Failure

/-! # Stored values

What becomes of a value that is stored. A double that is no number is a missing
value, which no column of a base, a stop or a route accepts; a negative zero
loses its sign. A name from a closed set is kept as its text, so that it may turn
out unreadable.
-/

namespace ServiceRoute

namespace Store

/-- The double that is read back for a stored one, if there is one. -/
def stored? (x : Float) : Option Float :=
  if x.isNaN then none
  else if x == 0 then some 0
  else some x

/-- The double that is read back from a column that needs a value. -/
def stored (column : Column) (x : Float) : Except StoreError Float :=
  match stored? x with
  | some x => .ok x
  | none => .error (.table (.missingValue column))

def storedCost (distance duration : Column) (cost : Cost) : Except StoreError Cost := do
  return ⟨← stored distance cost.distance, ← stored duration cost.duration⟩

end Store

/-- A name as it stands in a column. -/
inductive Recorded (α : Type) where
  | known (value : α)
  | unknown (text : String)
deriving DecidableEq, Inhabited

namespace Recorded

variable {α : Type}

def ofText (ofName? : String → Option α) (text : String) : Recorded α :=
  match ofName? text with
  | some value => .known value
  | none => .unknown text

def value? : Recorded α → Option α
  | known value => some value
  | unknown _ => none

def read (column : Column) : Recorded α → Except StoreError α
  | known value => .ok value
  | unknown text => .error (.invalidValue column text)

end Recorded

end ServiceRoute
