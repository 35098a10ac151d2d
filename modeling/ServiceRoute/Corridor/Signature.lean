import ServiceRoute.Text.Blank
import ServiceRoute.Text.Uppercase
import ServiceRoute.Waypoint

/-! # Corridor signatures

Stops lie on one corridor when they share street and bearing, letter case and
surrounding blanks aside. A stop that lacks either lies on no corridor.
-/

namespace ServiceRoute.Corridor

structure Signature where
  street : String
  bearing : String
deriving DecidableEq, Inhabited

/-- A name without surrounding blanks, in upper case; a missing one is empty. -/
def normalized (name : Option String) : String :=
  Text.upper (Text.trim (name.getD ""))

def signature (w : Waypoint) : Option Signature :=
  let street := normalized w.street
  let bearing := normalized w.bearing
  if street = "" ∨ bearing = "" then none else some ⟨street, bearing⟩

end ServiceRoute.Corridor
