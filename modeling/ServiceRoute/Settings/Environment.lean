import ServiceRoute.Options
import ServiceRoute.Text.Blank

/-! # Options from the environment

Environment variables replace the defaults of the routing server and of the
selection limits. A number that cannot be read is ignored.
-/

namespace ServiceRoute

/-- The variables that are set, with their values. -/
abbrev Environment := List (String × String)

namespace Environment

/-- A decimal of at most 64 bits, blanks around it and a plus sign aside. -/
def number? (text : String) : Option Nat :=
  let cs := (Text.trim text).toList
  let digits :=
    match cs with
    | '+' :: rest => rest
    | _ => cs
  if digits ≠ [] ∧ digits.all Char.isDigit then
    let n := Nat.ofDigitChars 10 digits 0
    if n < 0x10000000000000000 then some n else none
  else none

def text (env : Environment) (name default : String) : String :=
  (env.lookup name).getD default

def number (env : Environment) (name : String) (default : Nat) : Nat :=
  ((env.lookup name).bind number?).getD default

end Environment

def ServerOptions.ofEnvironment (env : Environment) : ServerOptions :=
  let d : ServerOptions := {}
  { baseUrl := env.text "OSRM_BASE_URL" d.baseUrl
    profile := env.text "OSRM_PROFILE" d.profile
    timeoutSeconds := env.number "OSRM_TIMEOUT_SECS" d.timeoutSeconds }

def SelectionOptions.ofEnvironment (env : Environment) : SelectionOptions :=
  let d : SelectionOptions := {}
  { limit := env.number "PLANNER_CANDIDATE_LIMIT" d.limit
    rawLimit := env.number "PLANNER_RAW_LIMIT" d.rawLimit }

def PlannerOptions.ofEnvironment (env : Environment) : PlannerOptions :=
  { server := .ofEnvironment env
    selection := .ofEnvironment env }

end ServiceRoute
