import Std.Data.HashMap
import ServiceRoute.Planning

/-! # Leg costs, remembered

During one planning call every leg is asked of the oracle once. A leg is known by
its two ends: the depot, a stop by its id, a bare location by its six-decimal
position. The answer to the first question, a failure included, answers every
later one.
-/

namespace ServiceRoute

/-- What identifies one end of a leg. -/
inductive WaypointKey where
  | depot
  | stop (id : StopId)
  | place (position : String)
deriving DecidableEq, Hashable, Inhabited

namespace WaypointKey

def ofWaypoint (w : Waypoint) : WaypointKey :=
  match w.kind with
  | .depot => .depot
  | .stop id => .stop id
  | .location => .place w.location.text

def display : WaypointKey → String
  | depot => "depot"
  | stop id => id
  | place position => position

end WaypointKey

structure LegKey where
  start : WaypointKey
  stop : WaypointKey
deriving DecidableEq, Hashable, Inhabited

namespace LegKey

def between (a b : Waypoint) : LegKey :=
  ⟨.ofWaypoint a, .ofWaypoint b⟩

def display (key : LegKey) : String :=
  key.start.display ++ "->" ++ key.stop.display

end LegKey

/-- The answers so far, and how many questions reached the oracle. -/
structure LegCache where
  answers : Std.HashMap LegKey (Except PlanError Cost)
  asked : Nat

namespace LegCache

def empty : LegCache :=
  ⟨∅, 0⟩

def size (cache : LegCache) : Nat :=
  cache.answers.size

def isEmpty (cache : LegCache) : Bool :=
  cache.size = 0

def answer? (cache : LegCache) (key : LegKey) : Option (Except PlanError Cost) :=
  cache.answers[key]?

def remember (cache : LegCache) (key : LegKey) (answer : Except PlanError Cost) : LegCache :=
  ⟨cache.answers.insert key answer, cache.asked + 1⟩

variable {σ : Type}

/-- The cost of a leg: the remembered answer, or the oracle's, which is remembered. -/
def cost (ask : Waypoint → Waypoint → Planning σ Cost) (a b : Waypoint) :
    Planning (LegCache × σ) Cost :=
  .ofOutcome fun (cache, world) =>
    let key := LegKey.between a b
    match cache.answer? key with
    | some answer => (answer, (cache, world))
    | none =>
      let (answer, world) := (ask a b).outcome world
      (answer, (cache.remember key answer, world))

/-- One line about a cache that asks for legs with this approach. -/
def summary (approach : Approach) (cache : LegCache) : String :=
  "LegCostCache \x7b approach: " ++ side ++ s!", entries: {cache.size}, " ++
    s!"remote_calls: {cache.asked}, .. \x7d"
where
  side : String :=
    match approach with
    | .curb => "Curb"
    | .unrestricted => "Unrestricted"

/-- Runs an action that looks legs up, starting with nothing remembered. -/
def withFresh {α : Type} (act : Planning (LegCache × σ) α) : Planning σ α :=
  .ofOutcome fun world =>
    let (answer, (_, world)) := act.outcome (empty, world)
    (answer, world)

end LegCache

end ServiceRoute
