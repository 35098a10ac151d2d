import ServiceRoute.Failure
import ServiceRoute.Override
import ServiceRoute.RouteRun

/-! # What planning consults

A planning call runs in a world of type `σ`, which holds whatever the oracle and
the store remember. Each capability is a record of actions on that world: an
action may fail, and it may change the world whether it fails or not.
-/

namespace ServiceRoute

abbrev Planning (σ : Type) (α : Type) : Type :=
  ExceptT PlanError (StateM σ) α

namespace Planning

variable {σ τ α : Type}

def outcome (act : Planning σ α) (world : σ) : Except PlanError α × σ :=
  act.run.run world

def ofOutcome (f : σ → Except PlanError α × σ) : Planning σ α :=
  ExceptT.mk f

/-- Carries an action out in any case: its failure is an answer, too. -/
def attempt (act : Planning σ α) : Planning σ (Except PlanError α) :=
  ofOutcome fun world =>
    let (answer, world) := act.outcome world
    (.ok answer, world)

/-- Runs an action on the second half of a larger world. -/
def inner (act : Planning σ α) : Planning (τ × σ) α :=
  ofOutcome fun (outer, world) =>
    let (answer, world) := act.outcome world
    (answer, (outer, world))

/-- Runs an action on the first half of a larger world. -/
def outer (act : Planning τ α) : Planning (τ × σ) α :=
  ofOutcome fun (world, other) =>
    let (answer, world) := act.outcome world
    (answer, (world, other))

end Planning

/-- Answers trip and leg queries. Any failure of an oracle is a planning failure. -/
structure CostOracle (σ : Type) where
  planTrip : List Waypoint → TripSource → Planning σ TripPlan
  legCost : Waypoint → Waypoint → Approach → Planning σ Cost

/-- Reads the stops of a pool: the riskiest ones, or those with given ids. -/
structure RiskCatalog (σ : Type) where
  topStops : (pool : String) → (limit : Nat) → Planning σ (List Stop)
  stopsById : (pool : String) → List StopId → Planning σ (List Stop)

/-- Resolves bases and files finished routes, each route whole or not at all. -/
structure RunRegistry (σ : Type) where
  activeBase : (base : String) → Planning σ (Option Coordinate)
  insertRun : RunHeader → (total : Cost) → List RouteEntry → Planning σ Int

/-- The stages after which the visiting order is announced. -/
inductive Stage where
  | trip
  | relocated
  | refined
deriving DecidableEq, Inhabited

/-- Whose turn it is, time after time, among computations that go on side by side, each known by
its position, and which failure is reported if several of them fail. -/
structure Turns where
  order : List Nat
  reported : Nat
deriving DecidableEq, Inhabited

/-- Each computation begins when the ones before it are through. -/
def Turns.inOrder : Turns :=
  ⟨[], 0⟩

/-- The turns taken in the window behind an anchor. An anchor is known by the number of anchors
that are still to come. -/
abbrev Schedule : Type :=
  (anchors : Nat) → Turns

/-- Everything one planning call consults, and the schedule it is subject to. -/
structure Services (σ : Type) where
  oracle : CostOracle σ
  catalog : RiskCatalog σ
  overrides : (pool : String) → Planning σ (List Override)
  registry : RunRegistry σ
  announce : Stage → List Waypoint → Planning σ Unit
  schedule : Schedule := fun _ => .inOrder

end ServiceRoute
