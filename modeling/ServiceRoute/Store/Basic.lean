import ServiceRoute.Store.Catalog
import ServiceRoute.Store.OverrideLog
import ServiceRoute.Store.RunBook

/-! # The store

Bases, the stop catalog, the override log and the run book in one place. Every
operation is an action on the store that may fail. Operations that record a time
are given it.
-/

namespace ServiceRoute

namespace Store

structure Base where
  id : String
  location : Coordinate
  active : Bool
deriving DecidableEq, Inhabited

end Store

structure Store where
  bases : List Store.Base
  catalog : Store.Catalog
  overrides : Store.OverrideLog
  runs : Store.RunBook
deriving DecidableEq, Inhabited

namespace Store

/-- An operation on the store. A failed one may have done part of its work. -/
abbrev Action (α : Type) : Type :=
  ExceptT StoreError (StateM Store) α

def empty : Store :=
  ⟨[], [], .empty, .empty⟩

/-- Adds a base or replaces the one with its id. -/
def putBase (bases : List Base) (base : Base) : List Base :=
  if bases.any (·.id = base.id) then
    bases.map fun old => if old.id = base.id then base else old
  else bases ++ [base]

def upsertBase (id : String) (location : Coordinate) (active : Bool) : Action Unit := do
  let location ← liftM (storedLocation .baseLon .baseLat location)
  modify fun s => { s with bases := putBase s.bases ⟨id, location, active⟩ }

/-- The location of a base, if it is active. -/
def activeBase (s : Store) (id : String) : Option Coordinate :=
  (s.bases.find? fun base => base.id = id ∧ base.active).map (·.location)

def upsertRisk (id : StopId) (risk : RiskScores) : Action Unit := do
  let catalog ← liftM ((← get).catalog.putRisk id risk)
  modify ({ · with catalog })

/-- Adds or replaces a stop, and then its risk snapshot if it comes with one. -/
def upsertStop (pool : String) (stop : Stop) : Action Unit := do
  let catalog ← liftM ((← get).catalog.putStop pool stop)
  modify ({ · with catalog })
  match stop.risk with
  | some risk => upsertRisk stop.id risk
  | none => pure ()

def topStops (s : Store) (pool : String) (limit : Nat) : List Stop :=
  s.catalog.top pool limit

def stopsById (s : Store) (pool : String) (ids : List StopId) : List Stop :=
  s.catalog.byId pool ids

def addOverride (o : Override) (author : String) : Action Int := do
  modify fun s => { s with overrides := s.overrides.add o author }
  return (← get).overrides.lastId

/-- Removes an override and answers whether there was one. -/
def deleteOverride (id : Int) : Action Bool := do
  let (existed, overrides) := (← get).overrides.delete id
  modify ({ · with overrides })
  return existed

def overridesForPool (pool : String) : Action (List Override) := do
  liftM ((← get).overrides.forPool pool)

def insertRun (header : RunHeader) (total : Cost) (entries : List RouteEntry) :
    Action Int := do
  let (id, runs) ← liftM ((← get).runs.insert header total entries)
  modify ({ · with runs })
  return id

def loadRun (id : Int) : Action (Option RouteRun) := do
  liftM ((← get).runs.load id)

def updateRun (id : Int) (f : RunRow → RunRow) : Action Unit :=
  modify fun s => { s with runs := s.runs.update id f }

def startRun (now : String) (id : Int) : Action RouteRun := do
  updateRun id (.start now)
  liftM ((← get).runs.require id)

def finishRun (now : String) (id : Int) : Action RouteRun := do
  updateRun id (.finish now)
  liftM ((← get).runs.require id)

/-- Sets the status of one stop of a run, which has to be in it. -/
def setStopStatus (now : String) (id : Int) (stop : StopId) (status : StopStatus) :
    Action Unit := do
  let row := (← get).runs.find? id
  if row.any (·.stops.any (·.entry.stop = stop)) then
    updateRun id (.setStopStatus now stop status)
  else throw (.stopNotInRun id stop)

/-- Closes a run whose work is all done and answers whether it did. -/
def completeIfAllTerminal (now : String) (id : Int) : Action Bool := do
  let row := (← get).runs.find? id
  if row.any (·.canClose) then
    updateRun id (.close now)
    return true
  else return false

def openRuns (date : String) : Action (List RunSummary) := do
  liftM ((← get).runs.openRuns date)

end Store

end ServiceRoute
