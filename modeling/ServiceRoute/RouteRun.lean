import ServiceRoute.Cost

/-! # Route runs

A planned route once it is filed: a header and one entry per stop, each with a
status of its own.
-/

namespace ServiceRoute

inductive RunStatus where
  | planned
  | inProgress
  | completed
  | finished
deriving DecidableEq, Inhabited

namespace RunStatus

def name : RunStatus → String
  | planned => "planned"
  | inProgress => "in_progress"
  | completed => "completed"
  | finished => "finished"

def all : List RunStatus :=
  [planned, inProgress, completed, finished]

def ofName? (text : String) : Option RunStatus :=
  all.find? (·.name = text)

/-- An open run still waits for work. -/
def isOpen : RunStatus → Bool
  | planned | inProgress => true
  | completed | finished => false

end RunStatus

inductive StopStatus where
  | pending
  | inProgress
  | done
  | skipped
deriving DecidableEq, Inhabited

namespace StopStatus

def name : StopStatus → String
  | pending => "pending"
  | inProgress => "in_progress"
  | done => "done"
  | skipped => "skipped"

def all : List StopStatus :=
  [pending, inProgress, done, skipped]

def ofName? (text : String) : Option StopStatus :=
  all.find? (·.name = text)

/-- A terminal status needs no more work at the stop. -/
def isTerminal : StopStatus → Bool
  | done | skipped => true
  | pending | inProgress => false

end StopStatus

/-- What a route run is filed under. -/
structure RunHeader where
  pool : String
  base : String
  date : String
deriving DecidableEq, Inhabited

/-- One stop of a route: its position and the cost of the leg that arrives there. -/
structure RouteEntry where
  stop : StopId
  sequence : Nat
  cost : Cost
deriving DecidableEq, Inhabited

structure RunStop where
  runId : Int
  entry : RouteEntry
  status : StopStatus
  completedAt : Option String
deriving DecidableEq, Inhabited

/-- A filed run, its stops in visiting order. -/
structure RouteRun where
  id : Int
  header : RunHeader
  status : RunStatus
  total : Cost
  startedAt : Option String
  finishedAt : Option String
  stops : List RunStop
deriving DecidableEq, Inhabited

structure RunSummary where
  id : Int
  header : RunHeader
  status : RunStatus
  stopCount : Nat
deriving DecidableEq, Inhabited

end ServiceRoute
