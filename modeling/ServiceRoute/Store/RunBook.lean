import ServiceRoute.RouteRun
import ServiceRoute.Store.Value

/-! # The run book

Filed route runs with their lifecycle. A run is entered whole or not at all; its
id is greater than every id before. A planned run is started once and ends up
completed, when it is finished by hand, or finished, when no stop waits for work.
-/

namespace ServiceRoute.Store

structure StopRow where
  entry : RouteEntry
  status : Recorded StopStatus
  completedAt : Option String
deriving DecidableEq, Inhabited

structure RunRow where
  id : Int
  header : RunHeader
  status : Recorded RunStatus
  total : Cost
  startedAt : Option String
  finishedAt : Option String
  stops : List StopRow
deriving DecidableEq, Inhabited

def StopRow.ofEntry (entry : RouteEntry) : StopRow :=
  ⟨entry, .known .pending, none⟩

def RunRow.ofRoute (id : Int) (header : RunHeader) (total : Cost)
    (entries : List RouteEntry) : RunRow :=
  ⟨id, header, .known .planned, total, none, none, entries.map .ofEntry⟩

/-- An entry as it is stored behind the `earlier` ones of its run, among which
neither its position nor its stop may occur. -/
def storedEntry (earlier : List RouteEntry) (entry : RouteEntry) :
    Except StoreError RouteEntry := do
  let cost ← storedCost .entryDistance .entryDuration entry.cost
  if entry.sequence ∈ earlier.map (·.sequence) then throw (.table .repeatedSequence)
  else if entry.stop ∈ earlier.map (·.stop) then throw (.table .repeatedStop)
  else pure { entry with cost }

def storedEntries (earlier : List RouteEntry) : List RouteEntry →
    Except StoreError (List RouteEntry)
  | [] => pure earlier
  | entry :: rest => do
    let entry ← storedEntry earlier entry
    storedEntries (earlier ++ [entry]) rest

def StopRow.read (runId : Int) (row : StopRow) : Except StoreError RunStop := do
  return ⟨runId, row.entry, ← row.status.read .entryStatus, row.completedAt⟩

/-- The run with its stops in the order of their positions. -/
def RunRow.read (row : RunRow) : Except StoreError RouteRun := do
  let rows := row.stops.mergeSort fun a b => a.entry.sequence ≤ b.entry.sequence
  let stops ← rows.mapM (StopRow.read row.id)
  let status ← row.status.read .runStatus
  return ⟨row.id, row.header, status, row.total, row.startedAt, row.finishedAt, stops⟩

def RunRow.isOpen (row : RunRow) : Bool :=
  row.status.value?.any RunStatus.isOpen

/-- Begins an open run; the time of the first start is kept. -/
def RunRow.start (now : String) (row : RunRow) : RunRow :=
  if row.isOpen then
    { row with status := .known .inProgress, startedAt := some (row.startedAt.getD now) }
  else row

def RunRow.finish (now : String) (row : RunRow) : RunRow :=
  { row with status := .known .completed, finishedAt := some now }

/-- A terminal status has a time, any other one has none. -/
def StopRow.setStatus (now : String) (status : StopStatus) (row : StopRow) : StopRow :=
  { row with
    status := .known status
    completedAt := if status.isTerminal then some now else none }

def RunRow.setStopStatus (now : String) (stop : StopId) (status : StopStatus) (row : RunRow) :
    RunRow :=
  { row with
    stops := row.stops.map fun s => if s.entry.stop = stop then s.setStatus now status else s }

/-- No stop waits for work, and at least one was done or skipped. -/
def RunRow.allTerminal (row : RunRow) : Bool :=
  !row.stops.any (·.status.value?.any (!·.isTerminal)) &&
    row.stops.any (·.status.value?.any (·.isTerminal))

def RunRow.isClosed (row : RunRow) : Bool :=
  row.status = .known .finished || row.status = .known .completed

/-- The run is to be closed: all its work is done, and nobody has closed it. -/
def RunRow.canClose (row : RunRow) : Bool :=
  row.allTerminal && !row.isClosed

def RunRow.close (now : String) (row : RunRow) : RunRow :=
  { row with status := .known .finished, finishedAt := some now }

structure RunBook where
  rows : List RunRow
  lastId : Int
deriving DecidableEq, Inhabited

namespace RunBook

def empty : RunBook :=
  ⟨[], 0⟩

def find? (book : RunBook) (id : Int) : Option RunRow :=
  book.rows.find? (·.id = id)

/-- Rewrites the run with the id, if there is one. -/
def update (book : RunBook) (id : Int) (f : RunRow → RunRow) : RunBook :=
  { book with rows := book.rows.map fun row => if row.id = id then f row else row }

def insert (book : RunBook) (header : RunHeader) (total : Cost) (entries : List RouteEntry) :
    Except StoreError (Int × RunBook) := do
  let total ← storedCost .runDistance .runDuration total
  let entries ← storedEntries [] entries
  let id := book.lastId + 1
  return (id, ⟨book.rows ++ [.ofRoute id header total entries], id⟩)

def load (book : RunBook) (id : Int) : Except StoreError (Option RouteRun) :=
  (book.find? id).mapM RunRow.read

def require (book : RunBook) (id : Int) : Except StoreError RouteRun := do
  match ← book.load id with
  | some run => pure run
  | none => throw (.runNotFound id)

/-- The open runs of a date, the newest first. -/
def openRuns (book : RunBook) (date : String) : Except StoreError (List RunSummary) :=
  ((book.rows.filter fun row => row.header.date = date ∧ row.isOpen).reverse).mapM
    fun row => do
      return ⟨row.id, row.header, ← row.status.read .runStatus, row.stops.length⟩

end RunBook

end ServiceRoute.Store
