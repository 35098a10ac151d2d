import ServiceRoute.Store.Basic

/-! # Direct edits

A column may be written from outside, past the operations of the store. Such an
edit answers the number of rows it changed. It can leave a status or an override
kind that no operation would write, but not a missing one.
-/

namespace ServiceRoute.Store

/-- The text for a column that needs one, unless no row is to be changed. -/
def editText (column : Column) (rows : Nat) (text : Option String) : Action String :=
  match text with
  | some text => pure text
  | none => if rows = 0 then pure "" else throw (.table (.missingValue column))

/-- Rewrites the rows of runs that satisfy `p`. -/
def editRuns (p : RunRow → Bool) (f : RunRow → RunRow) : Action Nat := do
  let rows := (← get).runs.rows
  modify fun s => { s with runs.rows := rows.map fun row => if p row then f row else row }
  return rows.countP p

/-- Rewrites the rows of a stop, in whatever runs it is. -/
def editStops (stop : StopId) (f : StopRow → StopRow) : Action Nat := do
  let rows := (← get).runs.rows
  let edit (s : StopRow) : StopRow := if s.entry.stop = stop then f s else s
  modify fun s =>
    { s with runs.rows := rows.map fun row => { row with stops := row.stops.map edit } }
  return (rows.flatMap (·.stops)).countP (·.entry.stop = stop)

def editRunStatus (id : Int) (text : Option String) : Action Nat := do
  let count := (← get).runs.rows.countP (·.id = id)
  let text ← editText .runStatus count text
  editRuns (·.id = id) ({ · with status := .ofText RunStatus.ofName? text })

def editStartedAt (id : Int) (time : Option String) : Action Nat :=
  editRuns (·.id = id) ({ · with startedAt := time })

def editFinishedAt (id : Int) (time : Option String) : Action Nat :=
  editRuns (·.id = id) ({ · with finishedAt := time })

def editStopStatus (stop : StopId) (text : Option String) : Action Nat := do
  let count ← editStops stop id
  let text ← editText .entryStatus count text
  editStops stop ({ · with status := .ofText StopStatus.ofName? text })

def editCompletedAt (stop : StopId) (time : Option String) : Action Nat :=
  editStops stop ({ · with completedAt := time })

def editOverrideKind (id : Int) (text : Option String) : Action Nat := do
  let rows := (← get).overrides.rows
  let count := rows.countP (·.id = id)
  let text ← editText .overrideKind count text
  let kind := Recorded.ofText OverrideKind.ofName? text
  modify fun s =>
    { s with overrides.rows := rows.map fun row => if row.id = id then { row with kind } else row }
  return count

end ServiceRoute.Store
