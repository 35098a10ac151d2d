import ServiceRoute.Proofs.Store.Filing

/-!
# Filing row by row

A run may be filed row by row as well, the run first and then its stops one after
the other. A stop that is refused leaves the rows before it behind, so this has to
happen inside a transaction. It then comes to filing the run at once.
-/

namespace ServiceRoute.Store

open Store.Action

variable {α : Type}

/-- Runs an action and undoes all it did if it fails. -/
def transaction (act : Action α) : Action α :=
  ExceptT.mk fun store =>
    match act.outcome store with
    | (.ok a, store') => (.ok a, store')
    | (.error e, _) => (.error e, store)

theorem outcome_transaction (act : Action α) (store : Store) :
    (transaction act).outcome store =
      match act.outcome store with
      | (.ok a, store') => (.ok a, store')
      | (.error e, _) => (.error e, store) := rfl

/-- Enters a run without any stops, under the next id. -/
def enterRun (header : RunHeader) (total : Cost) : Action Int := do
  let total ← liftM (storedCost .runDistance .runDuration total)
  let id := (← get).runs.lastId + 1
  modify fun s => s.withRun id header total []
  return id

def entered (store : Store) (id : Int) : List RouteEntry :=
  match store.runs.find? id with
  | some row => row.stops.map (·.entry)
  | none => []

def enterStop (id : Int) (entry : RouteEntry) : Action Unit := do
  let entry ← liftM (storedEntry (entered (← get) id) entry)
  updateRun id fun row => { row with stops := row.stops ++ [.ofEntry entry] }

def enterStops (id : Int) : List RouteEntry → Action Unit
  | [] => pure ()
  | entry :: rest => do
    enterStop id entry
    enterStops id rest

/-- Enters a run and then its stops, one after the other. A stop that is refused leaves the
run and the stops before it behind. -/
def enterRows (header : RunHeader) (total : Cost) (entries : List RouteEntry) : Action Int := do
  let id ← enterRun header total
  enterStops id entries
  return id

variable {store : Store} {id : Int} {header : RunHeader} {total : Cost}
variable {earlier : List RouteEntry}

theorem entered_withRun (h : store.runs.WellNumbered) (hid : store.runs.lastId < id) :
    entered (store.withRun id header total earlier) id = earlier := by
  unfold entered
  rw [find?_withRun h hid]
  simp [RunRow.ofRoute, Function.comp_def, StopRow.ofEntry]

theorem outcome_updateRun_withRun (h : store.runs.WellNumbered) (hid : store.runs.lastId < id)
    (entry : RouteEntry) :
    (updateRun id fun row => { row with stops := row.stops ++ [.ofEntry entry] }).outcome
        (store.withRun id header total earlier) =
      (.ok (), store.withRun id header total (earlier ++ [entry])) := by
  have hold : store.runs.rows.map (fun row => if row.id = id then
      { row with stops := row.stops ++ [StopRow.ofEntry entry] } else row) = store.runs.rows := by
    refine (List.map_congr_left fun row hrow => ?_).trans (List.map_id _)
    have hle := h row hrow
    exact if_neg (by omega)
  simp [updateRun, withRun, RunBook.update, hold, RunRow.ofRoute]

theorem outcome_enterStop (h : store.runs.WellNumbered) (hid : store.runs.lastId < id)
    (entry : RouteEntry) :
    (enterStop id entry).outcome (store.withRun id header total earlier) =
      match storedEntry earlier entry with
      | .ok entry => (.ok (), store.withRun id header total (earlier ++ [entry]))
      | .error e => (.error e, store.withRun id header total earlier) := by
  unfold enterStop
  rw [outcome_bind, outcome_get]
  dsimp only
  rw [outcome_bind, outcome_liftM, entered_withRun h hid]
  cases storedEntry earlier entry with
  | error e => rfl
  | ok entry' => exact outcome_updateRun_withRun h hid entry'

variable (header total earlier) in
theorem outcome_enterStops (h : store.runs.WellNumbered) (hid : store.runs.lastId < id)
    (entries : List RouteEntry) :
    ∃ left, (enterStops id entries).outcome (store.withRun id header total earlier) =
      match storedEntries earlier entries with
      | .ok stored => (.ok (), store.withRun id header total stored)
      | .error e => (.error e, left) := by
  induction entries generalizing earlier with
  | nil => exact ⟨store, rfl⟩
  | cons entry rest ih =>
    rw [enterStops, outcome_bind, outcome_enterStop h hid, storedEntries]
    cases storedEntry earlier entry with
    | error e => exact ⟨_, rfl⟩
    | ok entry' => exact ih _

theorem outcome_enterRun (header : RunHeader) (total : Cost) (store : Store) :
    (enterRun header total).outcome store =
      match storedCost .runDistance .runDuration total with
      | .ok total =>
        (.ok (store.runs.lastId + 1), store.withRun (store.runs.lastId + 1) header total [])
      | .error e => (.error e, store) := by
  unfold enterRun
  rw [outcome_bind, outcome_liftM]
  cases storedCost .runDistance .runDuration total <;> rfl

/-- Filing a run comes to entering its rows one after the other in a transaction. -/
theorem outcome_insertRun_eq_transaction (h : store.runs.WellNumbered) (header : RunHeader)
    (total : Cost) (entries : List RouteEntry) :
    (insertRun header total entries).outcome store =
      (transaction (enterRows header total entries)).outcome store := by
  rw [outcome_insertRun, outcome_transaction, RunBook.insert, enterRows, outcome_bind,
    outcome_enterRun]
  cases storedCost .runDistance .runDuration total with
  | error e => rfl
  | ok total' =>
    obtain ⟨left, hstops⟩ := outcome_enterStops header total' [] h (Int.lt_succ _) entries
    dsimp only
    rw [outcome_bind, hstops]
    cases storedEntries [] entries <;> rfl

end ServiceRoute.Store
