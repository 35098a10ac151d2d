import ServiceRoute.Proofs.Store.Outcome

/-!
# Operations one by one

What each operation of the store answers and what it leaves. Later proofs cite these equations and
do not open an operation again.
-/

namespace ServiceRoute.Store

open Store.Action

variable {α : Type} (s : Store)

theorem outcome_ask (question : Store → Except StoreError α) :
    (do liftM (question (← get)) : Action α).outcome s = (question s, s) := by
  rw [outcome_bind, outcome_get]
  dsimp only
  rw [outcome_liftM]

theorem outcome_upsertBase (id : String) (location : Coordinate) (active : Bool) :
    (upsertBase id location active).outcome s =
      match storedLocation .baseLon .baseLat location with
      | .ok location => (.ok (), { s with bases := putBase s.bases ⟨id, location, active⟩ })
      | .error e => (.error e, s) := by
  rw [upsertBase, outcome_bind, outcome_liftM]
  cases storedLocation .baseLon .baseLat location <;> rfl

theorem outcome_upsertRisk (id : StopId) (risk : RiskScores) :
    (upsertRisk id risk).outcome s =
      match s.catalog.putRisk id risk with
      | .ok catalog => (.ok (), { s with catalog })
      | .error e => (.error e, s) := by
  rw [upsertRisk, outcome_bind, outcome_get]
  dsimp only
  rw [outcome_bind, outcome_liftM]
  cases s.catalog.putRisk id risk <;> rfl

/-- The stop is put in first. Its snapshot may be refused after that. -/
theorem outcome_upsertStop (pool : String) (stop : Stop) :
    (upsertStop pool stop).outcome s =
      match s.catalog.putStop pool stop with
      | .ok catalog =>
        match stop.risk with
        | some risk => (upsertRisk stop.id risk).outcome { s with catalog }
        | none => (.ok (), { s with catalog })
      | .error e => (.error e, s) := by
  rw [upsertStop, outcome_bind, outcome_get]
  dsimp only
  rw [outcome_bind, outcome_liftM]
  cases s.catalog.putStop pool stop with
  | error e => rfl
  | ok catalog =>
    dsimp only
    rw [outcome_bind, outcome_modify]
    cases stop.risk <;> rfl

theorem outcome_addOverride (o : Override) (author : String) :
    (addOverride o author).outcome s =
      (.ok (s.overrides.lastId + 1), { s with overrides := s.overrides.add o author }) := rfl

theorem outcome_deleteOverride (id : Int) :
    (deleteOverride id).outcome s =
      (.ok (s.overrides.delete id).1, { s with overrides := (s.overrides.delete id).2 }) := rfl

theorem outcome_updateRun (id : Int) (f : RunRow → RunRow) :
    (updateRun id f).outcome s = (.ok (), { s with runs := s.runs.update id f }) := rfl

theorem outcome_startRun (now : String) (id : Int) :
    (startRun now id).outcome s =
      ((s.runs.update id (.start now)).require id,
        { s with runs := s.runs.update id (.start now) }) := by
  rw [startRun, outcome_bind, outcome_updateRun]
  exact outcome_ask _ (·.runs.require id)

theorem outcome_finishRun (now : String) (id : Int) :
    (finishRun now id).outcome s =
      ((s.runs.update id (.finish now)).require id,
        { s with runs := s.runs.update id (.finish now) }) := by
  rw [finishRun, outcome_bind, outcome_updateRun]
  exact outcome_ask _ (·.runs.require id)

theorem outcome_setStopStatus (now : String) (id : Int) (stop : StopId) (status : StopStatus) :
    (setStopStatus now id stop status).outcome s =
      if (s.runs.find? id).any (·.stops.any (·.entry.stop = stop)) then
        (.ok (), { s with runs := s.runs.update id (.setStopStatus now stop status) })
      else (.error (.stopNotInRun id stop), s) := by
  rw [setStopStatus, outcome_bind, outcome_get]
  dsimp only
  split
  · rw [outcome_updateRun]
  · rw [outcome_throw]

theorem outcome_completeIfAllTerminal (now : String) (id : Int) :
    (completeIfAllTerminal now id).outcome s =
      if (s.runs.find? id).any (·.canClose) then
        (.ok true, { s with runs := s.runs.update id (.close now) })
      else (.ok false, s) := by
  rw [completeIfAllTerminal, outcome_bind, outcome_get]
  dsimp only
  split
  · rw [outcome_bind, outcome_updateRun]
    rfl
  · rw [outcome_pure]

theorem outcome_loadRun (id : Int) : (loadRun id).outcome s = (s.runs.load id, s) :=
  outcome_ask s (·.runs.load id)

theorem outcome_openRuns (date : String) : (openRuns date).outcome s = (s.runs.openRuns date, s) :=
  outcome_ask s (·.runs.openRuns date)

theorem outcome_overridesForPool (pool : String) :
    (overridesForPool pool).outcome s = (s.overrides.forPool pool, s) :=
  outcome_ask s (·.overrides.forPool pool)

end ServiceRoute.Store
