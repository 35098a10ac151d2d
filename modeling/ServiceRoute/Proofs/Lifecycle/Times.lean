import ServiceRoute.Proofs.Lifecycle.FinishedRuns

/-!
# The times of a run

A run has the time of its first start and the time at which it was closed, and a stop of it the
time at which it was done or skipped. Five columns tell all this, written by different calls, and
yet the times agree with the statuses after any calls. A start time, once it is there, stays.
-/

namespace ServiceRoute.Store

/-- The times that go with a status of the run. -/
def RunRow.TimedAs (row : RunRow) : RunStatus → Prop
  | .planned => row.startedAt = none ∧ row.finishedAt = none
  | .inProgress => row.startedAt.isSome = true ∧ row.finishedAt = none
  | .completed | .finished => row.finishedAt.isSome = true

/-- The times of a run and of its stops agree with their statuses. -/
structure RunRow.Coherent (row : RunRow) : Prop where
  run : ∃ status, row.status = .known status ∧ row.TimedAs status
  stops : ∀ s ∈ row.stops, s.completedAt.isSome = true ↔ s.IsDone

theorem RunRow.TimedAs.finishedAt_eq_none {row : RunRow} {status : RunStatus}
    (timed : row.TimedAs status) (opened : status.isOpen = true) : row.finishedAt = none := by
  cases status with
  | planned => exact timed.2
  | inProgress => exact timed.2
  | completed => cases opened
  | finished => cases opened

section OneCall

theorem RunRow.coherent_ofRoute (id : Int) (header : RunHeader) (total : Cost)
    (entries : List RouteEntry) : (ofRoute id header total entries).Coherent := by
  constructor
  · exact ⟨.planned, rfl, rfl, rfl⟩
  · intro s hs
    obtain ⟨entry, _, rfl⟩ := List.mem_map.mp hs
    simp [StopRow.ofEntry, StopRow.IsDone]

theorem RunRow.Coherent.start {row : RunRow} (h : row.Coherent) (now : String) :
    (row.start now).Coherent := by
  obtain ⟨status, known, timed⟩ := h.run
  rw [RunRow.start, RunRow.isOpen_of_known known]
  split
  · rename_i opened
    exact ⟨⟨.inProgress, rfl, rfl, timed.finishedAt_eq_none opened⟩, h.stops⟩
  · exact h

theorem RunRow.Coherent.finish {row : RunRow} (h : row.Coherent) (now : String) :
    (row.finish now).Coherent :=
  ⟨⟨.completed, rfl, rfl⟩, h.stops⟩

theorem RunRow.Coherent.close {row : RunRow} (h : row.Coherent) (now : String) :
    (row.close now).Coherent :=
  ⟨⟨.finished, rfl, rfl⟩, h.stops⟩

/-- A status that is set writes or clears the time along with it. -/
theorem StopRow.completedAt_setStatus (now : String) (status : StopStatus) (s : StopRow) :
    (s.setStatus now status).completedAt.isSome = true ↔ (s.setStatus now status).IsDone := by
  have known : (s.setStatus now status).status = .known status := rfl
  rw [isDone_iff_isTerminal known, setStatus]
  split <;> simp [*]

theorem RunRow.Coherent.setStopStatus {row : RunRow} (h : row.Coherent) (now : String)
    (stop : StopId) (status : StopStatus) : (row.setStopStatus now stop status).Coherent := by
  constructor
  · exact h.run
  · intro s hs
    obtain ⟨old, hold, rfl⟩ := List.mem_map.mp hs
    split
    · exact old.completedAt_setStatus now status
    · exact h.stops old hold

theorem Call.Effect.coherent {call : Call} {row next : RunRow} (effect : call.Effect row next)
    (h : row.Coherent) : next.Coherent := by
  cases effect with
  | nothing unset => exact h
  | start now proper => exact h.start now
  | finish now proper => exact h.finish now
  | set now stop status proper => exact h.setStopStatus now stop status
  | close now proper closable => exact h.close now

theorem Call.Effect.startedAt {call : Call} {row next : RunRow} (effect : call.Effect row next)
    {time : String} (started : row.startedAt = some time) : next.startedAt = some time := by
  cases effect with
  | nothing unset => exact started
  | start now proper =>
    unfold RunRow.start
    split
    · simp [started]
    · exact started
  | finish now proper => exact started
  | set now stop status proper => exact started
  | close now proper closable => exact started

end OneCall

section Calls

theorem coherent_afterCalls (calls : List Call) {id : Int} {row : RunRow}
    (found : (empty.afterCalls calls).runs.find? id = some row) : row.Coherent :=
  holds_afterCalls RunRow.coherent_ofRoute Call.Effect.coherent calls found

theorem startedAt_afterCalls {s : Store} {id : Int} {row : RunRow} {time : String}
    (found : s.runs.find? id = some row) (started : row.startedAt = some time)
    (calls : List Call) :
    ∃ row', (s.afterCalls calls).runs.find? id = some row' ∧ row'.startedAt = some time := by
  induction calls generalizing s row with
  | nil => exact ⟨row, found, started⟩
  | cons call rest ih =>
    exact ih (find?_afterCalls found [call]) ((call.effect_onRun row).startedAt started)

end Calls

/-- Whatever a store that started empty was called for, a planned run has neither a start nor a
finish, one in progress has a start and no finish, a closed one has a finish, and the stops with a
time are those done or skipped. Whatever it is called for next, a run that has a start time keeps
that time. -/
theorem times_agree_with_status (calls : List Call) :
    (∀ row ∈ (empty.afterCalls calls).runs.rows, row.Coherent) ∧
      ∀ later id row time, (empty.afterCalls calls).runs.find? id = some row →
        row.startedAt = some time →
        ∃ row', (empty.afterCalls (calls ++ later)).runs.find? id = some row' ∧
          row'.startedAt = some time := by
  constructor
  · intro row hrow
    have distinct := (Reachable.empty.afterCalls calls).distinct
    exact coherent_afterCalls calls (RunBook.find?_of_mem distinct hrow)
  · intro later id row time found started
    rw [afterCalls_append]
    exact startedAt_afterCalls found started later

/-! A run that is started twice, with its only stop done, reopened and skipped. -/

namespace Detour

def calls : List Call :=
  [.perform (.insertRun Shift.header ⟨200, 20⟩ [Shift.entry]) rfl,
    .perform (.startRun "08:00" 1) rfl, .perform (.setStopStatus "08:12" 1 "A" .done) rfl]

def later : List Call :=
  [.perform (.startRun "08:20" 1) rfl, .perform (.setStopStatus "08:32" 1 "A" .pending) rfl,
    .perform (.setStopStatus "08:40" 1 "A" .skipped) rfl,
    .perform (.completeIfAllTerminal "08:50" 1) rfl]

def row : RunRow :=
  ⟨1, Shift.header, .known .inProgress, ⟨200, 20⟩, some "08:00", none,
    [⟨Shift.entry, .known .done, some "08:12"⟩]⟩

theorem rows : (empty.afterCalls calls).runs.rows = [row] := by
  decide

theorem found : (empty.afterCalls calls).runs.find? 1 = some row := by
  decide

end Detour

theorem times_agree_with_status_detour :
    Detour.row ∈ (empty.afterCalls Detour.calls).runs.rows ∧ Detour.row.Coherent ∧
      (empty.afterCalls Detour.calls).runs.find? 1 = some Detour.row ∧
      Detour.row.startedAt = some "08:00" ∧
      ∃ row', (empty.afterCalls (Detour.calls ++ Detour.later)).runs.find? 1 = some row' ∧
        row'.startedAt = some "08:00" := by
  obtain ⟨coherent, kept⟩ := times_agree_with_status Detour.calls
  have hrow : Detour.row ∈ (empty.afterCalls Detour.calls).runs.rows := by
    rw [Detour.rows]
    exact List.mem_singleton_self _
  exact ⟨hrow, coherent _ hrow, Detour.found, rfl,
    kept Detour.later 1 Detour.row "08:00" Detour.found rfl⟩

end ServiceRoute.Store
