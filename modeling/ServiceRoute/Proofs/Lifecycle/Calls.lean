import ServiceRoute.Proofs.RoutePlanner.Atomicity
import ServiceRoute.Proofs.Store.History
import ServiceRoute.Proofs.Store.Operations

/-!
# The life of a run

A store in service is called: it performs its operations, it is read, and routes are planned over
it. No call edits a column past the operations. What a call does to a run depends on the call and
the run alone, so the life of a run is told by the calls, from the row it was entered with.
-/

namespace ServiceRoute.Store

open Store.Action RoutePlanner

/-- Whether an operation writes a column past the others. -/
def Operation.isEdit : Operation → Bool
  | editRunStatus .. | editStartedAt .. | editFinishedAt .. | editStopStatus .. | editCompletedAt ..
  | editOverrideKind .. => true
  | upsertBase .. | upsertStop .. | upsertRisk .. | addOverride .. | deleteOverride ..
  | insertRun .. | startRun .. | finishRun .. | setStopStatus .. | completeIfAllTerminal .. => false

/-- What a store in service is asked. -/
inductive Call : Type 1 where
  | perform (op : Operation) (proper : op.isEdit = false)
  | overridesForPool (pool : String)
  | loadRun (id : Int)
  | openRuns (date : String)
  | plan {σ : Type} (oracle : CostOracle σ) (announce : Stage → List Waypoint → Planning σ Unit)
      (schedule : Schedule) (options : PlannerOptions) (request : RouteRequest) (world : σ)

def Call.after : Call → Store → Store
  | perform op _, s => op.after s
  | overridesForPool pool, s => ((Store.overridesForPool pool).outcome s).2
  | loadRun id, s => ((Store.loadRun id).outcome s).2
  | openRuns date, s => ((Store.openRuns date).outcome s).2
  | plan oracle announce schedule options request world, s =>
    ((createRun (services oracle announce schedule) options request).outcome (s, world)).2.1

def afterCalls (store : Store) (calls : List Call) : Store :=
  calls.foldl (fun s call => call.after s) store

@[simp] theorem afterCalls_nil (store : Store) : store.afterCalls [] = store := rfl

@[simp] theorem afterCalls_cons (store : Store) (call : Call) (calls : List Call) :
    store.afterCalls (call :: calls) = (call.after store).afterCalls calls := rfl

theorem afterCalls_append (store : Store) (calls calls' : List Call) :
    store.afterCalls (calls ++ calls') = (store.afterCalls calls).afterCalls calls' := by
  simp [afterCalls]

theorem afterCalls_concat (store : Store) (calls : List Call) (call : Call) :
    store.afterCalls (calls ++ [call]) = call.after (store.afterCalls calls) := by
  simp [afterCalls_append]

theorem Call.after_plan {σ : Type} (oracle : CostOracle σ)
    (announce : Stage → List Waypoint → Planning σ Unit) (schedule : Schedule)
    (options : PlannerOptions) (request : RouteRequest) (world : σ) (s : Store) :
    (plan oracle announce schedule options request world).after s = s ∨
      ∃ total entries, (plan oracle announce schedule options request world).after s =
        (Operation.insertRun request.header total entries).after s := by
  rw [after, createRun_eq, createRunWith, Planning.outcome_bind]
  cases hdraft : (draft (services oracle announce schedule) options request
      (cachedPolish (services oracle announce schedule) options)).outcome (s, world) with
  | mk drafted left =>
    obtain ⟨store, world'⟩ := left
    obtain rfl : store = s := draft_keeps_store hdraft
    cases drafted with
    | error e => exact Or.inl rfl
    | ok drafted =>
      right
      refine ⟨drafted.route.total, drafted.route.entries, ?_⟩
      cases hfile : (fileDraft (services oracle announce schedule) request drafted).outcome
          (store, world') with
      | mk answer filed =>
        dsimp only
        rw [hfile]
        exact store_of_fileDraft hfile

/-- A call that performs no operation leaves the store alone, or files a run. -/
theorem Call.after_of_not_perform {call : Call} (other : ∀ op proper, call ≠ perform op proper)
    (s : Store) :
    call.after s = s ∨ ∃ header total entries,
      call.after s = (Operation.insertRun header total entries).after s := by
  cases call with
  | perform op proper => exact absurd rfl (other op proper)
  | overridesForPool pool =>
    left
    rw [after, outcome_overridesForPool]
  | loadRun id =>
    left
    rw [after, outcome_loadRun]
  | openRuns date =>
    left
    rw [after, outcome_openRuns]
  | plan oracle announce schedule options request world =>
    rcases after_plan oracle announce schedule options request world s with
      same | ⟨total, entries, filed⟩
    · exact .inl same
    · exact .inr ⟨request.header, total, entries, filed⟩

theorem Reachable.afterCall {s : Store} (h : Reachable s) (call : Call) :
    Reachable (call.after s) := by
  by_cases performs : ∃ op proper, call = .perform op proper
  · obtain ⟨op, proper, rfl⟩ := performs
    exact h.next op
  · rcases call.after_of_not_perform (fun op proper same => performs ⟨op, proper, same⟩) s with
      same | ⟨header, total, entries, filed⟩
    · rwa [same]
    · rw [filed]
      exact h.next _

theorem Reachable.afterCalls {s : Store} (h : Reachable s) (calls : List Call) :
    Reachable (s.afterCalls calls) := by
  induction calls generalizing s with
  | nil => exact h
  | cons call rest ih => exact ih (h.afterCall call)

section OneRun

def Operation.onRun : Operation → RunRow → RunRow
  | startRun now id, row => if row.id = id then row.start now else row
  | finishRun now id, row => if row.id = id then row.finish now else row
  | setStopStatus now id stop status, row =>
    if row.id = id then row.setStopStatus now stop status else row
  | completeIfAllTerminal now id, row => if row.id = id ∧ row.canClose then row.close now else row
  | _, row => row

def Call.onRun : Call → RunRow → RunRow
  | perform op _, row => op.onRun row
  | _, row => row

/-- The status that a call gives the stop of a run. -/
def Call.setting? (id : Int) (stop : StopId) : Call → Option StopStatus
  | perform (.setStopStatus _ run target status) _ =>
    if run = id ∧ target = stop then some status else none
  | _ => none

/-- What a call can do to a run: nothing, or what one of four operations does to the run that it
names. -/
inductive Call.Effect (row : RunRow) : Call → RunRow → Prop
  | nothing {call : Call} (unset : ∀ stop, call.setting? row.id stop = none) : Effect row call row
  | start (now : String) (proper : (Operation.startRun now row.id).isEdit = false) :
    Effect row (.perform (.startRun now row.id) proper) (row.start now)
  | finish (now : String) (proper : (Operation.finishRun now row.id).isEdit = false) :
    Effect row (.perform (.finishRun now row.id) proper) (row.finish now)
  | set (now : String) (stop : StopId) (status : StopStatus)
      (proper : (Operation.setStopStatus now row.id stop status).isEdit = false) :
    Effect row (.perform (.setStopStatus now row.id stop status) proper)
      (row.setStopStatus now stop status)
  | close (now : String) (proper : (Operation.completeIfAllTerminal now row.id).isEdit = false)
      (closable : row.canClose = true) :
    Effect row (.perform (.completeIfAllTerminal now row.id) proper) (row.close now)

theorem Call.effect_onRun (call : Call) (row : RunRow) : call.Effect row (call.onRun row) := by
  cases call with
  | perform op proper =>
    rw [onRun]
    cases op with
    | startRun now id =>
      rw [Operation.onRun]
      split
      · subst id
        exact .start now proper
      · exact .nothing fun _ => rfl
    | finishRun now id =>
      rw [Operation.onRun]
      split
      · subst id
        exact .finish now proper
      · exact .nothing fun _ => rfl
    | setStopStatus now id stop status =>
      rw [Operation.onRun]
      split
      · subst id
        exact .set now stop status proper
      · rename_i other
        exact .nothing fun _ => if_neg fun addressed => other addressed.1.symm
    | completeIfAllTerminal now id =>
      rw [Operation.onRun]
      split
      · rename_i closed
        obtain ⟨rfl, closable⟩ := closed
        exact .close now proper closable
      · exact .nothing fun _ => rfl
    | _ => exact .nothing fun _ => rfl
  | _ => exact .nothing fun _ => rfl

/-- What starting, finishing, closing and setting the status of a stop keep, a call keeps. -/
theorem Call.Effect.keeps {α : Type} (column : RunRow → α)
    (start : ∀ now row, column (row.start now) = column row)
    (finish : ∀ now row, column (row.finish now) = column row)
    (set : ∀ now stop status row, column (row.setStopStatus now stop status) = column row)
    (close : ∀ now row, column (row.close now) = column row)
    {call : Call} {row next : RunRow} (h : call.Effect row next) : column next = column row := by
  cases h with
  | nothing unset => rfl
  | start now proper => exact start now row
  | finish now proper => exact finish now row
  | set now stop status proper => exact set now stop status row
  | close now proper closable => exact close now row

theorem RunRow.id_finish (now : String) (row : RunRow) : (row.finish now).id = row.id := rfl

theorem RunRow.id_setStopStatus (now : String) (stop : StopId) (status : StopStatus)
    (row : RunRow) : (row.setStopStatus now stop status).id = row.id := rfl

theorem RunRow.id_close (now : String) (row : RunRow) : (row.close now).id = row.id := rfl

theorem Call.id_onRun (call : Call) (row : RunRow) : (call.onRun row).id = row.id :=
  (call.effect_onRun row).keeps (·.id) RunRow.id_start RunRow.id_finish RunRow.id_setStopStatus
    RunRow.id_close

theorem RunBook.find?_update (book : RunBook) (id other : Int) {f : RunRow → RunRow}
    (h : ∀ row, (f row).id = row.id) :
    (book.update id f).find? other =
      (book.find? other).map fun row => if row.id = id then f row else row := by
  have kept : ∀ row : RunRow, (if row.id = id then f row else row).id = row.id := by
    intro row
    split
    · exact h row
    · rfl
  have wanted : (fun row : RunRow => decide (row.id = other)) ∘
      (fun row => if row.id = id then f row else row) = fun row => decide (row.id = other) :=
    funext fun row => congrArg (fun found => decide (found = other)) (kept row)
  rw [find?, update, List.find?_map, wanted, find?]

theorem RunRow.setStopStatus_of_absent {row : RunRow} {stop : StopId}
    (absent : ¬ row.stops.any (·.entry.stop = stop)) (now : String) (status : StopStatus) :
    row.setStopStatus now stop status = row := by
  have same : row.stops.map (fun s => if s.entry.stop = stop then s.setStatus now status else s) =
      row.stops := by
    refine (List.map_congr_left fun s hs => ?_).trans (List.map_id _)
    have other : s.entry.stop ≠ stop := by
      intro equal
      exact absent (List.any_eq_true.mpr ⟨s, hs, by simp [equal]⟩)
    simp [other]
  unfold setStopStatus
  rw [same]

theorem RunBook.id_of_find? {book : RunBook} {id : Int} {row : RunRow}
    (found : book.find? id = some row) : row.id = id := by
  simpa using List.find?_some found

/-- The later book has every run of the earlier one, rewritten, and perhaps one that was entered. -/
def RunBook.Follows (f : RunRow → RunRow) (book book' : RunBook) : Prop :=
  ∀ id, book'.find? id = (book.find? id).map f ∨
    book.find? id = none ∧
      ∃ header total entries, book'.find? id = some (.ofRoute id header total entries)

theorem RunBook.follows_refl (book : RunBook) : book.Follows (fun row => row) book := by
  intro id
  left
  simp

theorem RunBook.follows_insert {book book' : RunBook} {header : RunHeader} {total : Cost}
    {entries : List RouteEntry} {id : Int}
    (h : book.insert header total entries = .ok (id, book')) :
    book.Follows (fun row => row) book' := by
  obtain ⟨total', entries', _, _, rfl, rfl⟩ := insert_eq_ok h
  intro other
  cases found : book.find? other with
  | some row =>
    simp only [find?] at found
    left
    simp [find?, List.find?_append, found]
  | none =>
    simp only [find?] at found
    by_cases same : book.lastId + 1 = other
    · right
      refine ⟨rfl, header, total', entries', ?_⟩
      simp [find?, List.find?_append, found, RunRow.ofRoute, same]
    · left
      simp [find?, List.find?_append, found, RunRow.ofRoute, same]

theorem RunBook.follows_update (book : RunBook) (id : Int) {f : RunRow → RunRow}
    (h : ∀ row, (f row).id = row.id) :
    book.Follows (fun row => if row.id = id then f row else row) (book.update id f) := by
  intro other
  left
  exact find?_update book id other h

theorem RunBook.follows_update_if (book : RunBook) (id : Int) (p : RunRow → Bool)
    {f g : RunRow → RunRow} (h : ∀ row, (f row).id = row.id)
    (here : ∀ row, row.id = id → g row = if p row then f row else row)
    (elsewhere : ∀ row, row.id ≠ id → g row = row) :
    book.Follows g (if (book.find? id).any p then book.update id f else book) := by
  intro other
  left
  cases found : book.find? other with
  | none =>
    split
    · rw [find?_update book id other h, found]
      rfl
    · exact found
  | some row =>
    have same := id_of_find? found
    by_cases addressed : row.id = id
    · have other_eq : other = id := same.symm.trans addressed
      rw [← other_eq, found, Option.any_some, Option.map_some, here row addressed]
      split
      · rw [find?_update book other other h, found, Option.map_some, if_pos same]
      · exact found
    · rw [Option.map_some, elsewhere row addressed]
      split
      · rw [find?_update book id other h, found, Option.map_some, if_neg addressed]
      · exact found

theorem Operation.onRun_of_ne {op : Operation} (other : op.part ≠ .runs) (row : RunRow) :
    op.onRun row = row := by
  cases op with
  | startRun => exact absurd rfl other
  | finishRun => exact absurd rfl other
  | setStopStatus => exact absurd rfl other
  | completeIfAllTerminal => exact absurd rfl other
  | _ => rfl

section Follows

variable (s : Store)

theorem follows_insertRun (header : RunHeader) (total : Cost) (entries : List RouteEntry) :
    s.runs.Follows (fun row => row) ((insertRun header total entries).outcome s).2.runs := by
  rw [outcome_insertRun]
  cases hinsert : s.runs.insert header total entries with
  | error e => exact s.runs.follows_refl
  | ok inserted => exact RunBook.follows_insert hinsert

theorem follows_startRun (now : String) (id : Int) :
    s.runs.Follows (Operation.startRun now id).onRun ((startRun now id).outcome s).2.runs := by
  rw [outcome_startRun]
  exact s.runs.follows_update id (RunRow.id_start now)

theorem follows_finishRun (now : String) (id : Int) :
    s.runs.Follows (Operation.finishRun now id).onRun ((finishRun now id).outcome s).2.runs := by
  rw [outcome_finishRun]
  exact s.runs.follows_update id (RunRow.id_finish now)

theorem follows_setStopStatus (now : String) (id : Int) (stop : StopId) (status : StopStatus) :
    s.runs.Follows (Operation.setStopStatus now id stop status).onRun
      ((setStopStatus now id stop status).outcome s).2.runs := by
  have runs : ((setStopStatus now id stop status).outcome s).2.runs =
      if (s.runs.find? id).any (·.stops.any (·.entry.stop = stop)) then
        s.runs.update id (.setStopStatus now stop status) else s.runs := by
    rw [outcome_setStopStatus]
    split <;> rfl
  rw [runs]
  apply s.runs.follows_update_if id _ (RunRow.id_setStopStatus now stop status)
  · intro row addressed
    rw [Operation.onRun, if_pos addressed]
    split
    · rfl
    · rename_i absent
      exact RunRow.setStopStatus_of_absent absent now status
  · intro row other
    rw [Operation.onRun, if_neg other]

theorem follows_completeIfAllTerminal (now : String) (id : Int) :
    s.runs.Follows (Operation.completeIfAllTerminal now id).onRun
      ((completeIfAllTerminal now id).outcome s).2.runs := by
  have runs : ((completeIfAllTerminal now id).outcome s).2.runs =
      if (s.runs.find? id).any (·.canClose) then s.runs.update id (.close now) else s.runs := by
    rw [outcome_completeIfAllTerminal]
    split <;> rfl
  rw [runs]
  apply s.runs.follows_update_if id (·.canClose) (RunRow.id_close now)
  · intro row addressed
    simp [Operation.onRun, addressed]
  · intro row other
    simp [Operation.onRun, other]

/-- What an operation does to the runs it finds, and to the book. -/
theorem Operation.follows_after (op : Operation) (proper : op.isEdit = false) :
    s.runs.Follows op.onRun (op.after s).runs := by
  by_cases runs : op.part = .runs
  · cases op with
    | insertRun header total entries => exact follows_insertRun s header total entries
    | startRun now id => exact follows_startRun s now id
    | finishRun now id => exact follows_finishRun s now id
    | setStopStatus now id stop status => exact follows_setStopStatus s now id stop status
    | completeIfAllTerminal now id => exact follows_completeIfAllTerminal s now id
    | editRunStatus id text => cases proper
    | editStartedAt id time => cases proper
    | editFinishedAt id time => cases proper
    | editStopStatus stop text => cases proper
    | editCompletedAt stop time => cases proper
    | _ => cases runs
  · rw [(op.differsIn_after s).runs_eq runs, funext (onRun_of_ne runs)]
    exact s.runs.follows_refl

end Follows

theorem Call.onRun_of_not_perform {call : Call}
    (other : ∀ op proper, call ≠ perform op proper) (row : RunRow) : call.onRun row = row := by
  cases call with
  | perform op proper => exact absurd rfl (other op proper)
  | _ => rfl

theorem Call.follows_after (call : Call) (s : Store) :
    s.runs.Follows call.onRun (call.after s).runs := by
  by_cases performs : ∃ op proper, call = perform op proper
  · obtain ⟨op, proper, rfl⟩ := performs
    exact op.follows_after s proper
  · have other : ∀ op proper, call ≠ perform op proper :=
      fun op proper same => performs ⟨op, proper, same⟩
    rw [funext (onRun_of_not_perform other)]
    rcases after_of_not_perform other s with same | ⟨header, total, entries, filed⟩
    · rw [same]
      exact s.runs.follows_refl
    · rw [filed]
      exact follows_insertRun s header total entries

theorem find?_afterCalls {s : Store} {id : Int} {row : RunRow}
    (found : s.runs.find? id = some row) (calls : List Call) :
    (s.afterCalls calls).runs.find? id =
      some (calls.foldl (fun row call => call.onRun row) row) := by
  induction calls generalizing s row with
  | nil => exact found
  | cons call rest ih =>
    have next : (call.after s).runs.find? id = some (call.onRun row) := by
      rcases call.follows_after s id with kept | ⟨absent, _⟩
      · rw [kept, found]
        rfl
      · rw [found] at absent
        cases absent
    exact ih next

end OneRun

end ServiceRoute.Store
