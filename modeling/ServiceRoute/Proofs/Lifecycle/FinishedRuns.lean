import Mathlib.Data.List.Induction
import ServiceRoute.Proofs.Lifecycle.ClosedRuns
import ServiceRoute.Proofs.Selection.FirstOccurrence

/-!
# Finished runs

Only the check of its stops makes a run finished, and when it does no stop waits for work. The
status of a stop can still be set afterwards. So a stop of a finished run has the status that it
was last given since the check, and is done or skipped if it was given none.
-/

namespace ServiceRoute.Store

/-- The stop was served or left out. -/
def StopRow.IsDone (s : StopRow) : Prop :=
  s.status = .known .done ∨ s.status = .known .skipped

/-- Nothing is left to do, and something was done. -/
structure RunRow.WorkDone (row : RunRow) : Prop where
  none_open : ∀ s ∈ row.stops, s.status ≠ .known .pending ∧ s.status ≠ .known .inProgress
  some_done : ∃ s ∈ row.stops, s.IsDone

def RunRow.Legible (row : RunRow) : Prop :=
  ∀ s ∈ row.stops, ∃ status, s.status = .known status

theorem isTerminal_iff {status : StopStatus} :
    status.isTerminal = true ↔ status = .done ∨ status = .skipped := by
  cases status <;> simp [StopStatus.isTerminal]

theorem StopRow.isDone_iff_isTerminal {s : StopRow} {status : StopStatus}
    (known : s.status = .known status) : s.IsDone ↔ status.isTerminal = true := by
  simp [IsDone, known, isTerminal_iff]

theorem StopRow.IsDone.not_open {s : StopRow} (done : s.IsDone) :
    s.status ≠ .known .pending ∧ s.status ≠ .known .inProgress := by
  rcases done with status | status <;> simp [status]

theorem RunRow.WorkDone.isDone {row : RunRow} (h : row.WorkDone) (legible : row.Legible)
    {s : StopRow} (hs : s ∈ row.stops) : s.IsDone := by
  obtain ⟨status, known⟩ := legible s hs
  have shut := h.none_open s hs
  cases status <;> simp_all [StopRow.IsDone]

/-- The check closes a run only if its work is done. -/
theorem RunRow.workDone_of_canClose {row : RunRow} (closable : row.canClose = true) :
    row.WorkDone := by
  simp only [canClose, allTerminal, Bool.and_eq_true, Bool.not_eq_true'] at closable
  obtain ⟨⟨noneOpen, someDone⟩, _⟩ := closable
  rw [List.any_eq_false] at noneOpen
  obtain ⟨s, hs, terminal⟩ := List.any_eq_true.mp someDone
  constructor
  · intro t ht
    have closed := noneOpen t ht
    constructor <;> intro status <;> simp [status, Recorded.value?, StopStatus.isTerminal] at closed
  · refine ⟨s, hs, ?_⟩
    cases status : s.status with
    | known value =>
      rw [StopRow.isDone_iff_isTerminal status]
      simpa [status, Recorded.value?] using terminal
    | unknown text => simp [status, Recorded.value?] at terminal

section Settings

def lastSetting? (id : Int) (stop : StopId) (calls : List Call) : Option StopStatus :=
  (calls.filterMap (·.setting? id stop)).getLast?

theorem lastSetting?_concat (id : Int) (stop : StopId) (calls : List Call) (call : Call) :
    lastSetting? id stop (calls ++ [call]) =
      (call.setting? id stop).or (lastSetting? id stop calls) := by
  cases set : call.setting? id stop with
  | none => simp [lastSetting?, set]
  | some status => simp [lastSetting?, set]

theorem RunRow.stops_start (now : String) (row : RunRow) : (row.start now).stops = row.stops := by
  unfold start
  split <;> rfl

theorem Call.Effect.stops {call : Call} {row next : RunRow} (h : call.Effect row next)
    {s : StopRow} (hs : s ∈ next.stops) :
    (call.setting? row.id s.entry.stop = none ∧ s ∈ row.stops) ∨
      ∃ status, call.setting? row.id s.entry.stop = some status ∧ s.status = .known status := by
  cases h with
  | nothing unset => exact Or.inl ⟨unset _, hs⟩
  | start now proper =>
    left
    rw [RunRow.stops_start] at hs
    exact ⟨rfl, hs⟩
  | finish now proper => exact Or.inl ⟨rfl, hs⟩
  | set now stop status proper =>
    obtain ⟨old, hold, rfl⟩ := List.mem_map.mp hs
    by_cases target : old.entry.stop = stop
    · right
      refine ⟨status, ?_, ?_⟩ <;> simp [setting?, target, StopRow.setStatus]
    · left
      simp only [if_neg target]
      exact ⟨by simp [setting?, Ne.symm target], hold⟩
  | close now proper closable => exact Or.inl ⟨rfl, hs⟩

theorem Call.length_stops_onRun (call : Call) (row : RunRow) :
    (call.onRun row).stops.length = row.stops.length :=
  (call.effect_onRun row).keeps (·.stops.length) (fun now row => congrArg _ (row.stops_start now))
    (fun _ _ => rfl) (fun _ _ _ _ => List.length_map _) (fun _ _ => rfl)

theorem Call.Effect.of_finished {call : Call} {row next : RunRow} (h : call.Effect row next)
    (finished : next.status = .known .finished) :
    row.status = .known .finished ∨
      ∃ now proper, call = .perform (.completeIfAllTerminal now row.id) proper ∧
        row.canClose = true ∧ next = row.close now := by
  cases h with
  | nothing unset => exact Or.inl finished
  | start now proper =>
    left
    rw [RunRow.start] at finished
    split at finished
    · cases finished
    · exact finished
  | finish now proper => cases finished
  | set now stop status proper => exact Or.inl finished
  | close now proper closable => exact Or.inr ⟨now, proper, rfl, closable, rfl⟩

end Settings

section Since

/-- The run was closed with its work done, and then only the given calls were made. -/
structure RunRow.ClosedSince (row : RunRow) (later : List Call) : Prop where
  stops_ne_nil : row.stops ≠ []
  set : ∀ s ∈ row.stops, ∀ status,
    lastSetting? row.id s.entry.stop later = some status → s.status = .known status
  unset : ∀ s ∈ row.stops, lastSetting? row.id s.entry.stop later = none → s.IsDone

theorem RunRow.ClosedSince.concat {row : RunRow} {later : List Call} (h : row.ClosedSince later)
    (call : Call) : (call.onRun row).ClosedSince (later ++ [call]) := by
  constructor
  · intro empty
    have length := call.length_stops_onRun row
    rw [empty, List.length_nil] at length
    exact h.stops_ne_nil (List.length_eq_zero_iff.mp length.symm)
  · intro s hs status last
    rw [call.id_onRun, lastSetting?_concat] at last
    rcases (call.effect_onRun row).stops hs with ⟨unset, old⟩ | ⟨given, set, known⟩
    · rw [unset, Option.none_or] at last
      exact h.set s old status last
    · rw [set, Option.some_or] at last
      rw [known, Option.some.inj last]
  · intro s hs last
    rw [call.id_onRun, lastSetting?_concat] at last
    rcases (call.effect_onRun row).stops hs with ⟨unset, old⟩ | ⟨given, set, _⟩
    · rw [unset, Option.none_or] at last
      exact h.unset s old last
    · rw [set, Option.some_or] at last
      cases last

theorem RunRow.closedSince_close {row : RunRow} (closable : row.canClose = true)
    (legible : row.Legible) (now : String) : (row.close now).ClosedSince [] := by
  have done := workDone_of_canClose closable
  constructor
  · obtain ⟨s, hs, _⟩ := done.some_done
    exact List.ne_nil_of_mem hs
  · intro s _ status last
    cases last
  · intro s hs _
    exact done.isDone legible hs

theorem RunRow.ClosedSince.workDone_iff {row : RunRow} {later : List Call}
    (h : row.ClosedSince later) :
    row.WorkDone ↔ ∀ s ∈ row.stops, ∀ status,
      lastSetting? row.id s.entry.stop later = some status → status.isTerminal = true := by
  constructor
  · intro done s hs status last
    have known := h.set s hs status last
    have shut := done.none_open s hs
    cases status <;> simp_all [StopStatus.isTerminal]
  · intro terminal
    have allDone : ∀ s ∈ row.stops, s.IsDone := by
      intro s hs
      cases last : lastSetting? row.id s.entry.stop later with
      | none => exact h.unset s hs last
      | some status =>
        rw [StopRow.isDone_iff_isTerminal (h.set s hs status last)]
        exact terminal s hs status last
    constructor
    · intro s hs
      exact (allDone s hs).not_open
    · obtain ⟨s, hs⟩ := List.exists_mem_of_ne_nil _ h.stops_ne_nil
      exact ⟨s, hs, allDone s hs⟩

end Since

section Runs

/-- A run after a call: the run that was there, rewritten, or one that was entered. -/
theorem Call.find?_after {call : Call} {s : Store} {id : Int} {row : RunRow}
    (found : (call.after s).runs.find? id = some row) :
    (∃ old, s.runs.find? id = some old ∧ row = call.onRun old) ∨
      ∃ header total entries, row = .ofRoute id header total entries := by
  rcases call.follows_after s id with kept | ⟨_, header, total, entries, entered⟩
  · left
    rw [kept] at found
    obtain ⟨old, hold, rfl⟩ := Option.map_eq_some_iff.mp found
    exact ⟨old, hold, rfl⟩
  · right
    rw [entered] at found
    exact ⟨header, total, entries, (Option.some.inj found).symm⟩

theorem RunRow.legible_ofRoute (id : Int) (header : RunHeader) (total : Cost)
    (entries : List RouteEntry) : (ofRoute id header total entries).Legible := by
  intro s hs
  obtain ⟨entry, _, rfl⟩ := List.mem_map.mp hs
  exact ⟨.pending, rfl⟩

/-- What runs have when they are entered and every call keeps, they have at all times. -/
theorem holds_afterCalls {P : RunRow → Prop}
    (entered : ∀ id header total entries, P (.ofRoute id header total entries))
    (kept : ∀ {call : Call} {row next : RunRow}, call.Effect row next → P row → P next)
    (calls : List Call) {id : Int} {row : RunRow}
    (found : (empty.afterCalls calls).runs.find? id = some row) : P row := by
  induction calls using List.reverseRecOn generalizing row with
  | nil => cases found
  | append_singleton calls call ih =>
    rw [afterCalls_concat] at found
    rcases Call.find?_after found with ⟨old, hold, rfl⟩ | ⟨header, total, entries, rfl⟩
    · exact kept (call.effect_onRun old) (ih hold)
    · exact entered id header total entries

theorem Call.Effect.legible {call : Call} {row next : RunRow} (effect : call.Effect row next)
    (h : row.Legible) : next.Legible := by
  intro s hs
  rcases effect.stops hs with ⟨_, kept⟩ | ⟨status, _, known⟩
  · exact h s kept
  · exact ⟨status, known⟩

theorem legible_afterCalls (calls : List Call) {id : Int} {row : RunRow}
    (found : (empty.afterCalls calls).runs.find? id = some row) : row.Legible :=
  holds_afterCalls RunRow.legible_ofRoute Call.Effect.legible calls found

/-- The check that made a run finished, and how the run stands since. -/
theorem closedSince_of_finished (calls : List Call) {id : Int} {row : RunRow}
    (found : (empty.afterCalls calls).runs.find? id = some row)
    (finished : row.status = .known .finished) :
    ∃ earlier check later, calls = earlier ++ check :: later ∧
      ClosedBy id (empty.afterCalls earlier, check) ∧ row.ClosedSince later := by
  induction calls using List.reverseRecOn generalizing row with
  | nil => cases found
  | append_singleton calls call ih =>
    rw [afterCalls_concat] at found
    rcases Call.find?_after found with ⟨old, hold, rfl⟩ | ⟨header, total, entries, rfl⟩
    · rcases (call.effect_onRun old).of_finished finished with
        before | ⟨now, proper, rfl, closable, closed⟩
      · obtain ⟨earlier, check, later, rfl, closed, since⟩ := ih hold before
        exact ⟨earlier, check, later ++ [call], by simp, closed, since.concat call⟩
      · have same := RunBook.id_of_find? hold
        subst same
        refine ⟨calls, _, [], rfl, ⟨now, proper, rfl, ?_⟩, ?_⟩
        · simp [outcome_completeIfAllTerminal, hold, closable]
        · rw [closed]
          exact RunRow.closedSince_close closable (legible_afterCalls calls hold) now
    · cases finished

end Runs

theorem RunBook.find?_of_mem {book : RunBook} (distinct : (book.rows.map (·.id)).Nodup)
    {row : RunRow} (hrow : row ∈ book.rows) : book.find? row.id = some row :=
  (Selection.find?_eq_some_iff_of_nodup distinct).mpr ⟨hrow, rfl⟩

/-- A run in a store that started empty is finished only by a check of its stops that closed it.
Each of its stops has the status that it was last given since, or is done or skipped if it was
given none. So the run has no open stop, and one that is done or skipped, exactly if no stop was
last set back to open. -/
theorem finished_run_was_closed {calls : List Call} {row : RunRow}
    (hrow : row ∈ (empty.afterCalls calls).runs.rows) (finished : row.status = .known .finished) :
    ∃ earlier check later, calls = earlier ++ check :: later ∧
      ClosedBy row.id (empty.afterCalls earlier, check) ∧ row.stops ≠ [] ∧
      (∀ s ∈ row.stops, match lastSetting? row.id s.entry.stop later with
        | some status => s.status = .known status
        | none => s.IsDone) ∧
      (row.WorkDone ↔ ∀ s ∈ row.stops, ∀ status,
        lastSetting? row.id s.entry.stop later = some status → status.isTerminal = true) := by
  have distinct := (Reachable.empty.afterCalls calls).distinct
  obtain ⟨earlier, check, later, cut, closed, since⟩ :=
    closedSince_of_finished calls (RunBook.find?_of_mem distinct hrow) finished
  refine ⟨earlier, check, later, cut, closed, since.stops_ne_nil, ?_, since.workDone_iff⟩
  intro s hs
  split
  · rename_i status last
    exact since.set s hs status last
  · rename_i last
    exact since.unset s hs last

/-! A run whose only stop is set back to pending after the check has closed the run. -/

namespace Recall

def calls : List Call :=
  [.perform (.insertRun Shift.header ⟨100, 10⟩ [Shift.entry]) rfl,
    .perform (.setStopStatus "08:10" 1 "A" .done) rfl,
    .perform (.completeIfAllTerminal "08:20" 1) rfl,
    .perform (.setStopStatus "08:30" 1 "A" .pending) rfl]

def row : RunRow :=
  { Shift.row with stops := [⟨Shift.entry, .known .pending, none⟩] }

theorem rows : (empty.afterCalls calls).runs.rows = [row] := by
  decide

end Recall

theorem finished_run_was_closed_recall :
    Recall.row ∈ (empty.afterCalls Recall.calls).runs.rows ∧
      Recall.row.status = .known .finished ∧
      ∃ earlier check later, Recall.calls = earlier ++ check :: later ∧
        ClosedBy 1 (empty.afterCalls earlier, check) := by
  have hrow : Recall.row ∈ (empty.afterCalls Recall.calls).runs.rows := by
    rw [Recall.rows]
    exact List.mem_singleton_self _
  obtain ⟨earlier, check, later, cut, closed, _⟩ := finished_run_was_closed hrow rfl
  exact ⟨hrow, rfl, earlier, check, later, cut, closed⟩

/-- A stop that is set back to pending leaves its run finished. -/
theorem finished_run_with_open_stop :
    Recall.row ∈ (empty.afterCalls Recall.calls).runs.rows ∧
      Recall.row.status = .known .finished ∧
      (∃ s ∈ Recall.row.stops, s.status = .known .pending) ∧
      ¬ ∃ s ∈ Recall.row.stops, s.IsDone := by
  rw [Recall.rows]
  refine ⟨List.mem_singleton_self _, rfl, ⟨_, List.mem_singleton_self _, rfl⟩, ?_⟩
  rintro ⟨s, hs, done⟩
  obtain rfl := List.mem_singleton.mp hs
  rcases done with status | status <;> cases status

end ServiceRoute.Store
