import Mathlib.Data.List.Nodup
import ServiceRoute.Proofs.Lifecycle.Calls

/-!
# Closed runs

A run is planned, then perhaps in progress, then closed: completed by hand or finished by the check
of its stops. No call takes it back. It is listed among the open runs of its date exactly until it
is closed, and the check closes it at most once.
-/

namespace ServiceRoute.Store

/-- How far a run has come. -/
def stage : RunStatus → Nat
  | .planned => 0
  | .inProgress => 1
  | .completed | .finished => 2

theorem stage_le_two (status : RunStatus) : stage status ≤ 2 := by
  cases status <;> simp [stage]

theorem isOpen_iff_stage {status : RunStatus} : status.isOpen = true ↔ stage status < 2 := by
  cases status <;> simp [RunStatus.isOpen, stage]

theorem RunRow.isOpen_of_known {row : RunRow} {status : RunStatus}
    (known : row.status = .known status) : row.isOpen = status.isOpen := by
  simp [isOpen, known, Recorded.value?]

theorem RunRow.isClosed_of_known {row : RunRow} {status : RunStatus}
    (known : row.status = .known status) : row.isClosed = !status.isOpen := by
  cases status <;> simp [isClosed, known, RunStatus.isOpen]

section OneRun

theorem RunRow.header_start (now : String) (row : RunRow) :
    (row.start now).header = row.header := by
  unfold start
  split <;> rfl

theorem Call.header_onRun (call : Call) (row : RunRow) : (call.onRun row).header = row.header :=
  (call.effect_onRun row).keeps (·.header) RunRow.header_start (fun _ _ => rfl) (fun _ _ _ _ => rfl)
    (fun _ _ => rfl)

theorem Call.Effect.stage_le {call : Call} {row next : RunRow} (h : call.Effect row next)
    {status : RunStatus} (known : row.status = .known status) :
    ∃ later, next.status = .known later ∧ stage status ≤ stage later := by
  cases h with
  | nothing unset => exact ⟨status, known, Nat.le_refl _⟩
  | start now proper =>
    rw [RunRow.start, RunRow.isOpen_of_known known]
    split
    · rename_i opened
      rw [isOpen_iff_stage] at opened
      exact ⟨.inProgress, rfl, Nat.le_of_lt_succ opened⟩
    · exact ⟨status, known, Nat.le_refl _⟩
  | finish now proper => exact ⟨.completed, rfl, stage_le_two status⟩
  | set now stop stopStatus proper => exact ⟨status, known, Nat.le_refl _⟩
  | close now proper closable => exact ⟨.finished, rfl, stage_le_two status⟩

/-- No list of calls takes a run back to an earlier stage. -/
theorem status_afterCalls {s : Store} {id : Int} {row : RunRow} {status : RunStatus}
    (found : s.runs.find? id = some row) (known : row.status = .known status)
    (calls : List Call) :
    ∃ row' later, (s.afterCalls calls).runs.find? id = some row' ∧ row'.header = row.header ∧
      row'.status = .known later ∧ stage status ≤ stage later := by
  induction calls generalizing s row status with
  | nil => exact ⟨row, status, found, rfl, known, Nat.le_refl _⟩
  | cons call rest ih =>
    obtain ⟨next, known', further⟩ := (call.effect_onRun row).stage_le known
    obtain ⟨row', later, found', header, known'', further'⟩ :=
      ih (find?_afterCalls found [call]) known'
    exact ⟨row', later, found', header.trans (call.header_onRun row), known'',
      Nat.le_trans further further'⟩

end OneRun

section Listing

def RunRow.summary (row : RunRow) : Except StoreError RunSummary := do
  return ⟨row.id, row.header, ← row.status.read .runStatus, row.stops.length⟩

theorem mapM_summary (rows : List RunRow) (allOpen : ∀ row ∈ rows, row.isOpen = true) :
    ∃ lines, rows.mapM RunRow.summary = .ok lines ∧ lines.map (·.id) = rows.map (·.id) := by
  induction rows with
  | nil => exact ⟨[], rfl, rfl⟩
  | cons row rest ih =>
    obtain ⟨lines, listed, ids⟩ := ih fun r hr => allOpen r (by simp [hr])
    have opened := allOpen row (by simp)
    cases status : row.status with
    | known value =>
      have line : row.summary = .ok ⟨row.id, row.header, value, row.stops.length⟩ := by
        rw [RunRow.summary, status]
        rfl
      refine ⟨⟨row.id, row.header, value, row.stops.length⟩ :: lines, ?_, by simp [ids]⟩
      rw [List.mapM_cons, line, listed]
      rfl
    | unknown text => simp [RunRow.isOpen, status, Recorded.value?] at opened

theorem openRuns_eq_ok (book : RunBook) (date : String) :
    ∃ lines, book.openRuns date = .ok lines ∧
      ∀ id, id ∈ lines.map (·.id) ↔
        ∃ row ∈ book.rows, row.id = id ∧ row.header.date = date ∧ row.isOpen = true := by
  have allOpen : ∀ row ∈ (book.rows.filter fun row => row.header.date = date ∧ row.isOpen).reverse,
      row.isOpen = true := by
    intro row hrow
    simp only [List.mem_reverse, List.mem_filter, decide_eq_true_eq] at hrow
    exact hrow.2.2
  obtain ⟨lines, listed, ids⟩ := mapM_summary _ allOpen
  refine ⟨lines, listed, ?_⟩
  intro id
  rw [ids]
  simp only [List.map_reverse, List.mem_reverse, List.mem_map, List.mem_filter, decide_eq_true_eq]
  constructor
  · rintro ⟨row, ⟨hrow, dated, opened⟩, same⟩
    exact ⟨row, hrow, same, dated, opened⟩
  · rintro ⟨row, hrow, same, dated, opened⟩
    exact ⟨row, ⟨hrow, dated, opened⟩, same⟩

theorem mem_openRuns {s : Store} (reachable : Reachable s) {id : Int} {row : RunRow}
    (found : s.runs.find? id = some row) (date : String) :
    ∃ lines, ((openRuns date).outcome s).1 = .ok lines ∧
      (id ∈ lines.map (·.id) ↔ row.header.date = date ∧ row.isOpen = true) := by
  obtain ⟨lines, listed, ids⟩ := openRuns_eq_ok s.runs date
  refine ⟨lines, by rw [outcome_openRuns, listed], (ids id).trans ?_⟩
  have hrow := List.mem_of_find?_eq_some found
  have same := RunBook.id_of_find? found
  constructor
  · rintro ⟨other, hother, same', dated, opened⟩
    have equal : other = row :=
      List.inj_on_of_nodup_map reachable.distinct hother hrow (same'.trans same.symm)
    exact equal ▸ ⟨dated, opened⟩
  · rintro ⟨dated, opened⟩
    exact ⟨row, hrow, same, dated, opened⟩

end Listing

section Closing

def RunBook.Closed (book : RunBook) (id : Int) : Prop :=
  ∃ row, book.find? id = some row ∧ row.isClosed = true

theorem RunRow.known_of_isClosed {row : RunRow} (closed : row.isClosed = true) :
    ∃ status, row.status = .known status ∧ status.isOpen = false := by
  simp only [isClosed, Bool.or_eq_true, decide_eq_true_eq] at closed
  rcases closed with finished | completed
  · exact ⟨.finished, finished, rfl⟩
  · exact ⟨.completed, completed, rfl⟩

theorem RunBook.Closed.afterCalls {s : Store} {id : Int} (closed : s.runs.Closed id)
    (calls : List Call) : (s.afterCalls calls).runs.Closed id := by
  obtain ⟨row, found, closed⟩ := closed
  obtain ⟨status, known, shut⟩ := RunRow.known_of_isClosed closed
  obtain ⟨row', later, found', -, known', further⟩ := status_afterCalls found known calls
  refine ⟨row', found', ?_⟩
  rw [RunRow.isClosed_of_known known']
  have last : ¬ stage status < 2 := by
    rw [← isOpen_iff_stage, shut]
    decide
  have shut' : ¬ later.isOpen = true := by
    rw [isOpen_iff_stage]
    omega
  simpa using shut'

/-- The calls one after the other, each with the store it is put to. -/
def served : Store → List Call → List (Store × Call)
  | _, [] => []
  | s, call :: rest => (s, call) :: served (call.after s) rest

theorem mem_served {s : Store} {calls : List Call} {put : Store × Call}
    (h : put ∈ s.served calls) :
    ∃ earlier later, calls = earlier ++ put.2 :: later ∧ put.1 = s.afterCalls earlier := by
  induction calls generalizing s with
  | nil => cases h
  | cons call rest ih =>
    rcases List.mem_cons.mp h with rfl | h
    · exact ⟨[], rest, rfl, rfl⟩
    · obtain ⟨earlier, later, rfl, same⟩ := ih h
      exact ⟨call :: earlier, later, rfl, same⟩

/-- The call checks the run and answers that it closed it. -/
def ClosedBy (id : Int) (put : Store × Call) : Prop :=
  ∃ now proper, put.2 = .perform (.completeIfAllTerminal now id) proper ∧
    ((completeIfAllTerminal now id).outcome put.1).1 = .ok true

def FinishedBy (id : Int) (put : Store × Call) : Prop :=
  ∃ now proper, put.2 = .perform (.finishRun now id) proper ∧ (put.1.runs.find? id).isSome = true

/-- The check answers that it closed a run only if it found it unclosed with all its work done. -/
theorem completeIfAllTerminal_eq_true {now : String} {id : Int} {s : Store}
    (answer : ((completeIfAllTerminal now id).outcome s).1 = .ok true) :
    ∃ row, s.runs.find? id = some row ∧ row.canClose = true := by
  rw [outcome_completeIfAllTerminal] at answer
  split at answer
  · rename_i closable
    simpa [Option.any_eq_true] using closable
  · cases answer

theorem ClosedBy.closed {id : Int} {put : Store × Call} (h : ClosedBy id put) :
    (put.2.after put.1).runs.Closed id := by
  obtain ⟨s, call⟩ := put
  obtain ⟨now, proper, rfl, answer⟩ := h
  obtain ⟨row, found, closable⟩ := completeIfAllTerminal_eq_true answer
  refine ⟨row.close now, ?_, rfl⟩
  have next := find?_afterCalls found [.perform (.completeIfAllTerminal now id) proper]
  simpa [Call.onRun, Operation.onRun, RunBook.id_of_find? found, closable] using next

theorem FinishedBy.closed {id : Int} {put : Store × Call} (h : FinishedBy id put) :
    (put.2.after put.1).runs.Closed id := by
  obtain ⟨s, call⟩ := put
  obtain ⟨now, proper, rfl, exists_run⟩ := h
  obtain ⟨row, found⟩ := Option.isSome_iff_exists.mp exists_run
  refine ⟨row.finish now, ?_, rfl⟩
  have next := find?_afterCalls found [.perform (.finishRun now id) proper]
  simpa [Call.onRun, Operation.onRun, RunBook.id_of_find? found] using next

theorem not_closedBy_of_closed {id : Int} {put : Store × Call} (closed : put.1.runs.Closed id) :
    ¬ ClosedBy id put := by
  rintro ⟨now, proper, -, answer⟩
  obtain ⟨row, found, closed⟩ := closed
  obtain ⟨row', found', closable⟩ := completeIfAllTerminal_eq_true answer
  rw [found] at found'
  obtain rfl := Option.some.inj found'
  simp [RunRow.canClose, closed] at closable

/-- After a run was closed by a check or finished by hand, no check closes it. -/
theorem pairwise_closedBy (s : Store) (id : Int) (calls : List Call) :
    (s.served calls).Pairwise fun earlier later =>
      ClosedBy id earlier ∨ FinishedBy id earlier → ¬ ClosedBy id later := by
  induction calls generalizing s with
  | nil => exact List.Pairwise.nil
  | cons call rest ih =>
    refine List.pairwise_cons.mpr ⟨?_, ih (call.after s)⟩
    intro later hlater ended
    obtain ⟨between, _, _, same⟩ := mem_served hlater
    apply not_closedBy_of_closed
    rw [same]
    apply RunBook.Closed.afterCalls
    rcases ended with checked | byHand
    · exact checked.closed
    · exact byHand.closed

end Closing

theorem isOpen_eq_false_iff {status : RunStatus} :
    status.isOpen = false ↔ status = .completed ∨ status = .finished := by
  cases status <;> simp [RunStatus.isOpen]

/-- Whatever a store with a history is called for, a closed run stays closed, one that has left its
planning does not return to it, and a run is listed for its date exactly as long as it is not
closed. A check closes a run at most once, and never after it was finished by hand. -/
theorem closed_run_stays_closed {store : Store} (reachable : Reachable store) (id : Int)
    (calls : List Call) :
    (∀ row status, store.runs.find? id = some row → row.status = .known status →
      ∃ row' later, (store.afterCalls calls).runs.find? id = some row' ∧
        row'.status = .known later ∧
        (status = .completed ∨ status = .finished → later = .completed ∨ later = .finished) ∧
        (status ≠ .planned → later ≠ .planned) ∧
        ∀ date, ∃ lines, ((openRuns date).outcome (store.afterCalls calls)).1 = .ok lines ∧
          (id ∈ lines.map (·.id) ↔
            row.header.date = date ∧ ¬ (later = .completed ∨ later = .finished))) ∧
      (store.served calls).Pairwise fun earlier later =>
        ClosedBy id earlier ∨ FinishedBy id earlier → ¬ ClosedBy id later := by
  refine ⟨?_, pairwise_closedBy store id calls⟩
  intro row status found known
  obtain ⟨row', later, found', header, known', further⟩ := status_afterCalls found known calls
  refine ⟨row', later, found', known', ?_, ?_, ?_⟩
  · intro closed
    rw [← isOpen_eq_false_iff, ← Bool.not_eq_true, isOpen_iff_stage] at closed ⊢
    omega
  · intro left planned
    subst planned
    have back : stage status = 0 := Nat.le_zero.mp further
    cases status <;> simp [stage] at back left
  · intro date
    obtain ⟨lines, listed, ids⟩ := mem_openRuns (reachable.afterCalls calls) found' date
    refine ⟨lines, listed, ids.trans ?_⟩
    rw [header, RunRow.isOpen_of_known known', ← isOpen_eq_false_iff, Bool.not_eq_false]

/-! A run that was finished by the check, and is started, finished and checked again. -/

namespace Shift

def header : RunHeader :=
  ⟨"north", "depot", "2024-05-01"⟩

def entry : RouteEntry :=
  ⟨"A", 0, ⟨100, 10⟩⟩

def store : Store :=
  Store.empty.afterAll [.insertRun header ⟨100, 10⟩ [entry], .setStopStatus "08:10" 1 "A" .done,
    .completeIfAllTerminal "08:20" 1]

def row : RunRow :=
  ⟨1, header, .known .finished, ⟨100, 10⟩, none, some "08:20",
    [⟨entry, .known .done, some "08:10"⟩]⟩

def calls : List Call :=
  [.perform (.startRun "09:00" 1) rfl, .perform (.finishRun "09:30" 1) rfl,
    .perform (.completeIfAllTerminal "09:40" 1) rfl]

theorem found : store.runs.find? 1 = some row := by
  decide

end Shift

theorem closed_run_stays_closed_shift :
    Reachable Shift.store ∧ Shift.store.runs.find? 1 = some Shift.row ∧
      Shift.row.status = .known .finished ∧
      ∃ row' later, (Shift.store.afterCalls Shift.calls).runs.find? 1 = some row' ∧
        row'.status = .known later ∧ (later = .completed ∨ later = .finished) ∧
        ∃ lines, ((openRuns "2024-05-01").outcome (Shift.store.afterCalls Shift.calls)).1 =
          .ok lines ∧ 1 ∉ lines.map (·.id) := by
  have reachable : Reachable Shift.store := Reachable.empty.afterAll _
  obtain ⟨row', later, found', known, closed, -, listing⟩ :=
    (closed_run_stays_closed reachable 1 Shift.calls).1 Shift.row .finished Shift.found rfl
  obtain ⟨lines, listed, ids⟩ := listing "2024-05-01"
  refine ⟨reachable, Shift.found, rfl, row', later, found', known, closed (Or.inr rfl), lines,
    listed, ?_⟩
  rw [ids]
  rintro ⟨-, opened⟩
  exact opened (closed (Or.inr rfl))

end ServiceRoute.Store
