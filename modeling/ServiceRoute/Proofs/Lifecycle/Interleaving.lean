import ServiceRoute.Proofs.Lifecycle.ClosedRuns

/-!
# Interleaved runs

Several runs are served at a time, and their calls come in any order. A call reads and writes the
run that it is addressed to, and no other, though their stops may be the same. So every run goes
the way that its own calls alone would take it, but for the times at which they are made.
-/

namespace ServiceRoute

/-- Whether there is a time, with nothing in its place. -/
def mark (time : Option String) : Option String :=
  time.map fun _ => ""

def RunStop.untimed (s : RunStop) : RunStop :=
  { s with completedAt := mark s.completedAt }

def RouteRun.untimed (run : RouteRun) : RouteRun :=
  { run with
    startedAt := mark run.startedAt
    finishedAt := mark run.finishedAt
    stops := run.stops.map .untimed }

namespace Store

open Store.Action

/-- What is done to a run in service. -/
inductive RunAction where
  | start
  | finish
  | setStopStatus (stop : StopId) (status : StopStatus)
  | completeIfAllTerminal
deriving DecidableEq

structure RunCall where
  run : Int
  action : RunAction
deriving DecidableEq

inductive Reply where
  | run (run : RouteRun)
  | noted
  | closed (changed : Bool)
deriving DecidableEq

/-- What a call at this time answers, and the store after it. -/
def RunCall.outcome (now : String) (call : RunCall) (s : Store) :
    Except StoreError Reply × Store :=
  match call.action with
  | .start =>
    let (answer, s) := (startRun now call.run).outcome s
    (answer.map .run, s)
  | .finish =>
    let (answer, s) := (finishRun now call.run).outcome s
    (answer.map .run, s)
  | .setStopStatus stop status =>
    let (answer, s) := (Store.setStopStatus now call.run stop status).outcome s
    (answer.map fun _ => .noted, s)
  | .completeIfAllTerminal =>
    let (answer, s) := (Store.completeIfAllTerminal now call.run).outcome s
    (answer.map .closed, s)

/-- The calls with their times, one after the other: each with its answer, and the store after the
last. -/
def serve : List (String × RunCall) → Store → List (RunCall × Except StoreError Reply) × Store
  | [], s => ([], s)
  | (now, call) :: rest, s =>
    let (answer, s) := call.outcome now s
    let (answers, s) := serve rest s
    ((call, answer) :: answers, s)

section OneRun

/-- The answer that loads a run, which has to be there. -/
def report (id : Int) : Option RunRow → Except StoreError Reply
  | some row => row.read.map .run
  | none => .error (.runNotFound id)

/-- What an action answers and leaves when there is nothing but the run in the store. -/
def RunAction.outcome (now : String) (id : Int) (action : RunAction) (row : Option RunRow) :
    Except StoreError Reply × Option RunRow :=
  match action with
  | .start => (report id (row.map (.start now)), row.map (.start now))
  | .finish => (report id (row.map (.finish now)), row.map (.finish now))
  | .setStopStatus stop status =>
    if row.any (·.stops.any (·.entry.stop = stop)) then
      (.ok .noted, row.map (.setStopStatus now stop status))
    else (.error (.stopNotInRun id stop), row)
  | .completeIfAllTerminal =>
    if row.any (·.canClose) then (.ok (.closed true), row.map (.close now))
    else (.ok (.closed false), row)

/-- The calls to a run, when there is nothing but the run in the store. -/
def serveAlone (id : Int) : List (String × RunCall) → Option RunRow →
    List (RunCall × Except StoreError Reply) × Option RunRow
  | [], row => ([], row)
  | (now, call) :: rest, row =>
    let (answer, row) := call.action.outcome now id row
    let (answers, row) := serveAlone id rest row
    ((call, answer) :: answers, row)

theorem RunBook.require_eq (book : RunBook) (id : Int) :
    (book.require id).map Reply.run = report id (book.find? id) := by
  unfold RunBook.require
  cases found : book.find? id with
  | none =>
    have loaded : book.load id = .ok none := by
      rw [load, found]
      rfl
    rw [loaded]
    rfl
  | some row =>
    have loaded : book.load id = row.read.map some := by
      rw [load, found]
      rfl
    rw [loaded, report]
    cases row.read <;> rfl

theorem RunBook.find?_update_self (book : RunBook) (id : Int) {f : RunRow → RunRow}
    (h : ∀ row, (f row).id = row.id) : (book.update id f).find? id = (book.find? id).map f := by
  rw [find?_update book id id h]
  cases found : book.find? id with
  | none => rfl
  | some row => simp [id_of_find? found]

theorem RunBook.find?_update_other (book : RunBook) {id other : Int} (apart : id ≠ other)
    {f : RunRow → RunRow} (h : ∀ row, (f row).id = row.id) :
    (book.update id f).find? other = book.find? other := by
  rw [find?_update book id other h]
  cases found : book.find? other with
  | none => rfl
  | some row => simp [id_of_find? found, Ne.symm apart]

/-- A call does to its run what it would do to the run alone. -/
theorem RunCall.outcome_own (now : String) (call : RunCall) (s : Store) :
    ((call.outcome now s).1, (call.outcome now s).2.runs.find? call.run) =
      call.action.outcome now call.run (s.runs.find? call.run) := by
  unfold RunCall.outcome RunAction.outcome
  cases call.action with
  | start =>
    simp only [outcome_startRun, RunBook.require_eq]
    rw [RunBook.find?_update_self _ _ (RunRow.id_start now)]
  | finish =>
    simp only [outcome_finishRun, RunBook.require_eq]
    rw [RunBook.find?_update_self _ _ (RunRow.id_finish now)]
  | setStopStatus stop status =>
    simp only [outcome_setStopStatus]
    split
    · rw [RunBook.find?_update_self _ _ (RunRow.id_setStopStatus now stop status)]
      rfl
    · rfl
  | completeIfAllTerminal =>
    simp only [outcome_completeIfAllTerminal]
    split
    · rw [RunBook.find?_update_self _ _ (RunRow.id_close now)]
      rfl
    · rfl

/-- A call leaves every other run alone. -/
theorem RunCall.outcome_other (now : String) {call : RunCall} {id : Int} (apart : call.run ≠ id)
    (s : Store) : (call.outcome now s).2.runs.find? id = s.runs.find? id := by
  unfold RunCall.outcome
  cases call.action with
  | start =>
    simp only [outcome_startRun]
    exact RunBook.find?_update_other _ apart (RunRow.id_start now)
  | finish =>
    simp only [outcome_finishRun]
    exact RunBook.find?_update_other _ apart (RunRow.id_finish now)
  | setStopStatus stop status =>
    simp only [outcome_setStopStatus]
    split
    · exact RunBook.find?_update_other _ apart (RunRow.id_setStopStatus now stop status)
    · rfl
  | completeIfAllTerminal =>
    simp only [outcome_completeIfAllTerminal]
    split
    · exact RunBook.find?_update_other _ apart (RunRow.id_close now)
    · rfl

/-- Among the calls to any runs, those to one run take it where they alone would. -/
theorem serve_own (id : Int) (timed : List (String × RunCall)) (s : Store) :
    ((serve timed s).1.filter (·.1.run = id), (serve timed s).2.runs.find? id) =
      serveAlone id (timed.filter (·.2.run = id)) (s.runs.find? id) := by
  induction timed generalizing s with
  | nil => rfl
  | cons first rest ih =>
    obtain ⟨now, call⟩ := first
    have later := ih (call.outcome now s).2
    by_cases own : call.run = id
    · subst own
      have here := RunCall.outcome_own now call s
      simp only [serve, serveAlone, List.filter_cons, decide_true, if_true, ← here, ← later]
    · rw [RunCall.outcome_other now own] at later
      simpa [serve, own] using later

end OneRun

section Untimed

def StopRow.untimed (s : StopRow) : StopRow :=
  { s with completedAt := mark s.completedAt }

def RunRow.untimed (row : RunRow) : RunRow :=
  { row with
    startedAt := mark row.startedAt
    finishedAt := mark row.finishedAt
    stops := row.stops.map .untimed }

def Reply.untimed : Reply → Reply
  | run loaded => run loaded.untimed
  | noted => noted
  | closed changed => closed changed

theorem RunRow.isOpen_untimed (row : RunRow) : row.untimed.isOpen = row.isOpen := rfl

theorem RunRow.hasStop_untimed (row : RunRow) (stop : StopId) :
    row.untimed.stops.any (·.entry.stop = stop) = row.stops.any (·.entry.stop = stop) := by
  rw [untimed, List.any_map]
  rfl

theorem RunRow.canClose_untimed (row : RunRow) : row.untimed.canClose = row.canClose := by
  rw [canClose, canClose, allTerminal, allTerminal, untimed, List.any_map, List.any_map]
  rfl

theorem RunRow.untimed_start (now : String) (row : RunRow) :
    (row.start now).untimed = row.untimed.start "" := by
  rw [start, start, isOpen_untimed]
  split
  · cases started : row.startedAt <;> simp [untimed, mark, started]
  · rfl

theorem RunRow.untimed_setStopStatus (now : String) (stop : StopId) (status : StopStatus)
    (row : RunRow) :
    (row.setStopStatus now stop status).untimed = row.untimed.setStopStatus "" stop status := by
  have stops : ∀ s : StopRow, (if s.entry.stop = stop then s.setStatus now status else s).untimed =
      if s.untimed.entry.stop = stop then s.untimed.setStatus "" status else s.untimed := by
    intro s
    have same : s.untimed.entry = s.entry := rfl
    rw [same]
    split
    · unfold StopRow.setStatus StopRow.untimed
      split <;> rfl
    · rfl
  simp [setStopStatus, untimed, stops]

theorem mapM_read_untimed (id : Int) (stops : List StopRow) :
    (stops.map StopRow.untimed).mapM (StopRow.read id) =
      (stops.mapM (StopRow.read id)).map (·.map RunStop.untimed) := by
  induction stops with
  | nil => rfl
  | cons s rest ih =>
    rw [List.map_cons, List.mapM_cons, List.mapM_cons, ih]
    generalize rest.mapM (StopRow.read id) = others
    unfold StopRow.read StopRow.untimed
    cases s.status with
    | unknown text => rfl
    | known status => cases others <;> rfl

theorem RunRow.read_untimed (row : RunRow) : row.untimed.read = row.read.map RouteRun.untimed := by
  have sorted : (row.stops.map StopRow.untimed).mergeSort
        (fun a b => a.entry.sequence ≤ b.entry.sequence) =
      (row.stops.mergeSort fun a b => a.entry.sequence ≤ b.entry.sequence).map StopRow.untimed := by
    symm
    apply List.map_mergeSort
    intro a _ b _
    rfl
  unfold read
  dsimp only [untimed]
  rw [sorted, mapM_read_untimed]
  cases (row.stops.mergeSort _).mapM (StopRow.read row.id) with
  | error e => rfl
  | ok stops => cases row.status <;> rfl

theorem report_untimed (id : Int) (row : Option RunRow) :
    report id (row.map RunRow.untimed) = (report id row).map Reply.untimed := by
  cases row with
  | none => rfl
  | some row =>
    show row.untimed.read.map Reply.run = (row.read.map Reply.run).map Reply.untimed
    rw [row.read_untimed]
    cases row.read <;> rfl

theorem RunAction.outcome_untimed (now : String) (id : Int) (action : RunAction)
    (row : Option RunRow) :
    action.outcome "" id (row.map RunRow.untimed) =
      ((action.outcome now id row).1.map Reply.untimed,
        (action.outcome now id row).2.map RunRow.untimed) := by
  unfold outcome
  cases action with
  | start =>
    have moved : (row.map RunRow.untimed).map (RunRow.start "") =
        (row.map (RunRow.start now)).map RunRow.untimed := by
      simp [Function.comp_def, RunRow.untimed_start]
    simp only [moved, report_untimed]
  | finish =>
    have moved : (row.map RunRow.untimed).map (RunRow.finish "") =
        (row.map (RunRow.finish now)).map RunRow.untimed := by
      rw [Option.map_map, Option.map_map]
      rfl
    simp only [moved, report_untimed]
  | setStopStatus stop status =>
    have asked : (row.map RunRow.untimed).any (·.stops.any (·.entry.stop = stop)) =
        row.any (·.stops.any (·.entry.stop = stop)) := by
      cases row with
      | none => rfl
      | some row => exact row.hasStop_untimed stop
    simp only [asked]
    split
    · simp [Function.comp_def, RunRow.untimed_setStopStatus, Except.map, Reply.untimed]
    · rfl
  | completeIfAllTerminal =>
    have asked : (row.map RunRow.untimed).any (·.canClose) = row.any (·.canClose) := by
      cases row with
      | none => rfl
      | some row => exact row.canClose_untimed
    simp only [asked]
    split
    · rw [Option.map_map, Option.map_map]
      rfl
    · rfl

/-- The calls with their answers, in which times are only marked. -/
def answersUntimed (answers : List (RunCall × Except StoreError Reply)) :
    List (RunCall × Except StoreError Reply) :=
  answers.map fun (call, answer) => (call, answer.map Reply.untimed)

theorem serveAlone_untimed (id : Int) (timed : List (String × RunCall)) (row : Option RunRow) :
    serveAlone id (timed.map fun (_, call) => ("", call)) (row.map RunRow.untimed) =
      (answersUntimed (serveAlone id timed row).1,
        (serveAlone id timed row).2.map RunRow.untimed) := by
  induction timed generalizing row with
  | nil => rfl
  | cons first rest ih =>
    obtain ⟨now, call⟩ := first
    simp only [List.map_cons, serveAlone, call.action.outcome_untimed now, ih]
    rfl

theorem RunBook.load_untimed (book : RunBook) (id : Int) :
    (book.load id).map (·.map RouteRun.untimed) =
      ((book.find? id).map RunRow.untimed).mapM RunRow.read := by
  unfold load
  cases book.find? id with
  | none => rfl
  | some row =>
    show (some <$> row.read).map _ = some <$> row.untimed.read
    rw [row.read_untimed]
    cases row.read <;> rfl

end Untimed

section Unknown

theorem RunBook.update_unknown {book : RunBook} {id : Int} (unknown : book.find? id = none)
    (f : RunRow → RunRow) : book.update id f = book := by
  have same : book.rows.map (fun row => if row.id = id then f row else row) = book.rows := by
    refine (List.map_congr_left fun row hrow => ?_).trans (List.map_id _)
    have other : row.id ≠ id := by simpa using List.find?_eq_none.mp unknown row hrow
    exact if_neg other
  unfold update
  rw [same]

theorem RunCall.outcome_unknown (now : String) {call : RunCall} {s : Store}
    (unknown : s.runs.find? call.run = none) : (call.outcome now s).2 = s := by
  unfold outcome
  cases call.action with
  | start => simp only [outcome_startRun, RunBook.update_unknown unknown]
  | finish => simp only [outcome_finishRun, RunBook.update_unknown unknown]
  | setStopStatus stop status =>
    simp only [outcome_setStopStatus, unknown, Option.any_none, Bool.false_eq_true, if_false]
  | completeIfAllTerminal =>
    simp only [outcome_completeIfAllTerminal, unknown, Option.any_none, Bool.false_eq_true,
      if_false]

/-- The only failure to read a run is a status that is none. -/
def IsInvalidValue (e : StoreError) : Prop :=
  ∃ column text, e = .invalidValue column text

theorem StopRow.read_eq_error {id : Int} {s : StopRow} {e : StoreError}
    (h : s.read id = .error e) : IsInvalidValue e := by
  unfold read at h
  cases status : s.status with
  | known value => simp [status, Recorded.read, bind, Except.bind, pure, Except.pure] at h
  | unknown text =>
    simp only [status, Recorded.read, bind, Except.bind, Except.error.injEq] at h
    exact ⟨_, _, h.symm⟩

theorem mapM_read_eq_error {id : Int} {stops : List StopRow} {e : StoreError}
    (h : stops.mapM (StopRow.read id) = .error e) : IsInvalidValue e := by
  induction stops with
  | nil => cases h
  | cons s rest ih =>
    rw [List.mapM_cons] at h
    cases first : s.read id with
    | error e' =>
      simp only [first, bind, Except.bind, Except.error.injEq] at h
      exact h ▸ StopRow.read_eq_error first
    | ok stop =>
      cases others : rest.mapM (StopRow.read id) with
      | error e' =>
        simp only [first, others, bind, Except.bind, Except.error.injEq] at h
        subst h
        exact ih others
      | ok stops => simp [first, others, bind, Except.bind, pure, Except.pure] at h

theorem RunRow.read_eq_error {row : RunRow} {e : StoreError} (h : row.read = .error e) :
    IsInvalidValue e := by
  unfold read at h
  cases stops : (row.stops.mergeSort fun a b => a.entry.sequence ≤ b.entry.sequence).mapM
      (StopRow.read row.id) with
  | error e' =>
    simp only [stops, bind, Except.bind, Except.error.injEq] at h
    exact h ▸ mapM_read_eq_error stops
  | ok stops' =>
    cases status : row.status with
    | known status => simp [stops, status, bind, Except.bind, Recorded.read, pure, Except.pure] at h
    | unknown text =>
      simp only [stops, status, bind, Except.bind, Recorded.read, Except.error.injEq] at h
      exact ⟨_, _, h.symm⟩

theorem isInvalidValue_of_report {id : Int} {row : RunRow} {e : StoreError}
    (h : report id (some row) = .error e) : IsInvalidValue e := by
  unfold report at h
  cases answer : row.read with
  | error e' =>
    simp only [answer, Except.map, Except.error.injEq] at h
    exact h ▸ RunRow.read_eq_error answer
  | ok run => simp [answer, Except.map] at h

theorem RunCall.outcome_refused (now : String) (call : RunCall) (s : Store) {e : StoreError}
    (refused : (call.outcome now s).1 = .error e) (valid : ¬ IsInvalidValue e) :
    (call.outcome now s).2 = s := by
  cases found : s.runs.find? call.run with
  | none => exact outcome_unknown now found
  | some row =>
    have here := congrArg Prod.fst (outcome_own now call s)
    rw [refused, found] at here
    unfold RunAction.outcome at here
    unfold outcome at refused ⊢
    cases action : call.action with
    | start =>
      simp only [action, Option.map_some] at here
      exact absurd (isInvalidValue_of_report here.symm) valid
    | finish =>
      simp only [action, Option.map_some] at here
      exact absurd (isInvalidValue_of_report here.symm) valid
    | setStopStatus stop status =>
      simp only [action, outcome_setStopStatus] at refused ⊢
      split at refused
      · cases refused
      · rename_i absent
        rw [if_neg absent]
    | completeIfAllTerminal =>
      simp only [action, outcome_completeIfAllTerminal] at refused ⊢
      split at refused
      · cases refused
      · cases refused

end Unknown

theorem serve_calls (timed : List (String × RunCall)) (s : Store) :
    (serve timed s).1.map (·.1) = timed.map (·.2) := by
  induction timed generalizing s with
  | nil => rfl
  | cons first rest ih => simp [serve, ih]

/-- The calls to one run take it where they alone would, when their times are only marked. -/
theorem serve_untimed (id : Int) (timed : List (String × RunCall)) (s : Store) :
    (answersUntimed ((serve timed s).1.filter (·.1.run = id)),
        ((serve timed s).2.runs.find? id).map RunRow.untimed) =
      serveAlone id (((timed.map (·.2)).filter (·.run = id)).map fun call => ("", call))
        ((s.runs.find? id).map RunRow.untimed) := by
  have alone := serve_own id timed s
  have unmarked := serveAlone_untimed id (timed.filter (·.2.run = id)) (s.runs.find? id)
  rw [← alone] at unmarked
  rw [List.filter_map, List.map_map]
  exact unmarked.symm

/-- Whatever calls to other runs come in between, and whatever the times are, every call to a run
is answered as it would be among the calls to that run alone, and the run is loaded as after these:
in all of this times are compared as set or not set. A call that finds no such run, or no such stop
in it, changes nothing. -/
theorem serve_interleaved (s : Store) (id : Int) (timed alone : List (String × RunCall))
    (own : alone.map (·.2) = (timed.map (·.2)).filter (·.run = id)) :
    answersUntimed ((serve timed s).1.filter (·.1.run = id)) = answersUntimed (serve alone s).1 ∧
      ((loadRun id).outcome (serve timed s).2).1.map (·.map RouteRun.untimed) =
        ((loadRun id).outcome (serve alone s).2).1.map (·.map RouteRun.untimed) ∧
      ∀ (now : String) (call : RunCall) (t : Store),
        ((∃ other, (call.outcome now t).1 = .error (.runNotFound other)) ∨
          (∃ other stop, (call.outcome now t).1 = .error (.stopNotInRun other stop)) ∨
          t.runs.find? call.run = none) →
        (call.outcome now t).2 = t := by
  have allOwn : (serve alone s).1.filter (·.1.run = id) = (serve alone s).1 := by
    refine List.filter_eq_self.mpr fun p hp => ?_
    have called : p.1 ∈ (timed.map (·.2)).filter (·.run = id) := by
      rw [← own, ← serve_calls alone s]
      exact List.mem_map_of_mem hp
    exact (List.mem_filter.mp called).2
  -- Both ways the calls to the run are the same, and that is all that the marked answers are of.
  have same : (alone.map (·.2)).filter (·.run = id) = (timed.map (·.2)).filter (·.run = id) := by
    rw [own, List.filter_filter]
    simp
  have marked := (serve_untimed id timed s).trans
    ((congrArg (fun calls => serveAlone id (calls.map fun call => ("", call)) _) same).symm.trans
      (serve_untimed id alone s).symm)
  rw [allOwn] at marked
  obtain ⟨answers, row⟩ := Prod.mk.inj marked
  refine ⟨answers, ?_, ?_⟩
  · rw [outcome_loadRun, outcome_loadRun]
    simp only [RunBook.load_untimed, row]
  · rintro now call t (⟨other, missing⟩ | ⟨other, stop, missing⟩ | unknown)
    · exact RunCall.outcome_refused now call t missing (by rintro ⟨_, _, ⟨⟩⟩)
    · exact RunCall.outcome_refused now call t missing (by rintro ⟨_, _, ⟨⟩⟩)
    · exact RunCall.outcome_unknown now unknown

/-! Two runs with the same stop, which is done in one of them and skipped in the other. -/

namespace Relay

def store : Store :=
  empty.afterAll [.insertRun Shift.header ⟨100, 10⟩ [Shift.entry],
    .insertRun Shift.header ⟨120, 12⟩ [Shift.entry]]

def timed : List (String × RunCall) :=
  [("08:00", ⟨1, .start⟩), ("08:05", ⟨2, .setStopStatus "A" .skipped⟩),
    ("08:10", ⟨1, .setStopStatus "A" .done⟩), ("08:15", ⟨2, .finish⟩),
    ("08:20", ⟨1, .completeIfAllTerminal⟩), ("08:25", ⟨1, .setStopStatus "B" .done⟩)]

def alone : List (String × RunCall) :=
  [("09:00", ⟨1, .start⟩), ("09:10", ⟨1, .setStopStatus "A" .done⟩),
    ("09:20", ⟨1, .completeIfAllTerminal⟩), ("09:30", ⟨1, .setStopStatus "B" .done⟩)]

end Relay

theorem serve_interleaved_relay :
    Relay.alone.map (·.2) = (Relay.timed.map (·.2)).filter (·.run = 1) ∧
      answersUntimed ((serve Relay.timed Relay.store).1.filter (·.1.run = 1)) =
        answersUntimed (serve Relay.alone Relay.store).1 ∧
      ((loadRun 1).outcome (serve Relay.timed Relay.store).2).1.map (·.map RouteRun.untimed) =
        ((loadRun 1).outcome (serve Relay.alone Relay.store).2).1.map (·.map RouteRun.untimed) ∧
      (RunCall.outcome "10:00" ⟨3, .finish⟩ Relay.store).2 = Relay.store := by
  have own : Relay.alone.map (·.2) = (Relay.timed.map (·.2)).filter (·.run = 1) := by decide
  obtain ⟨answers, loaded, nothing⟩ := serve_interleaved Relay.store 1 Relay.timed Relay.alone own
  exact ⟨own, answers, loaded, nothing "10:00" ⟨3, .finish⟩ Relay.store (.inr (.inr (by decide)))⟩

end Store

end ServiceRoute
