import ServiceRoute.Proofs.Store.Numbering
import ServiceRoute.Proofs.Store.Operations
import ServiceRoute.Store.DirectEdits

/-!
# The history of a store

A store starts empty and changes by its operations and by direct edits, each of
which may fail half way. Each of them is about one part of the store and leaves
the others alone. Apart from the filing of a run none of them does more to the
run book than rewrite some of its runs.
-/

namespace ServiceRoute.Store

open RunBook

variable {α β : Type}

/-- Everything that can change a store. -/
inductive Operation where
  | upsertBase (id : String) (location : Coordinate) (active : Bool)
  | upsertStop (pool : String) (stop : Stop)
  | upsertRisk (id : StopId) (risk : RiskScores)
  | addOverride (o : Override) (author : String)
  | deleteOverride (id : Int)
  | insertRun (header : RunHeader) (total : Cost) (entries : List RouteEntry)
  | startRun (now : String) (id : Int)
  | finishRun (now : String) (id : Int)
  | setStopStatus (now : String) (id : Int) (stop : StopId) (status : StopStatus)
  | completeIfAllTerminal (now : String) (id : Int)
  | editRunStatus (id : Int) (text : Option String)
  | editStartedAt (id : Int) (time : Option String)
  | editFinishedAt (id : Int) (time : Option String)
  | editStopStatus (stop : StopId) (text : Option String)
  | editCompletedAt (stop : StopId) (time : Option String)
  | editOverrideKind (id : Int) (text : Option String)

/-- The store after an operation, whether it succeeded or failed. -/
def Operation.after : Operation → Store → Store
  | upsertBase id location active, s => ((Store.upsertBase id location active).outcome s).2
  | upsertStop pool stop, s => ((Store.upsertStop pool stop).outcome s).2
  | upsertRisk id risk, s => ((Store.upsertRisk id risk).outcome s).2
  | addOverride o author, s => ((Store.addOverride o author).outcome s).2
  | deleteOverride id, s => ((Store.deleteOverride id).outcome s).2
  | insertRun header total entries, s => ((Store.insertRun header total entries).outcome s).2
  | startRun now id, s => ((Store.startRun now id).outcome s).2
  | finishRun now id, s => ((Store.finishRun now id).outcome s).2
  | setStopStatus now id stop status, s => ((Store.setStopStatus now id stop status).outcome s).2
  | completeIfAllTerminal now id, s => ((Store.completeIfAllTerminal now id).outcome s).2
  | editRunStatus id text, s => ((Store.editRunStatus id text).outcome s).2
  | editStartedAt id time, s => ((Store.editStartedAt id time).outcome s).2
  | editFinishedAt id time, s => ((Store.editFinishedAt id time).outcome s).2
  | editStopStatus stop text, s => ((Store.editStopStatus stop text).outcome s).2
  | editCompletedAt stop time, s => ((Store.editCompletedAt stop time).outcome s).2
  | editOverrideKind id text, s => ((Store.editOverrideKind id text).outcome s).2

/-- A store with a history. -/
inductive Reachable : Store → Prop
  | empty : Reachable .empty
  | next {store : Store} (op : Operation) : Reachable store → Reachable (op.after store)

def afterAll (store : Store) (ops : List Operation) : Store :=
  ops.foldl (fun s op => op.after s) store

theorem Reachable.afterAll {store : Store} (h : Reachable store) (ops : List Operation) :
    Reachable (store.afterAll ops) := by
  induction ops generalizing store with
  | nil => exact h
  | cons op rest ih => exact ih (h.next op)

open Store.Action

section Parts

/-- The parts of a store. -/
inductive Part where
  | bases
  | catalog
  | overrides
  | runs

/-- The stores differ in this part at most. -/
inductive DiffersIn (s : Store) : Part → Store → Prop
  | bases (bases : List Base) : DiffersIn s .bases { s with bases }
  | catalog (catalog : Catalog) : DiffersIn s .catalog { s with catalog }
  | overrides (overrides : OverrideLog) : DiffersIn s .overrides { s with overrides }
  | runs (runs : RunBook) : DiffersIn s .runs { s with runs }

variable {s s' : Store} {p : Part}

theorem DiffersIn.catalog_eq (h : s.DiffersIn p s') (other : p ≠ .catalog) :
    s'.catalog = s.catalog := by
  cases h with
  | catalog => exact absurd rfl other
  | _ => rfl

theorem DiffersIn.overrides_eq (h : s.DiffersIn p s') (other : p ≠ .overrides) :
    s'.overrides = s.overrides := by
  cases h with
  | overrides => exact absurd rfl other
  | _ => rfl

theorem DiffersIn.runs_eq (h : s.DiffersIn p s') (other : p ≠ .runs) :
    s'.runs = s.runs := by
  cases h with
  | runs => exact absurd rfl other
  | _ => rfl

def Operation.part : Operation → Part
  | upsertBase .. => .bases
  | upsertStop .. | upsertRisk .. => .catalog
  | addOverride .. | deleteOverride .. | editOverrideKind .. => .overrides
  | insertRun .. | startRun .. | finishRun .. | setStopStatus .. | completeIfAllTerminal ..
  | editRunStatus .. | editStartedAt .. | editFinishedAt .. | editStopStatus ..
  | editCompletedAt .. => .runs

theorem differsIn_refl (s : Store) (p : Part) : s.DiffersIn p s := by
  cases p with
  | bases => exact .bases s.bases
  | catalog => exact .catalog s.catalog
  | overrides => exact .overrides s.overrides
  | runs => exact .runs s.runs

theorem DiffersIn.trans {s'' : Store} (h : s.DiffersIn p s') (h' : s'.DiffersIn p s'') :
    s.DiffersIn p s'' := by
  cases h <;> cases h' <;> constructor

end Parts

namespace Action

/-- The action leaves the other parts of the store alone, whether it succeeds or fails. -/
def KeepsTo (p : Part) (act : Action α) : Prop :=
  ∀ s : Store, s.DiffersIn p (act.outcome s).2

variable {p : Part}

theorem keepsTo_liftM (answer : Except StoreError α) : (liftM answer : Action α).KeepsTo p := by
  intro s
  rw [outcome_liftM]
  exact differsIn_refl s p

theorem keepsTo_get : (get : Action Store).KeepsTo p :=
  fun s => differsIn_refl s p

theorem KeepsTo.bind {act : Action α} {f : α → Action β} (first : act.KeepsTo p)
    (next : ∀ a, (f a).KeepsTo p) : (act >>= f).KeepsTo p := by
  intro s
  have h := first s
  rw [outcome_bind]
  cases hact : act.outcome s with
  | mk answer s' =>
    rw [hact] at h
    cases answer with
    | ok a => exact h.trans (next a s')
    | error e => exact h

end Action

section Operations

theorem upsertBase_keepsTo (id : String) (location : Coordinate) (active : Bool) :
    (upsertBase id location active).KeepsTo .bases := by
  intro s
  rw [outcome_upsertBase]
  split <;> exact .bases _

theorem upsertRisk_keepsTo (id : StopId) (risk : RiskScores) :
    (upsertRisk id risk).KeepsTo .catalog := by
  intro s
  rw [outcome_upsertRisk]
  split <;> exact .catalog _

theorem upsertStop_keepsTo (pool : String) (stop : Stop) :
    (upsertStop pool stop).KeepsTo .catalog := by
  intro s
  rw [outcome_upsertStop]
  cases s.catalog.putStop pool stop with
  | error e => exact differsIn_refl s .catalog
  | ok catalog =>
    have stored : s.DiffersIn .catalog { s with catalog } := .catalog catalog
    cases stop.risk with
    | none => exact stored
    | some risk => exact stored.trans (upsertRisk_keepsTo stop.id risk _)

theorem addOverride_keepsTo (o : Override) (author : String) :
    (addOverride o author).KeepsTo .overrides := by
  intro s
  rw [outcome_addOverride]
  exact .overrides _

theorem deleteOverride_keepsTo (id : Int) : (deleteOverride id).KeepsTo .overrides := by
  intro s
  rw [outcome_deleteOverride]
  exact .overrides _

theorem insertRun_keepsTo (header : RunHeader) (total : Cost) (entries : List RouteEntry) :
    (insertRun header total entries).KeepsTo .runs := by
  intro s
  rw [outcome_insertRun]
  split <;> exact .runs _

theorem startRun_keepsTo (now : String) (id : Int) : (startRun now id).KeepsTo .runs := by
  intro s
  rw [outcome_startRun]
  exact .runs _

theorem finishRun_keepsTo (now : String) (id : Int) : (finishRun now id).KeepsTo .runs := by
  intro s
  rw [outcome_finishRun]
  exact .runs _

theorem setStopStatus_keepsTo (now : String) (id : Int) (stop : StopId) (status : StopStatus) :
    (setStopStatus now id stop status).KeepsTo .runs := by
  intro s
  rw [outcome_setStopStatus]
  split <;> exact .runs _

theorem completeIfAllTerminal_keepsTo (now : String) (id : Int) :
    (completeIfAllTerminal now id).KeepsTo .runs := by
  intro s
  rw [outcome_completeIfAllTerminal]
  split <;> exact .runs _

end Operations

section Edits

theorem exists_editText (column : Column) (rows : Nat) (text : Option String) :
    ∃ answer : Except StoreError String, editText column rows text = liftM answer := by
  cases text with
  | some text => exact ⟨.ok text, rfl⟩
  | none =>
    unfold editText
    by_cases unneeded : rows = 0
    · exact ⟨.ok "", if_pos unneeded⟩
    · exact ⟨.error (.table (.missingValue column)), if_neg unneeded⟩

theorem editText_keepsTo (p : Part) (column : Column) (rows : Nat) (text : Option String) :
    (editText column rows text).KeepsTo p := by
  obtain ⟨answer, only⟩ := exists_editText column rows text
  rw [only]
  exact keepsTo_liftM answer

theorem editRuns_keepsTo (p : RunRow → Bool) (f : RunRow → RunRow) :
    (editRuns p f).KeepsTo .runs :=
  fun _ => .runs _

theorem editStops_keepsTo (stop : StopId) (f : StopRow → StopRow) :
    (editStops stop f).KeepsTo .runs :=
  fun _ => .runs _

theorem editRunStatus_keepsTo (id : Int) (text : Option String) :
    (editRunStatus id text).KeepsTo .runs :=
  keepsTo_get.bind fun _ => (editText_keepsTo _ _ _ _).bind fun _ => editRuns_keepsTo _ _

theorem editStopStatus_keepsTo (stop : StopId) (text : Option String) :
    (editStopStatus stop text).KeepsTo .runs :=
  (editStops_keepsTo _ _).bind fun _ => (editText_keepsTo _ _ _ _).bind fun _ =>
    editStops_keepsTo _ _

theorem editOverrideKind_keepsTo (id : Int) (text : Option String) :
    (editOverrideKind id text).KeepsTo .overrides :=
  keepsTo_get.bind fun _ => (editText_keepsTo _ _ _ _).bind fun _ => fun _ => .overrides _

end Edits

/-- An operation leaves the other parts of the store alone. -/
theorem Operation.differsIn_after (op : Operation) (s : Store) :
    s.DiffersIn op.part (op.after s) := by
  cases op with
  | upsertBase id location active => exact upsertBase_keepsTo id location active s
  | upsertStop pool stop => exact upsertStop_keepsTo pool stop s
  | upsertRisk id risk => exact upsertRisk_keepsTo id risk s
  | addOverride o author => exact addOverride_keepsTo o author s
  | deleteOverride id => exact deleteOverride_keepsTo id s
  | insertRun header total entries => exact insertRun_keepsTo header total entries s
  | startRun now id => exact startRun_keepsTo now id s
  | finishRun now id => exact finishRun_keepsTo now id s
  | setStopStatus now id stop status => exact setStopStatus_keepsTo now id stop status s
  | completeIfAllTerminal now id => exact completeIfAllTerminal_keepsTo now id s
  | editRunStatus id text => exact editRunStatus_keepsTo id text s
  | editStartedAt id time => exact editRuns_keepsTo _ _ s
  | editFinishedAt id time => exact editRuns_keepsTo _ _ s
  | editStopStatus stop text => exact editStopStatus_keepsTo stop text s
  | editCompletedAt stop time => exact editStops_keepsTo _ _ s
  | editOverrideKind id text => exact editOverrideKind_keepsTo id text s

namespace Action

/-- The action does no more to the runs than rewriting them. -/
def Rewrites (act : Action α) : Prop :=
  ∀ s : Store, s.runs.Rewrites (act.outcome s).2.runs

theorem rewrites_of_runs_eq {act : Action α} (h : ∀ s, (act.outcome s).2.runs = s.runs) :
    act.Rewrites := by
  intro s
  rw [h]
  exact rewrites_refl _

theorem rewrites_liftM (answer : Except StoreError α) : (liftM answer : Action α).Rewrites :=
  rewrites_of_runs_eq fun s => by rw [outcome_liftM]

theorem rewrites_get : (get : Action Store).Rewrites :=
  rewrites_of_runs_eq fun _ => rfl

theorem Rewrites.bind {act : Action α} {f : α → Action β} (first : act.Rewrites)
    (next : ∀ a, (f a).Rewrites) : (act >>= f).Rewrites := by
  intro s
  have h := first s
  rw [outcome_bind]
  cases hact : act.outcome s with
  | mk answer s' =>
    rw [hact] at h
    cases answer with
    | ok a => exact h.trans (next a s')
    | error e => exact h

end Action

theorem RunRow.id_start (now : String) (row : RunRow) : (row.start now).id = row.id := by
  unfold RunRow.start
  split <;> rfl

theorem editText_rewrites (column : Column) (rows : Nat) (text : Option String) :
    (editText column rows text).Rewrites := by
  obtain ⟨answer, only⟩ := exists_editText column rows text
  rw [only]
  exact rewrites_liftM answer

theorem editRuns_rewrites (p : RunRow → Bool) {f : RunRow → RunRow}
    (h : ∀ row, (f row).id = row.id) : (editRuns p f).Rewrites := by
  refine fun s => ⟨fun row => if p row then f row else row, fun row => ?_, rfl⟩
  dsimp only
  split
  · exact h row
  · rfl

theorem editStops_rewrites (stop : StopId) (f : StopRow → StopRow) :
    (editStops stop f).Rewrites :=
  fun _ => ⟨fun row =>
    { row with stops := row.stops.map fun s => if s.entry.stop = stop then f s else s },
    fun _ => rfl, rfl⟩

theorem editStartedAt_rewrites (id : Int) (time : Option String) :
    (editStartedAt id time).Rewrites :=
  editRuns_rewrites _ fun _ => rfl

theorem editFinishedAt_rewrites (id : Int) (time : Option String) :
    (editFinishedAt id time).Rewrites :=
  editRuns_rewrites _ fun _ => rfl

theorem editCompletedAt_rewrites (stop : StopId) (time : Option String) :
    (editCompletedAt stop time).Rewrites :=
  editStops_rewrites _ _

theorem editRunStatus_rewrites (id : Int) (text : Option String) :
    (editRunStatus id text).Rewrites := by
  refine rewrites_get.bind fun s => (editText_rewrites _ _ _).bind fun text => ?_
  exact editRuns_rewrites _ fun _ => rfl

theorem editStopStatus_rewrites (stop : StopId) (text : Option String) :
    (editStopStatus stop text).Rewrites := by
  refine (editStops_rewrites _ _).bind fun count => (editText_rewrites _ _ _).bind fun text => ?_
  exact editStops_rewrites _ _

/-- One operation rewrites runs, or enters one. -/
theorem Operation.runs_after (op : Operation) (s : Store) :
    s.runs.Rewrites (op.after s).runs ∨ ∃ header total entries id,
      s.runs.insert header total entries = .ok (id, (op.after s).runs) := by
  by_cases runs : op.part = .runs
  · cases op with
    | insertRun header total entries =>
      simp only [Operation.after, outcome_insertRun]
      cases hinsert : s.runs.insert header total entries with
      | ok inserted => exact .inr ⟨header, total, entries, inserted.1, hinsert⟩
      | error e => exact .inl (rewrites_refl _)
    | startRun now id =>
      rw [after, outcome_startRun]
      exact .inl (update_rewrites s.runs id (RunRow.id_start now))
    | finishRun now id =>
      rw [after, outcome_finishRun]
      exact .inl (update_rewrites s.runs id fun _ => rfl)
    | setStopStatus now id stop status =>
      rw [after, outcome_setStopStatus]
      split
      · exact .inl (update_rewrites s.runs id fun _ => rfl)
      · exact .inl (rewrites_refl _)
    | completeIfAllTerminal now id =>
      rw [after, outcome_completeIfAllTerminal]
      split
      · exact .inl (update_rewrites s.runs id fun _ => rfl)
      · exact .inl (rewrites_refl _)
    | editRunStatus id text => exact .inl (editRunStatus_rewrites id text s)
    | editStartedAt id time => exact .inl (editStartedAt_rewrites id time s)
    | editFinishedAt id time => exact .inl (editFinishedAt_rewrites id time s)
    | editStopStatus stop text => exact .inl (editStopStatus_rewrites stop text s)
    | editCompletedAt stop time => exact .inl (editCompletedAt_rewrites stop time s)
    | _ => cases runs
  · rw [(op.differsIn_after s).runs_eq runs]
    exact .inl (rewrites_refl _)

theorem Reachable.wellNumbered {store : Store} (h : Reachable store) :
    store.runs.WellNumbered := by
  induction h with
  | empty => intro row hrow; cases hrow
  | @next store op _ ih =>
    rcases op.runs_after store with hrewrites | ⟨header, total, entries, id, hinsert⟩
    · exact ih.of_rewrites hrewrites
    · exact ih.insert hinsert

theorem Reachable.distinct {store : Store} (h : Reachable store) :
    (store.runs.rows.map (·.id)).Nodup := by
  induction h with
  | empty => exact List.nodup_nil
  | @next store op reachable ih =>
    rcases op.runs_after store with ⟨f, same, rewritten⟩ | ⟨header, total, entries, id, hinsert⟩
    · rw [rewritten, List.map_map]
      simpa [Function.comp_def, same] using ih
    · exact insert_distinct reachable.wellNumbered ih hinsert

end ServiceRoute.Store
