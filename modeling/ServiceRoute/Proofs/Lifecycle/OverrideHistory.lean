import Mathlib.Data.List.Induction
import ServiceRoute.Proofs.Lifecycle.Calls

/-!
# The history of the overrides

What a store holds of overrides is told by the calls that add and delete them and by their answers,
whatever else the store is asked in between. An override stands from the call that adds it until
its id is deleted. Every id is new, so that no deletion meets another override than its own.
-/

namespace ServiceRoute

/-- The override as it comes back from a store. A negative zero loses its sign. -/
def Override.readBack (o : Override) : Override :=
  { o with value := o.value.map fun x => if x == 0 then 0 else x }

namespace Store

open Store.Action

/-- A call that adds or deletes an override, with its answer. -/
inductive OverrideEvent where
  | added (o : Override) (answer : Except StoreError Int)
  | deleted (id : Int) (answer : Except StoreError Bool)

/-- The override that was added, under the id it was given. -/
def OverrideEvent.given? : OverrideEvent → Option (Int × Override)
  | added o (.ok id) => some (id, o)
  | _ => none

/-- The id that was deleted, if there was something to delete. -/
def OverrideEvent.removed? : OverrideEvent → Option Int
  | deleted id (.ok true) => some id
  | _ => none

def given (events : List OverrideEvent) : List (Int × Override) :=
  events.filterMap OverrideEvent.given?

def removed (events : List OverrideEvent) : List Int :=
  events.filterMap OverrideEvent.removed?

def standing (events : List OverrideEvent) : List (Int × Override) :=
  (given events).filter (·.1 ∉ removed events)

/-- What the calls for overrides may answer. An added override is given an id beyond all those
given before. A deletion succeeds if its id was given and not deleted since, and only then. -/
inductive Chronicle : List OverrideEvent → Prop
  | nil : Chronicle []
  | added {events : List OverrideEvent} {o : Override} {id : Int} (h : Chronicle events)
    (beyond : ∀ earlier ∈ (given events).map (·.1), earlier < id) :
    Chronicle (events ++ [.added o (.ok id)])
  | deleted {events : List OverrideEvent} {id : Int} (h : Chronicle events)
    (stands : id ∈ (standing events).map (·.1)) : Chronicle (events ++ [.deleted id (.ok true)])
  | refused {events : List OverrideEvent} {id : Int} (h : Chronicle events)
    (absent : id ∉ (standing events).map (·.1)) : Chronicle (events ++ [.deleted id (.ok false)])

/-- The call as an event, if it adds or deletes an override. -/
def Call.overrideEvent? (s : Store) : Call → Option OverrideEvent
  | perform (.addOverride o author) _ =>
    some (.added o ((Store.addOverride o author).outcome s).1)
  | perform (.deleteOverride id) _ => some (.deleted id ((Store.deleteOverride id).outcome s).1)
  | _ => none

def overrideEvents (s : Store) : List Call → List OverrideEvent
  | [] => []
  | call :: calls => (call.overrideEvent? s).toList ++ overrideEvents (call.after s) calls

theorem overrideEvents_concat (s : Store) (calls : List Call) (call : Call) :
    overrideEvents s (calls ++ [call]) =
      overrideEvents s calls ++ (call.overrideEvent? (s.afterCalls calls)).toList := by
  induction calls generalizing s with
  | nil => exact List.append_nil _
  | cons first calls ih =>
    rw [List.cons_append, overrideEvents, overrideEvents, ih, List.append_assoc,
      afterCalls_cons]

section Events

variable (events : List OverrideEvent) (o : Override) (id : Int)

theorem given_added : given (events ++ [.added o (.ok id)]) = given events ++ [(id, o)] := by
  simp [given, OverrideEvent.given?]

theorem removed_added : removed (events ++ [.added o (.ok id)]) = removed events := by
  simp [removed, OverrideEvent.removed?]

theorem given_deleted (answer : Except StoreError Bool) :
    given (events ++ [.deleted id answer]) = given events := by
  simp [given, OverrideEvent.given?]

theorem removed_deleted :
    removed (events ++ [.deleted id (.ok true)]) = removed events ++ [id] := by
  simp [removed, OverrideEvent.removed?]

theorem removed_refused : removed (events ++ [.deleted id (.ok false)]) = removed events := by
  simp [removed, OverrideEvent.removed?]

variable {events id} in
theorem standing_added (unknown : id ∉ removed events) :
    standing (events ++ [.added o (.ok id)]) = standing events ++ [(id, o)] := by
  rw [standing, given_added, removed_added, List.filter_append]
  simp [standing, unknown]

theorem standing_deleted : standing (events ++ [.deleted id (.ok true)]) =
    (standing events).filter (·.1 ≠ id) := by
  rw [standing, given_deleted, removed_deleted, standing, List.filter_filter]
  apply List.filter_congr
  intro p _
  simp [and_comm]

theorem standing_refused : standing (events ++ [.deleted id (.ok false)]) = standing events := by
  rw [standing, given_deleted, removed_refused, standing]

end Events

section Chronicle

variable {events : List OverrideEvent}

theorem mem_map_standing {id : Int} :
    id ∈ (standing events).map (·.1) ↔ id ∈ (given events).map (·.1) ∧ id ∉ removed events := by
  simp [standing]

theorem Chronicle.increasing (h : Chronicle events) :
    ((given events).map (·.1)).Pairwise (· < ·) := by
  induction h with
  | nil => exact List.Pairwise.nil
  | added h beyond ih =>
    rw [given_added, List.map_append, List.pairwise_append]
    refine ⟨ih, List.pairwise_singleton _ _, ?_⟩
    intro earlier hearlier later hlater
    obtain rfl : later = _ := by simpa using hlater
    exact beyond earlier hearlier
  | deleted h stands ih =>
    rw [given_deleted]
    exact ih
  | refused h absent ih =>
    rw [given_deleted]
    exact ih

theorem Chronicle.removed_subset (h : Chronicle events) :
    removed events ⊆ (given events).map (·.1) := by
  induction h with
  | nil => exact List.nil_subset _
  | added h beyond ih =>
    rw [given_added, removed_added, List.map_append]
    exact List.subset_append_of_subset_left _ ih
  | deleted h stands ih =>
    rw [given_deleted, removed_deleted]
    intro id hid
    rcases List.mem_append.mp hid with earlier | now
    · exact ih earlier
    · rw [List.mem_singleton.mp now]
      exact (mem_map_standing.mp stands).1
  | refused h absent ih =>
    rw [given_deleted, removed_refused]
    exact ih

theorem Chronicle.nodup_removed (h : Chronicle events) : (removed events).Nodup := by
  induction h with
  | nil => exact List.nodup_nil
  | added h beyond ih =>
    rw [removed_added]
    exact ih
  | deleted h stands ih =>
    rw [removed_deleted]
    exact List.nodup_append_comm.mp (ih.cons (mem_map_standing.mp stands).2)
  | refused h absent ih =>
    rw [removed_refused]
    exact ih

end Chronicle

section Rows

variable {events : List OverrideEvent} {log : OverrideLog}

def OverrideRow.withoutAuthor (row : OverrideRow) : OverrideRow :=
  { row with author := "" }

/-- The row of an override, but for its author. -/
def rowOf (p : Int × Override) : OverrideRow :=
  ⟨p.1, p.2.pool, p.2.stop, .known p.2.kind, p.2.value.bind stored?, ""⟩

/-- The rows are those of the overrides that stand, and no id was given out beyond the last one. -/
structure OverrideLog.ToldBy (log : OverrideLog) (events : List OverrideEvent) : Prop where
  chronicle : Chronicle events
  rows : log.rows.map OverrideRow.withoutAuthor = (standing events).map rowOf
  numbered : ∀ id ∈ (given events).map (·.1), id ≤ log.lastId

theorem OverrideLog.ToldBy.ids (h : log.ToldBy events) :
    log.rows.map (·.id) = (standing events).map (·.1) := by
  have same := congrArg (List.map (·.id)) h.rows
  rwa [List.map_map, List.map_map] at same

theorem OverrideLog.ToldBy.add (h : log.ToldBy events) (o : Override) (author : String) :
    (log.add o author).ToldBy (events ++ [.added o (.ok (log.lastId + 1))]) := by
  have unknown : log.lastId + 1 ∉ removed events := by
    intro known
    have bound := h.numbered _ (h.chronicle.removed_subset known)
    omega
  refine ⟨h.chronicle.added fun earlier hearlier => ?_, ?_, ?_⟩
  · have bound := h.numbered earlier hearlier
    omega
  · rw [standing_added o unknown, List.map_append, ← h.rows]
    simp [OverrideLog.add, OverrideRow.withoutAuthor, rowOf]
  · rw [given_added, List.map_append]
    intro id hid
    rcases List.mem_append.mp hid with earlier | now
    · exact Int.le_add_one (h.numbered id earlier)
    · obtain rfl : id = log.lastId + 1 := by simpa using now
      exact Int.le_refl _

theorem OverrideLog.ToldBy.rows_delete (h : log.ToldBy events) (id : Int) :
    (log.delete id).2.rows.map OverrideRow.withoutAuthor =
      ((standing events).filter (·.1 ≠ id)).map rowOf := by
  calc (log.rows.filter (·.id ≠ id)).map OverrideRow.withoutAuthor
      = (log.rows.map OverrideRow.withoutAuthor).filter (·.id ≠ id) := by
        rw [List.filter_map]
        rfl
    _ = ((standing events).map rowOf).filter (·.id ≠ id) := by rw [h.rows]
    _ = ((standing events).filter (·.1 ≠ id)).map rowOf := List.filter_map

theorem OverrideLog.ToldBy.delete (h : log.ToldBy events) (id : Int) :
    (log.delete id).2.ToldBy (events ++ [.deleted id (.ok (log.delete id).1)]) := by
  have answer : (log.delete id).1 = decide (id ∈ (standing events).map (·.1)) := by
    rw [← h.ids, Bool.eq_iff_iff]
    simp [OverrideLog.delete]
  rw [answer]
  by_cases stands : id ∈ (standing events).map (·.1)
  · rw [decide_eq_true stands]
    refine ⟨h.chronicle.deleted stands, ?_, ?_⟩
    · rw [standing_deleted, h.rows_delete]
    · rw [given_deleted]
      exact h.numbered
  · rw [decide_eq_false stands]
    refine ⟨h.chronicle.refused stands, ?_, ?_⟩
    · have others : (standing events).filter (·.1 ≠ id) = standing events := by
        rw [List.filter_eq_self]
        intro p hp
        have other : p.1 ≠ id := by
          rintro rfl
          exact stands (List.mem_map_of_mem hp)
        simpa using other
      rw [standing_refused, h.rows_delete, others]
    · rw [given_deleted]
      exact h.numbered

/-- A number comes back, though a negative zero loses its sign. -/
theorem bind_stored? {o : Override} (number : ∀ x ∈ o.value, x.isNaN = false) :
    { o with value := o.value.bind stored? } = o.readBack := by
  unfold Override.readBack
  cases value : o.value with
  | none => rfl
  | some x =>
    have kept := number x value
    simp only [Option.bind_some, Option.map_some, stored?, kept, Bool.false_eq_true, if_false]
    split_ifs <;> rfl

/-- The overrides of the pool among these, as they come back. -/
def ofPool (pool : String) (ps : List (Int × Override)) : List Override :=
  (ps.filter (·.2.pool = pool)).map (·.2.readBack)

/-- What is read of a pool is known from the rows. -/
theorem forPool_eq_of_rows {ps : List (Int × Override)}
    (rows : log.rows.map OverrideRow.withoutAuthor = ps.map rowOf)
    (numbers : ∀ p ∈ ps, ∀ x ∈ p.2.value, x.isNaN = false) (pool : String) :
    log.forPool pool = .ok (ofPool pool ps) := by
  calc log.forPool pool
      = ((log.rows.map OverrideRow.withoutAuthor).filter (·.pool = pool)).mapM
          OverrideRow.read := by
        rw [OverrideLog.forPool, List.filter_map, List.mapM_map]
        rfl
    _ = (ps.filter (·.2.pool = pool)).mapM fun p =>
          (pure { p.2 with value := p.2.value.bind stored? } : Except StoreError Override) := by
        rw [rows, List.filter_map, List.mapM_map]
        rfl
    _ = .ok ((ps.filter (·.2.pool = pool)).map fun p =>
          { p.2 with value := p.2.value.bind stored? }) := List.mapM_pure
    _ = .ok (ofPool pool ps) := by
        apply congrArg
        apply List.map_congr_left
        intro p hp
        exact bind_stored? (numbers p (List.mem_of_mem_filter hp))

end Rows

section Calls

theorem Operation.overrides_after {op : Operation} (proper : op.isEdit = false) (s : Store)
    (quiet : (Call.perform op proper).overrideEvent? s = none) :
    (op.after s).overrides = s.overrides := by
  apply (op.differsIn_after s).overrides_eq
  intro same
  cases op with
  | addOverride o author => cases quiet
  | deleteOverride id => cases quiet
  | editOverrideKind id text => cases proper
  | _ => cases same

theorem Call.overrides_after {call : Call} (s : Store) (quiet : call.overrideEvent? s = none) :
    (call.after s).overrides = s.overrides := by
  by_cases performs : ∃ op proper, call = perform op proper
  · obtain ⟨op, proper, rfl⟩ := performs
    exact Operation.overrides_after proper s quiet
  · rcases call.after_of_not_perform (fun op proper same => performs ⟨op, proper, same⟩) s with
      same | ⟨header, total, entries, filed⟩
    · rw [same]
    · have other : (Operation.insertRun header total entries).part ≠ .overrides := by
        intro same
        cases same
      rw [filed]
      exact (Operation.differsIn_after _ s).overrides_eq other

/-- What is told of the overrides before a call is told of them after it, with its event. -/
theorem OverrideLog.ToldBy.afterCall {s : Store} {events : List OverrideEvent}
    (h : s.overrides.ToldBy events) (call : Call) :
    (call.after s).overrides.ToldBy (events ++ (call.overrideEvent? s).toList) := by
  cases event : call.overrideEvent? s with
  | none =>
    rw [Call.overrides_after s event]
    simpa using h
  | some e =>
    cases call with
    | perform op proper =>
      cases op with
      | addOverride o author =>
        obtain rfl := Option.some.inj event
        exact h.add o author
      | deleteOverride id =>
        obtain rfl := Option.some.inj event
        exact h.delete id
      | _ => cases event
    | _ => cases event

theorem toldBy_overrideEvents (calls : List Call) :
    (Store.empty.afterCalls calls).overrides.ToldBy (overrideEvents .empty calls) := by
  induction calls using List.reverseRecOn with
  | nil => exact ⟨.nil, rfl, fun id hid => by cases hid⟩
  | append_singleton calls call ih =>
    rw [overrideEvents_concat, afterCalls_concat]
    exact ih.afterCall call

end Calls

/-- The overrides of a store are a log of the calls that add and delete them, whatever else the
store is asked in between. Every call for them is answered, each new id is greater than all before
it, and a deletion succeeds once for each id, while the override stands. What is read of a pool are
the overrides that were added to it and not deleted, in the order in which they were added, each as
it was added but for the sign of a zero. A further deletion takes away no other override. -/
theorem overrides_follow_events {calls : List Call}
    (numbers : ∀ p ∈ given (overrideEvents .empty calls), ∀ x ∈ p.2.value, x.isNaN = false) :
    Chronicle (overrideEvents .empty calls) ∧
      ((given (overrideEvents .empty calls)).map (·.1)).Pairwise (· < ·) ∧
      (removed (overrideEvents .empty calls)).Nodup ∧
      (∀ pool, (overridesForPool pool).outcome (Store.empty.afterCalls calls) =
        (.ok (ofPool pool (standing (overrideEvents .empty calls))),
          Store.empty.afterCalls calls)) ∧
      ∀ id pool, ((overridesForPool pool).outcome
        ((deleteOverride id).outcome (Store.empty.afterCalls calls)).2).1 =
          .ok (ofPool pool ((standing (overrideEvents .empty calls)).filter (·.1 ≠ id))) := by
  have told := toldBy_overrideEvents calls
  generalize overrideEvents .empty calls = events at told numbers
  have known : ∀ p ∈ standing events, ∀ x ∈ p.2.value, x.isNaN = false :=
    fun p hp => numbers p (List.mem_of_mem_filter hp)
  refine ⟨told.chronicle, told.chronicle.increasing, told.chronicle.nodup_removed, ?_, ?_⟩
  · intro pool
    rw [outcome_overridesForPool, forPool_eq_of_rows told.rows known]
  · intro id pool
    rw [outcome_overridesForPool, outcome_deleteOverride]
    apply forPool_eq_of_rows (told.rows_delete id)
    exact fun p hp => known p (List.mem_of_mem_filter hp)

/-! Overrides of two pools. The newest is deleted, and later its id once more. -/

namespace Instructions

def inclusion : Override :=
  ⟨"north", "A", .forceInclude, none⟩

def exclusion : Override :=
  ⟨"south", "B", .forceExclude, none⟩

def bump : Override :=
  ⟨"north", "C", .priorityBump, some 1.5⟩

def calls : List Call :=
  [.perform (.addOverride inclusion "ana") rfl, .perform (.addOverride exclusion "ana") rfl,
    .perform (.deleteOverride 2) rfl, .perform (.addOverride bump "ben") rfl,
    .perform (.deleteOverride 2) rfl]

theorem overrideEvents_calls : overrideEvents .empty calls =
    [.added inclusion (.ok 1), .added exclusion (.ok 2), .deleted 2 (.ok true), .added bump (.ok 3),
      .deleted 2 (.ok false)] := rfl

/-- A bump by a negative zero. -/
def signed : Override :=
  ⟨"north", "A", .priorityBump, some (-0)⟩

end Instructions

theorem overrides_follow_events_instructions :
    Chronicle [.added Instructions.inclusion (.ok 1), .added Instructions.exclusion (.ok 2),
        .deleted 2 (.ok true), .added Instructions.bump (.ok 3), .deleted 2 (.ok false)] ∧
      ((overridesForPool "north").outcome (Store.empty.afterCalls Instructions.calls)).1 =
        .ok [Instructions.inclusion, Instructions.bump] := by
  have numbers : ∀ p ∈ given (overrideEvents .empty Instructions.calls), ∀ x ∈ p.2.value,
      x.isNaN = false := by
    rw [Instructions.overrideEvents_calls]
    decide
  obtain ⟨chronicle, -, -, read, -⟩ := overrides_follow_events numbers
  rw [Instructions.overrideEvents_calls] at chronicle read
  refine ⟨chronicle, ?_⟩
  rw [read]
  decide

/-- A negative zero is not read back as it was added. -/
theorem overrides_lose_sign :
    overrideEvents .empty [.perform (.addOverride Instructions.signed "ana") rfl] =
        [.added Instructions.signed (.ok 1)] ∧
      ((overridesForPool "north").outcome (Store.empty.afterCalls
        [.perform (.addOverride Instructions.signed "ana") rfl])).1 =
          .ok [⟨"north", "A", .priorityBump, some 0⟩] ∧
      ((overridesForPool "north").outcome (Store.empty.afterCalls
        [.perform (.addOverride Instructions.signed "ana") rfl])).1 ≠
          .ok [Instructions.signed] := by
  have read : ((overridesForPool "north").outcome (Store.empty.afterCalls
      [.perform (.addOverride Instructions.signed "ana") rfl])).1 =
        .ok [⟨"north", "A", .priorityBump, some 0⟩] := by
    decide
  refine ⟨rfl, read, ?_⟩
  rw [read]
  decide

end Store

end ServiceRoute
