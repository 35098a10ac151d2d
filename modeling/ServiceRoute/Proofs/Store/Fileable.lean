import Mathlib.Data.List.Perm.Basic
import ServiceRoute.Proofs.Store.History
import ServiceRoute.Proofs.Store.Transaction

/-!
# Which runs can be filed

A run can be filed if all its costs are numbers and no two of its stops share an id or a position,
in whatever order the stops are handed over. It is filed under an id beyond every id answered
before, and loaded with its stops in the order of their positions. A run that cannot be filed
leaves no trace, in the store or in anything that happens later.
-/

namespace ServiceRoute.Store

open Store.Action RunBook

/-- What the table of runs accepts. -/
structure Fileable (total : Cost) (entries : List RouteEntry) : Prop where
  total : total.IsNumber
  costs : ∀ e ∈ entries, e.cost.IsNumber
  sequences : (entries.map (·.sequence)).Nodup
  stops : (entries.map (·.stop)).Nodup

/-- An entry is accepted if its costs are numbers, and no earlier entry has its position or its
stop. -/
theorem exists_storedEntry {earlier : List RouteEntry} {entry : RouteEntry} :
    (∃ entry', storedEntry earlier entry = .ok entry') ↔ entry.cost.IsNumber ∧
      entry.sequence ∉ earlier.map (·.sequence) ∧ entry.stop ∉ earlier.map (·.stop) := by
  rw [← @exists_storedCost .entryDistance .entryDuration, storedEntry, exists_bind_eq_ok]
  constructor
  · rintro ⟨cost, hcost, entry', placed⟩
    split at placed
    · cases placed
    · rename_i position
      split at placed
      · cases placed
      · rename_i stop
        exact ⟨⟨cost, hcost⟩, position, stop⟩
  · rintro ⟨⟨cost, hcost⟩, position, stop⟩
    refine ⟨cost, hcost, { entry with cost }, ?_⟩
    rw [if_neg position, if_neg stop]
    rfl

section Fresh

variable {κ : Type}

/-- No key occurs twice, and none is an earlier one. -/
def Fresh (earlier keys : List κ) : Prop :=
  keys.Nodup ∧ ∀ k ∈ keys, k ∉ earlier

theorem fresh_nil {keys : List κ} : Fresh [] keys ↔ keys.Nodup := by
  simp [Fresh]

theorem fresh_cons {earlier rest : List κ} {k : κ} :
    Fresh earlier (k :: rest) ↔ k ∉ earlier ∧ Fresh (earlier ++ [k]) rest := by
  simp only [Fresh, List.nodup_cons, List.mem_cons, forall_eq_or_imp, List.mem_append,
    List.not_mem_nil, or_false, not_or]
  constructor
  · rintro ⟨⟨first, rest⟩, new, later⟩
    exact ⟨new, rest, fun x hx => ⟨later x hx, fun same => first (same ▸ hx)⟩⟩
  · rintro ⟨new, rest, later⟩
    exact ⟨⟨fun again => (later k again).2 rfl, rest⟩, new, fun x hx => (later x hx).1⟩

end Fresh

theorem exists_storedEntries {earlier entries : List RouteEntry} :
    (∃ stored, storedEntries earlier entries = .ok stored) ↔
      (∀ e ∈ entries, e.cost.IsNumber) ∧
      Fresh (earlier.map (·.sequence)) (entries.map (·.sequence)) ∧
      Fresh (earlier.map (·.stop)) (entries.map (·.stop)) := by
  induction entries generalizing earlier with
  | nil => simp [storedEntries, Fresh, pure, Except.pure]
  | cons entry rest ih =>
    rw [List.map_cons, List.map_cons, fresh_cons, fresh_cons, List.forall_mem_cons, storedEntries,
      exists_bind_eq_ok]
    -- The entry keeps its position and its stop, so the others see the same keys before them.
    have later : ∀ entry', storedEntry earlier entry = .ok entry' →
        ((∃ stored, storedEntries (earlier ++ [entry']) rest = .ok stored) ↔
          (∀ e ∈ rest, e.cost.IsNumber) ∧
          Fresh (earlier.map (·.sequence) ++ [entry.sequence]) (rest.map (·.sequence)) ∧
          Fresh (earlier.map (·.stop) ++ [entry.stop]) (rest.map (·.stop))) := by
      intro entry' hentry
      have same := storedEntry_eq_ok hentry
      rw [ih, List.map_append, List.map_append, List.map_singleton, List.map_singleton,
        same.sequence, same.stop]
    constructor
    · rintro ⟨entry', hentry, hrest⟩
      obtain ⟨number, position, stop⟩ := exists_storedEntry.mp ⟨entry', hentry⟩
      obtain ⟨numbers, positions, stops⟩ := (later entry' hentry).mp hrest
      exact ⟨⟨number, numbers⟩, ⟨position, positions⟩, stop, stops⟩
    · rintro ⟨⟨number, numbers⟩, ⟨position, positions⟩, stop, stops⟩
      obtain ⟨entry', hentry⟩ := exists_storedEntry.mpr ⟨number, position, stop⟩
      exact ⟨entry', hentry, (later entry' hentry).mpr ⟨numbers, positions, stops⟩⟩

theorem exists_insertRun {header : RunHeader} {total : Cost} {entries : List RouteEntry}
    {store : Store} :
    (∃ id store', (insertRun header total entries).outcome store = (.ok id, store')) ↔
      Fileable total entries := by
  have parts : Fileable total entries ↔
      (∃ total', storedCost .runDistance .runDuration total = .ok total') ∧
        ∃ stored, storedEntries [] entries = .ok stored := by
    rw [exists_storedCost, exists_storedEntries, List.map_nil, List.map_nil, fresh_nil, fresh_nil]
    exact ⟨fun h => ⟨h.total, h.costs, h.sequences, h.stops⟩,
      fun h => ⟨h.1, h.2.1, h.2.2.1, h.2.2.2⟩⟩
  rw [parts, outcome_insertRun, RunBook.insert]
  cases storedCost .runDistance .runDuration total with
  | error e => simp [bind, Except.bind]
  | ok total' => cases storedEntries [] entries <;> simp [bind, Except.bind, pure, Except.pure]

section Ids

/-- The id that the operation answers, if it files a run. -/
def Operation.filed? (op : Operation) (store : Store) : Option Int :=
  match op with
  | insertRun header total entries =>
    ((Store.insertRun header total entries).outcome store).1.toOption
  | _ => none

def filedIds (store : Store) : List Operation → List Int
  | [] => []
  | op :: rest => (op.filed? store).toList ++ filedIds (op.after store) rest

theorem Operation.lastId_le_after (op : Operation) (store : Store) :
    store.runs.lastId ≤ (op.after store).runs.lastId := by
  rcases op.runs_after store with ⟨f, _, rewritten⟩ | ⟨header, total, entries, id, inserted⟩
  · simp [rewritten]
  · obtain ⟨_, _, _, _, rfl, entered⟩ := insert_eq_ok inserted
    simp only [entered]
    omega

theorem Operation.filed?_eq_some {op : Operation} {store : Store} {id : Int}
    (h : op.filed? store = some id) : id = (op.after store).runs.lastId := by
  cases op with
  | insertRun header total entries =>
    simp only [filed?, Operation.after] at h ⊢
    cases run : (Store.insertRun header total entries).outcome store with
    | mk answer store' =>
      rw [run] at h
      cases answer with
      | error e => cases h
      | ok filed =>
        obtain rfl : filed = id := Option.some.inj h
        obtain ⟨_, _, _, _, _, rfl⟩ := insertRun_eq_ok run
        rfl
  | _ => cases h

theorem lastId_le_afterAll (store : Store) (ops : List Operation) :
    store.runs.lastId ≤ (store.afterAll ops).runs.lastId := by
  induction ops generalizing store with
  | nil => exact Int.le_refl _
  | cons op rest ih => exact Int.le_trans (op.lastId_le_after store) (ih (op.after store))

theorem filedIds_le (store : Store) (ops : List Operation) :
    ∀ id ∈ filedIds store ops, id ≤ (store.afterAll ops).runs.lastId := by
  induction ops generalizing store with
  | nil => simp [filedIds]
  | cons op rest ih =>
    intro id hid
    rcases List.mem_append.mp hid with here | later
    · rw [op.filed?_eq_some (Option.mem_toList.mp here)]
      exact lastId_le_afterAll (op.after store) rest
    · exact ih (op.after store) id later

end Ids

section Loaded

/-- A stop of a loaded run is the entry, not serviced yet. -/
structure Pending (id : Int) (entry : RouteEntry) (stop : RunStop) : Prop where
  runId : stop.runId = id
  entry : StoredAs entry stop.entry
  status : stop.status = .pending
  completedAt : stop.completedAt = none

/-- The run as it is loaded once it has been filed: not begun yet, and its stops are the entries
in the order of their positions. -/
structure Planned (id : Int) (header : RunHeader) (total : Cost) (entries : List RouteEntry)
    (run : RouteRun) : Prop where
  number : run.id = id
  header : run.header = header
  status : run.status = .planned
  total : total.Same run.total
  startedAt : run.startedAt = none
  finishedAt : run.finishedAt = none
  ascending : run.stops.Pairwise fun a b => a.entry.sequence < b.entry.sequence
  stops : ∃ order, order.Perm entries ∧ List.Forall₂ (Pending id) order run.stops

theorem bySequence_pairwise {entries : List RouteEntry}
    (distinct : (entries.map (·.sequence)).Nodup) :
    (bySequence entries).Pairwise fun a b => a.sequence < b.sequence := by
  have perm : (bySequence entries).Perm entries := List.mergeSort_perm _ _
  have sorted : (bySequence entries).Pairwise fun a b =>
      decide (a.sequence ≤ b.sequence) = true :=
    List.pairwise_mergeSort (fun a b c => by simp; omega) (fun a b => by simp; omega) entries
  have apart := List.pairwise_map.mp ((perm.map _).nodup_iff.mpr distinct)
  refine (sorted.and apart).imp fun {a b} h => ?_
  have le : a.sequence ≤ b.sequence := of_decide_eq_true h.1
  have ne : a.sequence ≠ b.sequence := h.2
  omega

theorem planned_filedRun {header : RunHeader} {total total' : Cost}
    {entries entries' : List RouteEntry} (id : Int) (same : total.Same total')
    (stored : List.Forall₂ StoredAs entries entries')
    (distinct : (entries.map (·.sequence)).Nodup) :
    Planned id header total entries (filedRun id header total' (bySequence entries')) where
  number := rfl
  header := rfl
  status := rfl
  total := same
  startedAt := rfl
  finishedAt := rfl
  ascending := by
    rw [← sequences_of_storedAs stored] at distinct
    exact List.pairwise_map.mpr (bySequence_pairwise distinct)
  stops := by
    -- What was handed over can be put in the order in which the stored entries are read.
    have reordered : Relation.Comp (List.Forall₂ StoredAs) List.Perm entries
        (bySequence entries') :=
      ⟨entries', stored, (List.mergeSort_perm _ _).symm⟩
    rw [List.forall₂_comp_perm_eq_perm_comp_forall₂] at reordered
    obtain ⟨order, perm, sorted⟩ := reordered
    refine ⟨order, perm.symm, List.forall₂_map_right_iff.mpr (sorted.imp fun entry entry' h => ?_)⟩
    exact ⟨rfl, h, rfl, rfl⟩

end Loaded

/-- What a filing that succeeds answers and leaves, where `given` are the ids answered before it:
the new id is beyond all of them, its run is loaded as it was filed, every other run as before, and
nothing but the runs has changed. -/
structure Files (header : RunHeader) (total : Cost) (entries : List RouteEntry) (given : List Int)
    (store : Store) (id : Int) (store' : Store) : Prop where
  fresh : ∀ earlier ∈ given, earlier < id
  loads : ∃ run, (loadRun id).outcome store' = (.ok (some run), store') ∧
    Planned id header total entries run
  others : ∀ other, other ≠ id →
    ((loadRun other).outcome store').1 = ((loadRun other).outcome store).1
  rest : store' = { store with runs := store'.runs }

/-- A run is filed exactly if its costs are numbers and no two of its stops share an id or a
position, and filing it comes to entering its rows one by one in a transaction. If it is filed, then
under a new id, to be loaded as it was handed over, with its stops in the order of their positions.
If it is not, at whichever row, the store is as it was and whatever happens later happens as if it
had never been tried. -/
theorem insertRun_files (history : List Operation) (header : RunHeader) (total : Cost)
    (entries : List RouteEntry) :
    ((∃ id store', (insertRun header total entries).outcome (Store.empty.afterAll history) =
      (.ok id, store')) ↔ Fileable total entries) ∧
    (insertRun header total entries).outcome (Store.empty.afterAll history) =
      (transaction (enterRows header total entries)).outcome (Store.empty.afterAll history) ∧
    (∀ id store', (insertRun header total entries).outcome (Store.empty.afterAll history) =
      (.ok id, store') →
      Files header total entries (filedIds .empty history) (Store.empty.afterAll history) id
        store') ∧
    ∀ e store', (insertRun header total entries).outcome (Store.empty.afterAll history) =
      (.error e, store') →
      store' = Store.empty.afterAll history ∧
      ∀ later, Store.empty.afterAll (history ++ .insertRun header total entries :: later) =
        Store.empty.afterAll (history ++ later) := by
  have numbered := (Reachable.empty.afterAll history).wellNumbered
  refine ⟨exists_insertRun, outcome_insertRun_eq_transaction numbered header total entries,
    fun id store' run => ?_, fun e store' run => ?_⟩
  · have fileable := exists_insertRun.mp ⟨id, store', run⟩
    obtain ⟨total', entries', same, stored, rfl, rfl⟩ := insertRun_eq_ok run
    refine ⟨fun earlier given => Int.lt_add_one_of_le (filedIds_le .empty history earlier given),
      ⟨_, outcome_loadRun_filed numbered (Int.lt_succ _) header total' entries',
        planned_filedRun _ same stored fileable.sequences⟩,
      fun other apart => outcome_loadRun_of_ne _ apart header total' entries', rfl⟩
  · obtain rfl := insertRun_eq_error run
    refine ⟨rfl, fun later => ?_⟩
    have untouched : (Operation.insertRun header total entries).after
        (Store.empty.afterAll history) = Store.empty.afterAll history :=
      congrArg Prod.snd run
    simp only [afterAll, List.foldl_append, List.foldl_cons] at untouched ⊢
    rw [untouched]

/-! Two stops handed over backwards, behind a run that was filed and one that was refused. -/

namespace Ledger

def header : RunHeader :=
  ⟨"north", "yard", "2024-05-03"⟩

def history : List Operation :=
  [.insertRun header ⟨7, 1⟩ [⟨"E", 0, ⟨7, 1⟩⟩],
    .insertRun header ⟨8, 2⟩ [⟨"E", 0, ⟨4, 1⟩⟩, ⟨"E", 1, ⟨4, 1⟩⟩]]

def entries : List RouteEntry :=
  [⟨"B", 1, ⟨20, 2⟩⟩, ⟨"A", 0, ⟨10, 1⟩⟩]

def filed : Store :=
  (Store.empty.afterAll history).withRun 2 header ⟨30, 3⟩ entries

theorem outcome_insertRun : (insertRun header ⟨30, 3⟩ entries).outcome
    (Store.empty.afterAll history) = (.ok 2, filed) := by
  decide

/-- The stop in the third row occurs in the second one. -/
theorem outcome_insertRun_repeated :
    (insertRun header ⟨30, 3⟩ (entries ++ [⟨"A", 2, ⟨0, 0⟩⟩])).outcome
      (Store.empty.afterAll history) =
        (.error (.table .repeatedStop), Store.empty.afterAll history) := by
  decide

end Ledger

theorem insertRun_files_ledger :
    Fileable ⟨30, 3⟩ Ledger.entries ∧
      (insertRun Ledger.header ⟨30, 3⟩ Ledger.entries).outcome
        (Store.empty.afterAll Ledger.history) = (.ok 2, Ledger.filed) ∧
      Files Ledger.header ⟨30, 3⟩ Ledger.entries [1] (Store.empty.afterAll Ledger.history) 2
        Ledger.filed ∧
      Store.empty.afterAll (Ledger.history ++ [.insertRun Ledger.header ⟨30, 3⟩
        (Ledger.entries ++ [⟨"A", 2, ⟨0, 0⟩⟩]), .deleteOverride 1]) =
        Store.empty.afterAll (Ledger.history ++ [.deleteOverride 1]) := by
  obtain ⟨succeeds, -, files, -⟩ := insertRun_files Ledger.history Ledger.header ⟨30, 3⟩
    Ledger.entries
  obtain ⟨-, -, -, refused⟩ := insertRun_files Ledger.history Ledger.header ⟨30, 3⟩
    (Ledger.entries ++ [⟨"A", 2, ⟨0, 0⟩⟩])
  exact ⟨succeeds.mp ⟨_, _, Ledger.outcome_insertRun⟩, Ledger.outcome_insertRun,
    files _ _ Ledger.outcome_insertRun,
    (refused _ _ Ledger.outcome_insertRun_repeated).2 [.deleteOverride 1]⟩

end ServiceRoute.Store
