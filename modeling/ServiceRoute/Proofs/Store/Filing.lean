import Mathlib.Data.List.Forall2
import ServiceRoute.Proofs.Store.Numbering
import ServiceRoute.Proofs.Store.Operations
import ServiceRoute.Proofs.Store.StoredValue

/-!
# Filing a run

A filed run is one new row, with one row of its own for every entry. It is what
loading its id gives back: nothing about it has changed but the sign of a zero.
-/

namespace ServiceRoute.Store

open Store.Action

/-- The second entry is the first one after storing. -/
structure StoredAs (entry entry' : RouteEntry) : Prop where
  stop : entry'.stop = entry.stop
  sequence : entry'.sequence = entry.sequence
  cost : entry.cost.Same entry'.cost

theorem storedEntry_eq_ok {earlier : List RouteEntry} {entry entry' : RouteEntry}
    (h : storedEntry earlier entry = .ok entry') : StoredAs entry entry' := by
  unfold storedEntry at h
  obtain ⟨cost, hcost, placed⟩ := bind_eq_ok.mp h
  split at placed
  · cases placed
  · split at placed
    · cases placed
    · obtain rfl := Except.ok.inj placed
      exact ⟨rfl, rfl, storedCost_same hcost⟩

theorem storedEntries_eq_ok {earlier entries stored : List RouteEntry}
    (h : storedEntries earlier entries = .ok stored) :
    ∃ added, stored = earlier ++ added ∧ List.Forall₂ StoredAs entries added := by
  induction entries generalizing earlier with
  | nil =>
    obtain rfl := Except.ok.inj h
    exact ⟨[], by simp, .nil⟩
  | cons entry rest ih =>
    unfold storedEntries at h
    obtain ⟨entry', hentry, hrest⟩ := bind_eq_ok.mp h
    obtain ⟨added, rfl, hadded⟩ := ih hrest
    exact ⟨entry' :: added, by simp, .cons (storedEntry_eq_ok hentry) hadded⟩

theorem stops_of_storedAs {entries entries' : List RouteEntry}
    (h : List.Forall₂ StoredAs entries entries') :
    entries'.map (·.stop) = entries.map (·.stop) := by
  induction h with
  | nil => rfl
  | cons hentry _ ih => simp [hentry.stop, ih]

theorem sequences_of_storedAs {entries entries' : List RouteEntry}
    (h : List.Forall₂ StoredAs entries entries') :
    entries'.map (·.sequence) = entries.map (·.sequence) := by
  induction h with
  | nil => rfl
  | cons hentry _ ih => simp [hentry.sequence, ih]

def withRun (store : Store) (id : Int) (header : RunHeader) (total : Cost)
    (entries : List RouteEntry) : Store :=
  { store with runs := ⟨store.runs.rows ++ [.ofRoute id header total entries], id⟩ }

/-- A filing that succeeds adds one run and touches nothing else. -/
theorem insertRun_eq_ok {header : RunHeader} {total : Cost} {entries : List RouteEntry}
    {store store' : Store} {id : Int}
    (h : (insertRun header total entries).outcome store = (.ok id, store')) :
    ∃ total' entries', total.Same total' ∧ List.Forall₂ StoredAs entries entries' ∧
      id = store.runs.lastId + 1 ∧ store' = store.withRun id header total' entries' := by
  rw [outcome_insertRun] at h
  cases hinsert : store.runs.insert header total entries with
  | error e => simp [hinsert] at h
  | ok inserted =>
    simp only [hinsert, Prod.mk.injEq, Except.ok.injEq] at h
    obtain ⟨rfl, rfl⟩ := h
    obtain ⟨total', entries', htotal, hentries, hid, hruns⟩ := RunBook.insert_eq_ok hinsert
    obtain ⟨added, rfl, hstored⟩ := storedEntries_eq_ok hentries
    exact ⟨total', _, storedCost_same htotal, hstored, hid, by rw [hruns]; rfl⟩

/-- A filing that fails leaves the store as it was. -/
theorem insertRun_eq_error {header : RunHeader} {total : Cost} {entries : List RouteEntry}
    {store store' : Store} {e : StoreError}
    (h : (insertRun header total entries).outcome store = (.error e, store')) :
    store' = store := by
  rw [outcome_insertRun] at h
  cases hinsert : store.runs.insert header total entries with
  | error e => simp_all
  | ok inserted => simp [hinsert] at h

/-- Whether a run can be filed, and with which rows, does not depend on the store. -/
theorem insertRun_everywhere (header : RunHeader) (total : Cost) (entries : List RouteEntry) :
    (∃ e, ∀ store : Store, (insertRun header total entries).outcome store = (.error e, store)) ∨
      ∃ total' entries', ∀ store : Store, (insertRun header total entries).outcome store =
        (.ok (store.runs.lastId + 1),
          store.withRun (store.runs.lastId + 1) header total' entries') := by
  simp only [outcome_insertRun, RunBook.insert]
  cases storedCost .runDistance .runDuration total with
  | error e => exact .inl ⟨e, fun store => rfl⟩
  | ok total' =>
    cases storedEntries [] entries with
    | error e => exact .inl ⟨e, fun store => rfl⟩
    | ok entries' => exact .inr ⟨total', entries', fun store => rfl⟩

theorem find?_withRun {store : Store} (h : store.runs.WellNumbered) {id : Int}
    (hid : store.runs.lastId < id) (header : RunHeader) (total : Cost)
    (entries : List RouteEntry) :
    (store.withRun id header total entries).runs.find? id =
      some (.ofRoute id header total entries) := by
  have hold : store.runs.rows.find? (fun row => row.id = id) = none := by
    rw [List.find?_eq_none]
    intro old hmem heq
    have hle := h old hmem
    have hsame : old.id = id := by simpa using heq
    omega
  simp [withRun, RunBook.find?, List.find?_append, hold, RunRow.ofRoute]

section Loading

def filedStop (id : Int) (entry : RouteEntry) : RunStop :=
  ⟨id, entry, .pending, none⟩

def filedRun (id : Int) (header : RunHeader) (total : Cost) (entries : List RouteEntry) :
    RouteRun :=
  ⟨id, header, .planned, total, none, none, entries.map (filedStop id)⟩

theorem mapM_read_ofEntry (id : Int) (entries : List RouteEntry) :
    (entries.map StopRow.ofEntry).mapM (StopRow.read id) =
      .ok (entries.map (filedStop id)) := by
  induction entries with
  | nil => rfl
  | cons entry rest ih =>
    have hread : (StopRow.ofEntry entry).read id = .ok (filedStop id entry) := rfl
    rw [List.map_cons, List.mapM_cons, hread, ih]
    rfl

/-- The entries in the order of their positions. -/
def bySequence (entries : List RouteEntry) : List RouteEntry :=
  entries.mergeSort fun a b => a.sequence ≤ b.sequence

theorem bySequence_of_sorted {entries : List RouteEntry}
    (sorted : entries.Pairwise fun a b => a.sequence ≤ b.sequence) :
    bySequence entries = entries :=
  List.mergeSort_of_pairwise (sorted.imp fun h => decide_eq_true h)

theorem read_ofRoute (id : Int) (header : RunHeader) (total : Cost) (entries : List RouteEntry) :
    (RunRow.ofRoute id header total entries).read =
      .ok (filedRun id header total (bySequence entries)) := by
  have hsort : (entries.map StopRow.ofEntry).mergeSort
      (fun a b => a.entry.sequence ≤ b.entry.sequence) =
        (bySequence entries).map StopRow.ofEntry := by
    refine (List.map_mergeSort ?_).symm
    exact fun a _ b _ => rfl
  unfold RunRow.read RunRow.ofRoute
  dsimp only
  rw [hsort, mapM_read_ofEntry]
  rfl

/-- A run that was filed under a new id is loaded as it was filed, its stops in the order of their
positions. -/
theorem outcome_loadRun_filed {store : Store} (h : store.runs.WellNumbered) {id : Int}
    (hid : store.runs.lastId < id) (header : RunHeader) (total : Cost)
    (entries : List RouteEntry) :
    (loadRun id).outcome (store.withRun id header total entries) =
      (.ok (some (filedRun id header total (bySequence entries))),
        store.withRun id header total entries) := by
  have hload : (store.withRun id header total entries).runs.load id =
      .ok (some (filedRun id header total (bySequence entries))) := by
    rw [RunBook.load, find?_withRun h hid]
    show some <$> (RunRow.ofRoute id header total entries).read = _
    rw [read_ofRoute]
    rfl
  rw [outcome_loadRun, hload]

theorem outcome_loadRun_withRun {store : Store} (h : store.runs.WellNumbered) {id : Int}
    (hid : store.runs.lastId < id) (header : RunHeader) (total : Cost) {entries : List RouteEntry}
    (sorted : entries.Pairwise fun a b => a.sequence ≤ b.sequence) :
    (loadRun id).outcome (store.withRun id header total entries) =
      (.ok (some (filedRun id header total entries)), store.withRun id header total entries) := by
  rw [outcome_loadRun_filed h hid, bySequence_of_sorted sorted]

theorem outcome_loadRun_of_ne (store : Store) {id other : Int} (h : other ≠ id)
    (header : RunHeader) (total : Cost) (entries : List RouteEntry) :
    ((loadRun other).outcome (store.withRun id header total entries)).1 =
      ((loadRun other).outcome store).1 := by
  have found : (store.withRun id header total entries).runs.find? other =
      store.runs.find? other := by
    simp [withRun, RunBook.find?, List.find?_append, RunRow.ofRoute, Ne.symm h]
  rw [outcome_loadRun, outcome_loadRun, RunBook.load, RunBook.load, found]

end Loading

end ServiceRoute.Store
