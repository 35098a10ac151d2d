import ServiceRoute.Proofs.Store.CatalogRows

/-!
# Upserting a stop

An upsert writes the row of a stop and then the snapshot the stop comes with. It succeeds if the id
is not blank and all the numbers are numbers, and then both hold what the stop says. A stop whose
row is refused changes nothing. But nothing undoes the row when it is the snapshot that is refused:
the stop is then listed as it came, in its new pool and place, with the snapshot it had before.
-/

namespace ServiceRoute

structure Coordinate.IsNumber (place : Coordinate) : Prop where
  lon : place.lon.isNaN = false
  lat : place.lat.isNaN = false

/-- The places are equal as numbers; a zero may differ in its sign. -/
structure Coordinate.Same (a b : Coordinate) : Prop where
  lon : (a.lon == b.lon) = true
  lat : (a.lat == b.lat) = true

structure RiskScores.IsNumber (risk : RiskScores) : Prop where
  combined : risk.combined.isNaN = false
  hotspot : risk.hotspot.isNaN = false
  urgency : risk.urgency.isNaN = false

/-- The scores are equal as numbers; a zero may differ in its sign. -/
structure RiskScores.Same (a b : RiskScores) : Prop where
  combined : (a.combined == b.combined) = true
  hotspot : (a.hotspot == b.hotspot) = true
  urgency : (a.urgency == b.urgency) = true

namespace Store

/-- What the table of stops accepts. -/
structure Listable (stop : Stop) : Prop where
  location : stop.location.IsNumber
  named : isBlankId stop.id = false

/-- The listing is what the stop says, whatever its snapshot. -/
structure Lists (pool : String) (stop : Stop) (listing : Listing) : Prop where
  pool : listing.pool = pool
  id : listing.stop.id = stop.id
  location : stop.location.Same listing.stop.location
  street : listing.stop.street = stop.street
  bearing : listing.stop.bearing = stop.bearing

/-- The listing has been written, and nothing else. -/
structure Writes (store : Store) (listing : Listing) (store' : Store) : Prop where
  found : store'.catalog.find? listing.stop.id = some listing
  others : ∀ id, id ≠ listing.stop.id → store'.catalog.find? id = store.catalog.find? id
  rest : store' = { store with catalog := store'.catalog }

section Stored

theorem storedLocation_same {lon lat : Column} {place place' : Coordinate}
    (h : storedLocation lon lat place = .ok place') : place.Same place' := by
  obtain ⟨hlon, hlat⟩ := storedLocation_eq_ok.mp h
  exact ⟨stored?_beq (stored_eq_ok.mp hlon), stored?_beq (stored_eq_ok.mp hlat)⟩

theorem exists_storedLocation {lon lat : Column} {place : Coordinate} :
    (∃ place', storedLocation lon lat place = .ok place') ↔ place.IsNumber := by
  constructor
  · rintro ⟨place', h⟩
    obtain ⟨hlon, hlat⟩ := storedLocation_eq_ok.mp h
    exact ⟨exists_stored.mp ⟨_, hlon⟩, exists_stored.mp ⟨_, hlat⟩⟩
  · intro h
    obtain ⟨x, hx⟩ := exists_stored.mpr h.lon
    obtain ⟨y, hy⟩ := exists_stored.mpr h.lat
    exact ⟨⟨x, y⟩, storedLocation_eq_ok.mpr ⟨hx, hy⟩⟩

theorem storedRisk_same {risk risk' : RiskScores} (h : storedRisk risk = .ok risk') :
    risk.Same risk' := by
  obtain ⟨combined, hotspot, urgency⟩ := storedRisk_eq_ok.mp h
  constructor
  · exact stored?_beq (stored_eq_ok.mp combined)
  · exact stored?_beq (stored_eq_ok.mp hotspot)
  · exact stored?_beq (stored_eq_ok.mp urgency)

theorem exists_storedRisk {risk : RiskScores} :
    (∃ risk', storedRisk risk = .ok risk') ↔ risk.IsNumber := by
  constructor
  · rintro ⟨risk', h⟩
    obtain ⟨combined, hotspot, urgency⟩ := storedRisk_eq_ok.mp h
    exact ⟨exists_stored.mp ⟨_, combined⟩, exists_stored.mp ⟨_, hotspot⟩,
      exists_stored.mp ⟨_, urgency⟩⟩
  · intro h
    obtain ⟨x, hx⟩ := exists_stored.mpr h.combined
    obtain ⟨y, hy⟩ := exists_stored.mpr h.hotspot
    obtain ⟨z, hz⟩ := exists_stored.mpr h.urgency
    exact ⟨⟨x, y, z⟩, storedRisk_eq_ok.mpr ⟨hx, hy, hz⟩⟩

end Stored

section Steps

variable {store : Store} {pool : String} {stop : Stop}

theorem writes_put (store : Store) (listing : Listing) :
    Writes store listing { store with catalog := store.catalog.put listing } where
  found := by rw [Catalog.find?_put, if_pos rfl]
  others id apart := by rw [Catalog.find?_put, if_neg apart]
  rest := rfl

/-- A listing that is written over another one with its id has been written alone. -/
theorem Writes.trans {store store' store'' : Store} {listing listing' : Listing}
    (first : Writes store listing store') (second : Writes store' listing' store'')
    (same : listing'.stop.id = listing.stop.id) : Writes store listing' store'' where
  found := second.found
  others id apart := (second.others id apart).trans (first.others id (same ▸ apart))
  rest := by rw [second.rest, first.rest]

theorem putStop_refused_or_lists (store : Store) (pool : String) (stop : Stop) :
    (¬ Listable stop ∧ ∃ e, store.catalog.putStop pool stop = .error e) ∨
      Listable stop ∧ ∃ listing, Lists pool stop listing ∧
        listing.stop.risk = store.catalog.snapshot stop.id ∧
        store.catalog.putStop pool stop = .ok (store.catalog.put listing) := by
  cases hput : store.catalog.putStop pool stop with
  | error e =>
    refine .inl ⟨fun listable => ?_, e, rfl⟩
    obtain ⟨location, stored⟩ := exists_storedLocation.mpr listable.location
    have succeeds : store.catalog.putStop pool stop = .ok _ :=
      Catalog.putStop_eq_ok.mpr ⟨location, stored, listable.named, rfl⟩
    rw [hput] at succeeds
    cases succeeds
  | ok catalog =>
    obtain ⟨location, stored, named, rfl⟩ := Catalog.putStop_eq_ok.mp hput
    exact .inr ⟨⟨exists_storedLocation.mp ⟨location, stored⟩, named⟩, _,
      ⟨rfl, rfl, storedLocation_same stored, rfl, rfl⟩, rfl, rfl⟩

theorem upsertRisk_refused_or_writes {id : StopId} {listing : Listing}
    (found : store.catalog.find? id = some listing) (risk : RiskScores) :
    (¬ risk.IsNumber ∧ ∃ e, (upsertRisk id risk).outcome store = (.error e, store)) ∨
      risk.IsNumber ∧ ∃ risk', risk.Same risk' ∧ (upsertRisk id risk).outcome store =
        (.ok (), { store with
          catalog := store.catalog.put { listing with stop.risk := some risk' } }) := by
  rw [outcome_upsertRisk]
  cases hput : store.catalog.putRisk id risk with
  | error e =>
    refine .inl ⟨fun number => ?_, e, rfl⟩
    obtain ⟨risk', stored⟩ := exists_storedRisk.mpr number
    have succeeds := Catalog.putRisk_eq_ok.mpr ⟨risk', listing, stored, found, rfl⟩
    rw [hput] at succeeds
    cases succeeds
  | ok catalog =>
    obtain ⟨risk', listing', stored, found', rfl⟩ := Catalog.putRisk_eq_ok.mp hput
    obtain rfl : listing' = listing := Option.some.inj (found'.symm.trans found)
    exact .inr ⟨exists_storedRisk.mp ⟨risk', stored⟩, risk', storedRisk_same stored, rfl⟩

end Steps

/-- The listed snapshot is the one the stop comes with, or the old one if it comes with none. -/
def Updates (carried old listed : Option RiskScores) : Prop :=
  match carried with
  | some risk => ∃ risk', listed = some risk' ∧ risk.Same risk'
  | none => listed = old

/-- What an upsert answers and leaves: its row is refused, and nothing is written, or its snapshot
is, and the row has been written, or both are written. -/
inductive Upserted (pool : String) (stop : Stop) (store : Store) :
    Except StoreError Unit × Store → Prop
  | rowRefused (unlistable : ¬ Listable stop) (e : StoreError) :
    Upserted pool stop store (.error e, store)
  | snapshotRefused (listable : Listable stop) {risk : RiskScores} (carried : stop.risk = some risk)
    (noNumber : ¬ risk.IsNumber) {listing : Listing} (lists : Lists pool stop listing)
    (snapshot : listing.stop.risk = store.catalog.snapshot stop.id) {store' : Store}
    (writes : Writes store listing store') (e : StoreError) :
    Upserted pool stop store (.error e, store')
  | written (listable : Listable stop) (numbers : ∀ risk, stop.risk = some risk → risk.IsNumber)
    {listing : Listing} (lists : Lists pool stop listing)
    (snapshot : Updates stop.risk (store.catalog.snapshot stop.id) listing.stop.risk)
    {store' : Store} (writes : Writes store listing store') :
    Upserted pool stop store (.ok (), store')

theorem outcome_upsertStop_upserted (pool : String) (stop : Stop) (store : Store) :
    Upserted pool stop store ((upsertStop pool stop).outcome store) := by
  rw [outcome_upsertStop]
  obtain ⟨unlistable, e, refused⟩ | ⟨listable, listing, lists, old, put⟩ :=
    putStop_refused_or_lists store pool stop
  · rw [refused]
    exact .rowRefused unlistable e
  · rw [put]
    have writes := writes_put store listing
    cases carried : stop.risk with
    | none =>
      refine .written listable (by simp [carried]) lists ?_ writes
      rw [carried]
      exact old
    | some risk =>
      dsimp only
      obtain ⟨noNumber, e, refused⟩ | ⟨number, risk', same, written⟩ :=
        upsertRisk_refused_or_writes (lists.id ▸ writes.found) risk
      · rw [refused]
        exact .snapshotRefused listable carried noNumber lists old writes e
      · rw [written]
        have lists' : Lists pool stop { listing with stop.risk := some risk' } :=
          ⟨lists.pool, lists.id, lists.location, lists.street, lists.bearing⟩
        refine .written listable (by simp [carried, number]) lists' ?_
          (writes.trans (writes_put _ _) rfl)
        rw [carried]
        exact ⟨risk', rfl, same⟩

/-- An upsert that succeeds has written the row of the stop and the snapshot it comes with. One that
is refused has changed nothing, unless the stop comes with a score that is no number: then the row
has been written before the snapshot was refused. -/
theorem upsertStop_whole_unless_risk (pool : String) (stop : Stop) (store : Store) :
    Upserted pool stop store ((upsertStop pool stop).outcome store) ∧
      ((∀ risk, stop.risk = some risk → risk.IsNumber) →
        ∀ e store', (upsertStop pool stop).outcome store = (.error e, store') →
          store' = store) := by
  have upserted := outcome_upsertStop_upserted pool stop store
  refine ⟨upserted, fun numbers e store' run => ?_⟩
  rw [run] at upserted
  cases upserted with
  | rowRefused unlistable e => rfl
  | snapshotRefused listable carried noNumber _ _ _ _ => exact absurd (numbers _ carried) noNumber

/-! A stop that is moved to another pool, along with scores of which one is no number. -/

namespace Moved

def store : Store :=
  Store.empty.afterAll
    [.upsertStop "north" ⟨"A", ⟨1, 2⟩, some "Elm St", some "NB", some ⟨1, 2, 3⟩⟩]

def stop : Stop :=
  ⟨"A", ⟨5, 6⟩, some "Oak St", some "SB", some ⟨0 / 0, 0, 0⟩⟩

def left : Store :=
  { store with
    catalog := [⟨"south", ⟨"A", ⟨5, 6⟩, some "Oak St", some "SB", some ⟨1, 2, 3⟩⟩⟩] }

def nameless : Stop :=
  ⟨" ", ⟨5, 6⟩, some "Oak St", some "SB", some ⟨1, 2, 3⟩⟩

end Moved

theorem upsertStop_whole_unless_risk_nameless :
    (∀ risk, Moved.nameless.risk = some risk → risk.IsNumber) ∧
      ∃ e store', (upsertStop "south" Moved.nameless).outcome Moved.store = (.error e, store') ∧
        store' = Moved.store := by
  have numbers : ∀ risk, Moved.nameless.risk = some risk → risk.IsNumber := by
    rintro _ ⟨⟩
    constructor <;> decide
  obtain ⟨-, unchanged⟩ := upsertStop_whole_unless_risk "south" Moved.nameless Moved.store
  have refused : (upsertStop "south" Moved.nameless).outcome Moved.store =
      (.error (.table .blankStopId), Moved.store) := by
    decide
  exact ⟨numbers, _, _, refused, unchanged numbers _ _ refused⟩

/-- The upsert is refused, and yet the stop is in the other pool, with the scores it had before. -/
theorem upsertStop_refused_but_moved :
    Reachable Moved.store ∧
      (upsertStop "south" Moved.stop).outcome Moved.store =
        (.error (.table (.missingValue .combinedRisk)), Moved.left) ∧
      Moved.store.catalog.ofPool "north" ≠ [] ∧ Moved.left.catalog.ofPool "north" = [] ∧
      Moved.left ≠ Moved.store := by
  refine ⟨Reachable.empty.afterAll _, ?_, ?_, ?_, ?_⟩ <;> decide

end Store

end ServiceRoute
