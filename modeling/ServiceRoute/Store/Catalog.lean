import ServiceRoute.Number.TotalOrder
import ServiceRoute.Store.Value
import ServiceRoute.Text.Blank

/-! # The stop catalog

Every stop belongs to one pool and has at most one risk snapshot. The riskiest
stops of a pool come first; a stop without a snapshot counts as having no risk.
-/

namespace ServiceRoute.Store

open Number

structure Listing where
  pool : String
  stop : Stop
deriving DecidableEq, Inhabited

abbrev Catalog := List Listing

/-- An id has to hold something besides spaces; it ends at the first null character. -/
def isBlankId (id : StopId) : Bool :=
  ((Text.dropEnds (· == ' ') id.toList).takeWhile (· != '\x00')).isEmpty

def storedLocation (lon lat : Column) (place : Coordinate) : Except StoreError Coordinate := do
  return ⟨← stored lon place.lon, ← stored lat place.lat⟩

def storedRisk (risk : RiskScores) : Except StoreError RiskScores := do
  return ⟨← stored .combinedRisk risk.combined, ← stored .hotspotWeight risk.hotspot,
    ← stored .urgencyWeight risk.urgency⟩

namespace Catalog

def find? (catalog : Catalog) (id : StopId) : Option Listing :=
  List.find? (·.stop.id = id) catalog

/-- Puts a listing in the place of the one with its id, or at the end. -/
def put (catalog : Catalog) (listing : Listing) : Catalog :=
  if (catalog.find? listing.stop.id).isSome then
    catalog.map fun old => if old.stop.id = listing.stop.id then listing else old
  else catalog ++ [listing]

/-- Adds a stop or replaces it. A stop that is replaced keeps its snapshot. -/
def putStop (catalog : Catalog) (pool : String) (stop : Stop) : Except StoreError Catalog := do
  let location ← storedLocation .stopLon .stopLat stop.location
  if isBlankId stop.id then throw (.table .blankStopId)
  else
    let risk := (catalog.find? stop.id).bind (·.stop.risk)
    pure (catalog.put ⟨pool, { stop with location, risk }⟩)

def putRisk (catalog : Catalog) (id : StopId) (risk : RiskScores) :
    Except StoreError Catalog := do
  let risk ← storedRisk risk
  match catalog.find? id with
  | some listing => pure (catalog.put { listing with stop.risk := some risk })
  | none => throw (.table .unknownStop)

def ofPool (catalog : Catalog) (pool : String) : List Stop :=
  (catalog.filter (·.pool = pool)).map (·.stop)

/-- Greater risk first, then lesser id. -/
def compareRisk (a b : Stop) : Ordering :=
  (compareTotal b.scores.combined a.scores.combined).then (compare a.id b.id)

def top (catalog : Catalog) (pool : String) (limit : Nat) : List Stop :=
  ((catalog.ofPool pool).mergeSort fun a b => (compareRisk a b).isLE).take limit

def withIds (catalog : Catalog) (pool : String) (ids : List StopId) : List Stop :=
  (catalog.ofPool pool).filter (·.id ∈ ids)

/-- The list cut into blocks of `size` elements, the last of which may be shorter. -/
def blocks {α : Type} (size : Nat) (xs : List α) : List (List α) :=
  (List.range ((xs.length + size - 1) / size)).map fun k => (xs.drop (k * size)).take size

/-- How many ids are looked up at once. -/
def idsPerLookup : Nat := 998

/-- The stops of a pool with the given ids, looked up block by block. -/
def byId (catalog : Catalog) (pool : String) (ids : List StopId) : List Stop :=
  (blocks idsPerLookup ids).flatMap (catalog.withIds pool)

end Catalog

end ServiceRoute.Store
