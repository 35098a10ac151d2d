import Mathlib.Data.Finset.Card
import Mathlib.Data.Finset.Range
import ServiceRoute.Proofs.RoutePlanner.ExplicitStops
import ServiceRoute.Proofs.Selection.Candidates
import ServiceRoute.Proofs.Store.CatalogLookup

/-!
# Lookups block by block

A stop of the pool is answered once for each block of ids that lists it, however many blocks there
are and wherever in them its id stands. So only an id that is listed in two blocks finds its stop
twice, and no caller lists an id twice.
-/

namespace ServiceRoute.Store

open Selection

namespace Catalog

variable {catalog : Catalog} {pool : String} {ids : List StopId} {stop : Stop}

section Positions

variable {α : Type}

theorem mem_block {size : Nat} (positive : 0 < size) {xs : List α} {k : Nat} {a : α} :
    a ∈ (xs.drop (k * size)).take size ↔ ∃ i, xs[i]? = some a ∧ i / size = k := by
  rw [List.mem_iff_getElem?]
  constructor
  · rintro ⟨j, here⟩
    rw [List.getElem?_take] at here
    split_ifs at here with inside
    rw [List.getElem?_drop] at here
    refine ⟨k * size + j, here, ?_⟩
    rw [Nat.mul_comm, Nat.mul_add_div positive, Nat.div_eq_of_lt inside, Nat.add_zero]
  · rintro ⟨i, here, rfl⟩
    refine ⟨i % size, ?_⟩
    rw [List.getElem?_take, if_pos (Nat.mod_lt i positive), List.getElem?_drop, Nat.mul_comm,
      Nat.div_add_mod, here]

end Positions

/-- The blocks of 998 consecutive ids that list an id. -/
def blocksListing (ids : List StopId) (id : StopId) : Finset Nat :=
  ((Finset.range ids.length).filter fun i => ids[i]? = some id).image (· / 998)

theorem mem_blocksListing {id : StopId} {k : Nat} :
    k ∈ blocksListing ids id ↔ ∃ i, ids[i]? = some id ∧ i / 998 = k := by
  simp only [blocksListing, Finset.mem_image, Finset.mem_filter, Finset.mem_range]
  constructor
  · rintro ⟨i, ⟨-, here⟩, block⟩
    exact ⟨i, here, block⟩
  · rintro ⟨i, here, block⟩
    exact ⟨i, ⟨(List.getElem?_eq_some_iff.mp here).1, here⟩, block⟩

theorem WellKept.mem_ofPool_iff (h : catalog.WellKept) :
    stop ∈ catalog.ofPool pool ↔ catalog.find? stop.id = some ⟨pool, stop⟩ := by
  have found : catalog.find? stop.id = some ⟨pool, stop⟩ ↔
      ⟨pool, stop⟩ ∈ catalog ∧ stop.id = stop.id := find?_eq_some_iff_of_nodup h.distinct
  rw [found, ofPool, List.mem_map]
  constructor
  · rintro ⟨⟨_, _⟩, listed, rfl⟩
    rw [List.mem_filter, decide_eq_true_eq] at listed
    obtain ⟨listed, rfl⟩ := listed
    exact ⟨listed, rfl⟩
  · rintro ⟨listed, -⟩
    exact ⟨_, List.mem_filter.mpr ⟨listed, by simp⟩, rfl⟩

theorem WellKept.count_withIds (h : catalog.WellKept) (listed : stop ∈ catalog.ofPool pool)
    (block : List StopId) :
    (catalog.withIds pool block).count stop = if stop.id ∈ block then 1 else 0 := by
  split_ifs with asked
  · have once : (catalog.ofPool pool).Nodup := (h.nodup_ofPool pool).of_map _
    rw [withIds, List.count_filter (by simpa using asked), List.count_eq_one_of_mem once listed]
  · rw [List.count_eq_zero]
    exact fun answered => asked (mem_withIds.mp answered).2

/-- A stop of the pool is answered as often as blocks have its id. -/
theorem WellKept.count_flatMap_withIds (h : catalog.WellKept)
    (listed : stop ∈ catalog.ofPool pool) (bs : List (List StopId)) :
    (bs.flatMap (catalog.withIds pool)).count stop = bs.countP (stop.id ∈ ·) := by
  induction bs with
  | nil => rfl
  | cons block bs ih =>
    rw [List.flatMap_cons, List.count_append, h.count_withIds listed, ih, List.countP_cons,
      Nat.add_comm]
    simp

theorem WellKept.count_byId (h : catalog.WellKept) (listed : stop ∈ catalog.ofPool pool)
    (ids : List StopId) :
    (catalog.byId pool ids).count stop = (blocksListing ids stop.id).card := by
  have same : blocksListing ids stop.id =
      (Finset.range ((ids.length + 998 - 1) / 998)).filter fun k =>
        stop.id ∈ (ids.drop (k * 998)).take 998 := by
    ext k
    rw [mem_blocksListing, Finset.mem_filter, Finset.mem_range, mem_block (by decide)]
    constructor
    · rintro ⟨i, here, rfl⟩
      have inside := (List.getElem?_eq_some_iff.mp here).1
      exact ⟨by omega, i, here, rfl⟩
    · rintro ⟨-, here⟩
      exact here
  rw [byId, h.count_flatMap_withIds listed, blocks, List.countP_map, List.countP_eq_length_filter,
    same]
  rfl

end Catalog

section Callers

variable {σ : Type}

/-- The catalogs answer alike, except perhaps where an id is listed twice. -/
structure AlikeOnDistinct (catalog catalog' : RiskCatalog σ) : Prop where
  top : ∀ pool limit, catalog.topStops pool limit = catalog'.topStops pool limit
  byId : ∀ pool ids, ids.Nodup → catalog.stopsById pool ids = catalog'.stopsById pool ids

variable {catalog catalog' : RiskCatalog σ}

theorem AlikeOnDistinct.resolveStops_eq (h : AlikeOnDistinct catalog catalog') (pool : String)
    (ids : List StopId) :
    RoutePlanner.resolveStops catalog pool ids = RoutePlanner.resolveStops catalog' pool ids := by
  rw [RoutePlanner.resolveStops_eq, RoutePlanner.resolveStops_eq,
    h.byId pool _ (nodup_distinct ids)]

theorem AlikeOnDistinct.candidates_eq (h : AlikeOnDistinct catalog catalog') (pool : String)
    (overrides : List Override) (options : SelectionOptions) :
    candidates catalog pool overrides options = candidates catalog' pool overrides options := by
  rw [Selection.candidates_eq, Selection.candidates_eq, h.top]
  refine bind_congr fun top => ?_
  have once : (wanted pool overrides top).Nodup := wanted_pairwise.imp ne_of_lt
  rw [selectFrom, selectFrom, lookUp, lookUp, h.byId pool _ once]

end Callers

/-- A lookup answers the stops of the pool that have one of the ids, each with its snapshot and as
often as there are blocks of 998 consecutive ids that list its id. From distinct ids it answers each
of them once, and those who ask never list an id twice. -/
theorem stopsById_covers_blocks {s : Store} (reachable : Reachable s) (pool : String)
    (ids : List StopId) :
    let answer := s.stopsById pool ids
    (∀ stop, stop ∈ answer ↔ s.catalog.find? stop.id = some ⟨pool, stop⟩ ∧ stop.id ∈ ids) ∧
    (∀ stop ∈ answer, stop.risk = s.catalog.snapshot stop.id ∧
      answer.count stop = (Catalog.blocksListing ids stop.id).card) ∧
    (ids.Nodup → ∀ stop ∈ answer, answer.count stop = 1) ∧
    ∀ {σ : Type} (catalog catalog' : RiskCatalog σ), AlikeOnDistinct catalog catalog' →
      RoutePlanner.resolveStops catalog = RoutePlanner.resolveStops catalog' ∧
        candidates catalog = candidates catalog' := by
  have kept := reachable.wellKept
  have listed : ∀ stop, stop ∈ s.stopsById pool ids ↔
      s.catalog.find? stop.id = some ⟨pool, stop⟩ ∧ stop.id ∈ ids := by
    intro stop
    rw [stopsById, Catalog.mem_byId, kept.mem_ofPool_iff]
  refine ⟨listed, fun stop answered => ⟨?_, ?_⟩, fun distinct stop answered => ?_, ?_⟩
  · rw [Catalog.snapshot, ((listed stop).mp answered).1]
    rfl
  · exact kept.count_byId (Catalog.mem_byId.mp answered).1 ids
  · exact List.count_eq_one_of_mem ((kept.nodup_byId distinct).of_map _) answered
  · intro σ catalog catalog' alike
    refine ⟨?_, ?_⟩
    · funext pool ids
      exact alike.resolveStops_eq pool ids
    · funext pool overrides options
      exact alike.candidates_eq pool overrides options

/-! A list that goes on behind its first block. -/

namespace Overlong

def stop (id : StopId) : Stop :=
  ⟨id, ⟨6, 6⟩, none, none, none⟩

def store : Store :=
  Store.empty.afterAll [.upsertStop "north" (stop "A"), .upsertStop "north" (stop "B"),
    .upsertStop "south" (stop "C")]

def ids : List StopId :=
  List.replicate 998 "B" ++ ["A", "B", "C"]

theorem getElem?_ids (i : Nat) :
    ids[i]? = if i < 998 then some "B" else ["A", "B", "C"][i - 998]? := by
  rw [ids, List.getElem?_append, List.length_replicate, List.getElem?_replicate]
  split_ifs <;> rfl

theorem blocksListing_first : Catalog.blocksListing ids "A" = {1} := by
  ext k
  simp only [Catalog.mem_blocksListing, getElem?_ids, Finset.mem_singleton]
  constructor
  · rintro ⟨i, here, rfl⟩
    split_ifs at here with front
    · exact absurd here (by decide)
    · have inside := (List.getElem?_eq_some_iff.mp here).1
      rw [List.length_cons, List.length_cons, List.length_singleton] at inside
      omega
  · rintro rfl
    exact ⟨998, rfl, rfl⟩

theorem blocksListing_second : Catalog.blocksListing ids "B" = {0, 1} := by
  ext k
  simp only [Catalog.mem_blocksListing, getElem?_ids, Finset.mem_insert, Finset.mem_singleton]
  constructor
  · rintro ⟨i, here, rfl⟩
    split_ifs at here with front
    · exact Or.inl (Nat.div_eq_of_lt front)
    · have inside := (List.getElem?_eq_some_iff.mp here).1
      rw [List.length_cons, List.length_cons, List.length_singleton] at inside
      omega
  · rintro (rfl | rfl)
    · exact ⟨0, rfl, rfl⟩
    · exact ⟨999, rfl, rfl⟩

theorem find?_stop : store.catalog.find? "A" = some ⟨"north", stop "A"⟩ ∧
    store.catalog.find? "B" = some ⟨"north", stop "B"⟩ ∧
    store.catalog.find? "C" = some ⟨"south", stop "C"⟩ := by
  decide

end Overlong

theorem stopsById_covers_blocks_overlong : Reachable Overlong.store ∧
    let answer := Overlong.store.stopsById "north" Overlong.ids
    answer.count (Overlong.stop "A") = 1 ∧ answer.count (Overlong.stop "B") = 2 ∧
      Overlong.stop "C" ∉ answer := by
  have reachable : Reachable Overlong.store := Reachable.empty.afterAll _
  obtain ⟨first, second, other⟩ := Overlong.find?_stop
  obtain ⟨listed, answered, -, -⟩ := stopsById_covers_blocks reachable "north" Overlong.ids
  have behind : ∀ id ∈ ["A", "B", "C"], id ∈ Overlong.ids := by
    intro id hid
    exact List.mem_append_right _ hid
  refine ⟨reachable, ?_, ?_, ?_⟩
  · rw [(answered _ ((listed _).mpr ⟨first, behind "A" (by decide)⟩)).2]
    exact congrArg Finset.card Overlong.blocksListing_first
  · rw [(answered _ ((listed _).mpr ⟨second, behind "B" (by decide)⟩)).2]
    exact congrArg Finset.card Overlong.blocksListing_second
  · intro inside
    have here := ((listed _).mp inside).1
    rw [show (Overlong.stop "C").id = "C" from rfl, other] at here
    exact absurd here (by decide)

end ServiceRoute.Store
