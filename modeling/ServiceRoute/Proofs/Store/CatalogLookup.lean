import ServiceRoute.Proofs.Store.CatalogRows

/-!
# What a pool answers

Ids are looked up block by block, and the blocks make up the list of the ids. So distinct ids,
however many, find each of their stops in the pool once, and nothing of another pool. What a pool
answers depends on its own stops only: its top not even on their order.
-/

namespace ServiceRoute.Store.Catalog

variable {catalog catalog' : Catalog} {pool : String}

section Blocks

variable {α : Type}

theorem flatMap_take_drop (size count : Nat) (xs : List α) :
    ((List.range count).flatMap fun k => (xs.drop (k * size)).take size) =
      xs.take (count * size) := by
  induction count with
  | zero => simp
  | succ count ih => simp [List.range_succ, ih, Nat.succ_mul, List.take_add]

theorem flatten_blocks {size : Nat} (positive : 0 < size) (xs : List α) :
    (blocks size xs).flatten = xs := by
  have enough : xs.length ≤ (xs.length + size - 1) / size * size := by
    have cut := Nat.div_add_mod (xs.length + size - 1) size
    have rest := Nat.mod_lt (xs.length + size - 1) positive
    rw [Nat.mul_comm] at cut
    omega
  rw [blocks, ← List.flatMap_def, flatMap_take_drop, List.take_of_length_le enough]

end Blocks

section Lookup

theorem mem_withIds {ids : List StopId} {stop : Stop} :
    stop ∈ catalog.withIds pool ids ↔ stop ∈ catalog.ofPool pool ∧ stop.id ∈ ids := by
  rw [withIds, List.mem_filter, decide_eq_true_eq]

theorem mem_byId {ids : List StopId} {stop : Stop} :
    stop ∈ catalog.byId pool ids ↔ stop ∈ catalog.ofPool pool ∧ stop.id ∈ ids := by
  have asked : stop.id ∈ ids ↔ ∃ block ∈ blocks idsPerLookup ids, stop.id ∈ block := by
    rw [← List.mem_flatten, flatten_blocks (by decide)]
  rw [byId, List.mem_flatMap, asked]
  simp only [mem_withIds]
  tauto

theorem WellKept.nodup_byId (h : catalog.WellKept) {ids : List StopId} (distinct : ids.Nodup) :
    ((catalog.byId pool ids).map (·.id)).Nodup := by
  rw [← flatten_blocks (show 0 < idsPerLookup by decide) ids, List.nodup_flatten] at distinct
  obtain ⟨-, apart⟩ := distinct
  rw [byId, List.map_flatMap, List.nodup_flatMap]
  constructor
  · intro block _
    exact (h.nodup_ofPool pool).sublist (List.filter_sublist.map _)
  · refine apart.imp fun disjoint id hleft hright => ?_
    obtain ⟨stop, hstop, rfl⟩ := List.mem_map.mp hleft
    obtain ⟨other, hother, same⟩ := List.mem_map.mp hright
    exact disjoint (mem_withIds.mp hstop).2 (same ▸ (mem_withIds.mp hother).2)

end Lookup

section OwnStops

variable (same : (catalog.ofPool pool).Perm (catalog'.ofPool pool))
include same

theorem byId_perm (ids : List StopId) :
    (catalog.byId pool ids).Perm (catalog'.byId pool ids) :=
  List.Perm.flatMap_left _ fun _ _ => same.filter _

/-- The order of the risks leaves no choice between stops with different ids. -/
theorem top_eq_of_perm (h : catalog.WellKept) (limit : Nat) :
    catalog.top pool limit = catalog'.top pool limit := by
  have perm : (catalog.byRisk pool).Perm (catalog'.byRisk pool) :=
    (catalog.byRisk_perm pool).trans (same.trans (catalog'.byRisk_perm pool).symm)
  have one : catalog.byRisk pool = catalog'.byRisk pool := by
    refine perm.eq_of_pairwise ?_ (byRisk_ordered catalog pool) (byRisk_ordered catalog' pool)
    intro a b ha hb ab ba
    have place := le_antisymm ab ba
    have id : a.id = b.id := congrArg (fun p => (ofLex p).2) place
    exact List.inj_on_of_nodup_map (h.nodup_byRisk pool) ha (perm.mem_iff.mpr hb) id
  rw [top_eq_take, top_eq_take, one]

end OwnStops

end ServiceRoute.Store.Catalog
