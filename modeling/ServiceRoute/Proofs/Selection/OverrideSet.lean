import Mathlib.Data.List.Basic
import Mathlib.Data.List.Sort
import Mathlib.Data.String.Basic
import ServiceRoute.Proofs.Selection.FirstOccurrence
import ServiceRoute.Selection.OverrideSet

/-!
# What the overrides of a pool say

The override set of a pool, described by the overrides themselves: which stops some override of
the pool names, and what the bumps of a stop add up to.
-/

namespace ServiceRoute.Selection

/-- Some override of the pool gives this instruction about the stop. -/
def Named (pool : String) (overrides : List Override) (kind : OverrideKind) (id : StopId) : Prop :=
  ∃ o ∈ overrides, o.pool = pool ∧ o.kind = kind ∧ o.stop = id

instance (pool : String) (overrides : List Override) (kind : OverrideKind) (id : StopId) :
    Decidable (Named pool overrides kind id) :=
  inferInstanceAs (Decidable (∃ o ∈ overrides, _))

/-- The bumps that overrides of the pool give the stop, added up in their order. -/
def bumped (pool : String) (overrides : List Override) (id : StopId) : Score :=
  let bumps := overrides.filter fun o => o.pool = pool ∧ o.kind = .priorityBump ∧ o.stop = id
  (bumps.map fun o => Score.ofFloat (o.value.getD 0)).foldl (· + ·) (.ofFloat 0)

namespace OverrideSet

theorem mem_stopsOf {kind : OverrideKind} {overrides : List Override} {id : StopId} :
    id ∈ stopsOf kind overrides ↔ ∃ o ∈ overrides, o.kind = kind ∧ o.stop = id := by
  rw [stopsOf, List.mem_mergeSort, mem_distinct]
  simp [and_assoc]

theorem stopsOf_pairwise (kind : OverrideKind) (overrides : List Override) :
    (stopsOf kind overrides).Pairwise (· < ·) := by
  have ordered : (stopsOf kind overrides).Pairwise fun a b => decide (a ≤ b) = true := by
    refine List.pairwise_mergeSort (fun a b c ab bc => ?_) (fun a b => ?_) _
    · exact decide_eq_true (le_trans (of_decide_eq_true ab) (of_decide_eq_true bc))
    · simpa using le_total a b
  have apart : (stopsOf kind overrides).Nodup :=
    (List.mergeSort_perm _ _).nodup_iff.mpr (nodup_distinct _)
  exact ordered.imp₂ (fun a b le ne => lt_of_le_of_ne (of_decide_eq_true le) ne) apart

theorem mem_stopsOf_own {pool : String} {overrides : List Override} {kind : OverrideKind}
    {id : StopId} : id ∈ stopsOf kind (overrides.filter (·.pool = pool)) ↔
      Named pool overrides kind id := by
  rw [mem_stopsOf]
  simp [Named, and_assoc]

theorem stopsOf_own_eq {pool : String} {overrides overrides' : List Override} {kind : OverrideKind}
    (same : ∀ id, Named pool overrides kind id ↔ Named pool overrides' kind id) :
    stopsOf kind (overrides.filter (·.pool = pool)) =
      stopsOf kind (overrides'.filter (·.pool = pool)) := by
  apply (stopsOf_pairwise _ _).eq_of_mem_iff (stopsOf_pairwise _ _)
  intro id
  rw [mem_stopsOf_own, mem_stopsOf_own, same]

theorem mem_included {pool : String} {overrides : List Override} {id : StopId} :
    id ∈ (forPool pool overrides).included ↔ Named pool overrides .forceInclude id :=
  mem_stopsOf_own

theorem mem_excluded {pool : String} {overrides : List Override} {id : StopId} :
    id ∈ (forPool pool overrides).excluded ↔ Named pool overrides .forceExclude id :=
  mem_stopsOf_own

theorem bumpOf_own (pool : String) (overrides : List Override) (id : StopId) :
    bumpOf (overrides.filter (·.pool = pool)) id = bumped pool overrides id := by
  simp only [bumpOf, bumped, List.filter_filter, ← Bool.decide_and, and_comm]

theorem bumpOf_of_unnamed {overrides : List Override} {id : StopId}
    (unnamed : id ∉ stopsOf .priorityBump overrides) : bumpOf overrides id = .ofFloat 0 := by
  rw [mem_stopsOf] at unnamed
  have none_left : (overrides.filter fun o => o.kind = .priorityBump ∧ o.stop = id) = [] :=
    List.filter_eq_nil_iff.mpr fun o ho => by
      simpa using fun kind stop => unnamed ⟨o, ho, kind, stop⟩
  rw [bumpOf, none_left]
  rfl

theorem bumped_of_not_named {pool : String} {overrides : List Override} {id : StopId}
    (h : ¬ Named pool overrides .priorityBump id) : bumped pool overrides id = .ofFloat 0 := by
  rw [← bumpOf_own]
  apply bumpOf_of_unnamed
  rwa [mem_stopsOf_own]

theorem bump_forPool (pool : String) (overrides : List Override) (id : StopId) :
    (forPool pool overrides).bump id = bumped pool overrides id := by
  rw [← bumpOf_own, bump]
  by_cases named : id ∈ stopsOf .priorityBump (overrides.filter (·.pool = pool))
  · rw [forPool, List.lookup_graph _ named]
    rfl
  · rw [bumpOf_of_unnamed named, forPool]
    have absent : ((stopsOf .priorityBump (overrides.filter (·.pool = pool))).map fun stop =>
        (stop, bumpOf (overrides.filter (·.pool = pool)) stop)).lookup id = none := by
      rw [List.lookup_eq_none_iff]
      intro p hp
      obtain ⟨stop, hstop, rfl⟩ := List.mem_map.mp hp
      have different : id ≠ stop := fun same => named (same ▸ hstop)
      simpa using different
    rw [absent]
    rfl

end OverrideSet

end ServiceRoute.Selection
