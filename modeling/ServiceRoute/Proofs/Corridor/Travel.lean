import ServiceRoute.Proofs.Corridor.Permutation
import ServiceRoute.Proofs.Number.Extremes

/-!
# The order of travel

The order of a run depends on its stops and not on how they stand: the dominant axis
comes from extremes. So a run that was sorted resolves to the order it was sorted in.
Three comparisons meet here. Stops are sorted by the total order of their coordinates,
neighbours count as in order by the numerical one, and where no coordinate is missing
the first implies the second.
-/

namespace ServiceRoute.Corridor

open Number

theorem Axis.extent_perm (axis : Axis) {first first' : Waypoint} {rest rest' : List Waypoint}
    (same : (first :: rest).Perm (first' :: rest')) :
    axis.extent first rest = axis.extent first' rest' :=
  spread_perm (same.map axis.value)

namespace RunOrder

/-- Only the stops of a run decide about its order, not how they stand. -/
theorem resolve_perm {run run' : List Waypoint} (same : run.Perm run') (bearing : String) :
    resolve run bearing = resolve run' bearing := by
  cases run with
  | nil => rw [List.nil_perm.mp same]
  | cons first rest =>
    cases run' with
    | nil => exact absurd same.length_eq (by simp)
    | cons first' rest' =>
      have axis : dominantAxis first rest = dominantAxis first' rest' := by
        unfold dominantAxis
        rw [Axis.extent_perm .lon same, Axis.extent_perm .lat same]
      simp only [resolve, axis]

variable (order : RunOrder)

/-- Where a stop stands in the order, as a whole number that grows in the direction of travel. -/
def position (w : Waypoint) : Int :=
  match order.direction with
  | .ascending => rank (order.axis.value w)
  | .descending => -rank (order.axis.value w)

theorem precedes_iff (a b : Waypoint) :
    order.precedes a b = true ↔ order.position a ≤ order.position b := by
  unfold precedes position
  cases order.direction <;> simp

theorem precedes_trans (a b c : Waypoint) (hab : order.precedes a b = true)
    (hbc : order.precedes b c = true) : order.precedes a c = true := by
  rw [precedes_iff] at hab hbc ⊢
  exact hab.trans hbc

theorem precedes_total (a b : Waypoint) : (order.precedes a b || order.precedes b a) = true := by
  rw [Bool.or_eq_true, precedes_iff, precedes_iff]
  exact Int.le_total _ _

theorem sort_pairwise (run : List Waypoint) :
    (order.sort run).Pairwise fun a b => order.precedes a b = true :=
  List.pairwise_mergeSort order.precedes_trans order.precedes_total run

theorem sort_of_pairwise {run : List Waypoint}
    (sorted : run.Pairwise fun a b => order.precedes a b = true) : order.sort run = run :=
  List.mergeSort_of_pairwise sorted

/-- Whether two stops compare equal. -/
def ties (a b : Waypoint) : Bool :=
  order.precedes a b && order.precedes b a

theorem filter_ties_sort (run : List Waypoint) (w : Waypoint) :
    (order.sort run).filter (order.ties w) = run.filter (order.ties w) := by
  have level : (run.filter (order.ties w)).Pairwise fun a b => order.precedes a b = true := by
    refine List.pairwise_of_forall_mem_list fun a ha b hb => ?_
    have tie : order.ties w a = true := (List.mem_filter.mp ha).2
    have tie' : order.ties w b = true := (List.mem_filter.mp hb).2
    rw [ties, Bool.and_eq_true] at tie tie'
    exact order.precedes_trans a w b tie.2 tie'.1
  have kept : (run.filter (order.ties w)).Sublist (order.sort run) :=
    List.sublist_mergeSort order.precedes_trans order.precedes_total level List.filter_sublist
  have count := ((List.mergeSort_perm run order.precedes).filter (order.ties w)).length_eq
  have inside := kept.filter (order.ties w)
  simp only [List.filter_filter, Bool.and_self] at inside
  exact (inside.eq_of_length count.symm).symm

/-- Stops that may follow each other in a sorted run are in order, where their coordinates are
numbers. -/
theorem inOrder_of_precedes {a b : Waypoint} (ha : (order.axis.value a).isNaN = false)
    (hb : (order.axis.value b).isNaN = false) (h : order.precedes a b = true) :
    order.inOrder a b = true := by
  unfold precedes at h
  unfold inOrder
  cases hdirection : order.direction with
  | ascending =>
    simp only [hdirection, decide_eq_true_eq] at h ⊢
    exact le_of_rank_le ha hb h
  | descending =>
    simp only [hdirection, decide_eq_true_eq] at h ⊢
    exact le_of_rank_le hb ha h

end RunOrder

theorem sortRun_of_resolve {corridor : Signature} {run : List Waypoint} {order : RunOrder}
    (h : RunOrder.resolve run corridor.bearing = some order) :
    sortRun corridor run = order.sort run := by
  rw [sortRun, h]

theorem sortRun_sortRun (corridor : Signature) (run : List Waypoint) :
    sortRun corridor (sortRun corridor run) = sortRun corridor run := by
  have same := RunOrder.resolve_perm (sortRun_perm corridor run) corridor.bearing
  cases h : RunOrder.resolve run corridor.bearing with
  | none => rw [sortRun, same, h]
  | some order =>
    rw [sortRun_of_resolve (same.trans h), sortRun_of_resolve h]
    exact order.sort_of_pairwise (order.sort_pairwise run)

theorem correctRun_sortRun (threshold : Float) (corridor : Signature) (run : List Waypoint) :
    correctRun threshold corridor (sortRun corridor run) = sortRun corridor run := by
  unfold correctRun
  split_ifs
  · exact sortRun_sortRun corridor run
  · rfl

end ServiceRoute.Corridor
