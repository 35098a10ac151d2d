import ServiceRoute.Proofs.Corridor.Travel

/-!
# Neighbours in order

Two neighbours are in order only if both have a number on the axis. So a run cannot have more
neighbours in order than it has numbers, less one. A sorted run has as many: what is no number
stands at one end of it, and the numbers stand together. No arrangement of the stops of a run
has more neighbours in order than the sorted one.
-/

namespace ServiceRoute.Corridor

open Number

namespace RunOrder

variable (order : RunOrder)

/-- The number of stops that have a number on the axis. -/
def numbers (run : List Waypoint) : Nat :=
  run.countP fun w => !(order.axis.value w).isNaN

variable {order} {run run' : List Waypoint} {a b c : Waypoint}

theorem numbers_perm (same : run.Perm run') : order.numbers run = order.numbers run' :=
  same.countP_eq _

theorem numbers_cons_of_number (h : (order.axis.value a).isNaN = false) (run : List Waypoint) :
    order.numbers (a :: run) = order.numbers run + 1 :=
  List.countP_cons_of_pos (by rw [h]; rfl)

theorem numbers_cons_of_isNaN (h : (order.axis.value a).isNaN = true) (run : List Waypoint) :
    order.numbers (a :: run) = order.numbers run :=
  List.countP_cons_of_neg (by rw [h]; simp)

theorem numbers_of_forall (h : ∀ w ∈ run, (order.axis.value w).isNaN = false) :
    order.numbers run = run.length := by
  refine List.countP_eq_length.mpr fun w hw => ?_
  rw [h w hw]
  rfl

theorem numbers_eq_zero (h : ∀ w ∈ run, (order.axis.value w).isNaN = true) :
    order.numbers run = 0 := by
  refine List.countP_eq_zero.mpr fun w hw => ?_
  rw [h w hw]
  simp

theorem isNaN_eq_false_of_inOrder (h : order.inOrder a b = true) :
    (order.axis.value a).isNaN = false ∧ (order.axis.value b).isNaN = false := by
  unfold inOrder at h
  cases hdirection : order.direction with
  | ascending =>
    simp only [hdirection, decide_eq_true_eq] at h
    exact isNaN_eq_false_of_le h
  | descending =>
    simp only [hdirection, decide_eq_true_eq] at h
    exact (isNaN_eq_false_of_le h).symm

theorem numbers_cons_of_inOrder (h : order.inOrder a b = true) (run : List Waypoint) :
    order.numbers (a :: b :: run) - 1 = 1 + (order.numbers (b :: run) - 1) := by
  obtain ⟨ha, hb⟩ := isNaN_eq_false_of_inOrder h
  rw [numbers_cons_of_number ha, numbers_cons_of_number hb]
  omega

/-- A sorted run that has come from numbers to what is no number does not come back. -/
theorem isNaN_of_precedes (ha : (order.axis.value a).isNaN = false)
    (hb : (order.axis.value b).isNaN = true) (hab : order.precedes a b = true)
    (hbc : order.precedes b c = true) : (order.axis.value c).isNaN = true := by
  have before := rank_lt_of_isNaN ha hb
  unfold precedes at hab hbc
  cases hdirection : order.direction with
  | ascending =>
    simp only [hdirection, decide_eq_true_eq] at hbc
    by_contra hc
    rw [Bool.not_eq_true] at hc
    have behind := rank_lt_of_isNaN hc hb
    omega
  | descending =>
    simp only [hdirection, decide_eq_true_eq] at hab
    omega

theorem orderedPairs_le (order : RunOrder) (run : List Waypoint) :
    order.orderedPairs run ≤ order.numbers run - 1 := by
  induction run with
  | nil => exact Nat.zero_le _
  | cons a run ih =>
    cases run with
    | nil => exact Nat.zero_le _
    | cons b run =>
      rw [orderedPairs]
      cases h : order.inOrder a b with
      | true =>
        rw [numbers_cons_of_inOrder h, Bool.toNat_true]
        exact Nat.add_le_add_left ih 1
      | false =>
        have more : order.numbers (b :: run) ≤ order.numbers (a :: b :: run) :=
          (List.sublist_cons_self a (b :: run)).countP_le
        rw [Bool.toNat_false]
        omega

theorem orderedPairs_of_sorted (sorted : run.Pairwise fun a b => order.precedes a b = true) :
    order.orderedPairs run = order.numbers run - 1 := by
  induction run with
  | nil => rfl
  | cons a run ih =>
    cases run with
    | nil =>
      have few : order.numbers [a] ≤ 1 := List.countP_le_length
      rw [orderedPairs]
      omega
    | cons b run =>
      obtain ⟨front, rest⟩ := List.pairwise_cons.mp sorted
      have hab : order.precedes a b = true := front b (by simp)
      rw [orderedPairs, ih rest]
      cases h : order.inOrder a b with
      | true => rw [numbers_cons_of_inOrder h, Bool.toNat_true]
      | false =>
        rw [Bool.toNat_false, Nat.zero_add]
        cases ha : (order.axis.value a).isNaN with
        | true => rw [numbers_cons_of_isNaN ha]
        | false =>
          -- Two numbers would be in order, so the second is none, and no number follows it.
          have hb : (order.axis.value b).isNaN = true := by
            by_contra hb
            rw [Bool.not_eq_true] at hb
            rw [order.inOrder_of_precedes ha hb hab] at h
            cases h
          have none : order.numbers (b :: run) = 0 := by
            refine numbers_eq_zero (List.forall_mem_cons.mpr ⟨hb, fun c hc => ?_⟩)
            exact isNaN_of_precedes ha hb hab ((List.pairwise_cons.mp rest).1 c hc)
          rw [numbers_cons_of_number ha, none]

/-- Sorting a run puts as many neighbours in order as any arrangement of its stops has. -/
theorem orderedPairs_le_sort (order : RunOrder) (same : run'.Perm run) :
    order.orderedPairs run' ≤ order.orderedPairs (order.sort run) := by
  have sorted : (order.sort run).Perm run := List.mergeSort_perm run order.precedes
  calc order.orderedPairs run'
      ≤ order.numbers run' - 1 := order.orderedPairs_le run'
    _ = order.numbers (order.sort run) - 1 := by rw [numbers_perm (same.trans sorted.symm)]
    _ = order.orderedPairs (order.sort run) :=
        (orderedPairs_of_sorted (order.sort_pairwise run)).symm

end RunOrder

end ServiceRoute.Corridor
