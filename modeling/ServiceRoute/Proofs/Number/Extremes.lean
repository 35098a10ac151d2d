import ServiceRoute.Proofs.Number.Comparison

/-!
# Extremes

The least and the greatest value of a list, as `lesser` and `greater` find them,
depend on the values of the list only and not on their order. What is no number
counts only where there is no number at all.
-/

namespace ServiceRoute.Number

/-- Where a value stands in a search for extremes: what is no number stands behind all numbers. -/
def standing (measure : Int → Int) (x : Float) : WithTop Int :=
  if x.isNaN then ⊤ else (measure (rank x) : Int)

theorem standing_of_nan {measure : Int → Int} {x : Float} (h : x.isNaN = true) :
    standing measure x = ⊤ :=
  if_pos h

theorem standing_of_number {measure : Int → Int} {x : Float} (h : x.isNaN = false) :
    standing measure x = (measure (rank x) : Int) :=
  if_neg (Bool.eq_false_iff.mp h)

theorem standing_le {measure : Int → Int} {x y : Float} (hx : x.isNaN = false)
    (hy : y.isNaN = false) :
    standing measure x ≤ standing measure y ↔ measure (rank x) ≤ measure (rank y) := by
  rw [standing_of_number hx, standing_of_number hy, WithTop.coe_le_coe]

theorem standing_injective {measure : Int → Int} (injective : Function.Injective measure)
    {x y : Float} (h : standing measure x = standing measure y) : x = y := by
  unfold standing at h
  split_ifs at h with hx hy hy
  · exact eq_of_isNaN hx hy
  · exact absurd h WithTop.coe_ne_top.symm
  · exact absurd h WithTop.coe_ne_top
  · exact rank_injective (injective (WithTop.coe_injective h))

/-- Of two values the operation keeps the one that stands in front. -/
structure Extreme (measure : Int → Int) (op : Float → Float → Float) : Prop where
  injective : Function.Injective measure
  standing_op : ∀ x y, standing measure (op x y) = min (standing measure x) (standing measure y)

theorem extreme_lesser : Extreme id lesser where
  injective := Function.injective_id
  standing_op x y := by
    unfold lesser
    split_ifs with hx hy h
    · rw [standing_of_nan hx, min_top_left]
    · rw [standing_of_nan hy, min_top_right]
    · rw [Bool.not_eq_true] at hx hy
      exact (min_eq_left ((standing_le hx hy).mpr h)).symm
    · rw [Bool.not_eq_true] at hx hy
      exact (min_eq_right ((standing_le hy hx).mpr (Int.le_of_not_le h))).symm

theorem extreme_greater : Extreme (fun r => -r) greater where
  injective := neg_injective
  standing_op x y := by
    unfold greater
    split_ifs with hx hy h
    · rw [standing_of_nan hx, min_top_left]
    · rw [standing_of_nan hy, min_top_right]
    · rw [Bool.not_eq_true] at hx hy
      exact (min_eq_right ((standing_le hy hx).mpr (Int.neg_le_neg h))).symm
    · rw [Bool.not_eq_true] at hx hy
      exact (min_eq_left ((standing_le hx hy).mpr (Int.neg_le_neg (Int.le_of_not_le h)))).symm

section Extreme

variable {measure : Int → Int} {op : Float → Float → Float} {x y : Float} {xs ys : List Float}

theorem Extreme.op_eq (h : Extreme measure op) (x y : Float) : op x y = x ∨ op x y = y := by
  have least := h.standing_op x y
  rcases min_choice (standing measure x) (standing measure y) with left | right
  · exact Or.inl (standing_injective h.injective (least.trans left))
  · exact Or.inr (standing_injective h.injective (least.trans right))

theorem Extreme.foldl_mem (h : Extreme measure op) : xs.foldl op x ∈ x :: xs := by
  induction xs generalizing x with
  | nil => simp
  | cons y xs ih =>
    rw [List.foldl_cons]
    rcases List.mem_cons.mp (ih (x := op x y)) with kept | later
    · rw [kept]
      rcases h.op_eq x y with left | right
      · simp [left]
      · simp [right]
    · simp [later]

theorem Extreme.foldl_le (h : Extreme measure op) :
    ∀ z ∈ x :: xs, standing measure (xs.foldl op x) ≤ standing measure z := by
  induction xs generalizing x with
  | nil => simp
  | cons y xs ih =>
    have front := ih (x := op x y) (op x y) (by simp)
    rw [h.standing_op] at front
    intro z hz
    rcases List.mem_cons.mp hz with rfl | hz
    · exact front.trans (min_le_left _ _)
    · rcases List.mem_cons.mp hz with rfl | hz
      · exact front.trans (min_le_right _ _)
      · exact ih z (List.mem_cons_of_mem _ hz)

theorem Extreme.foldl_perm (h : Extreme measure op) (same : (x :: xs).Perm (y :: ys)) :
    xs.foldl op x = ys.foldl op y := by
  refine standing_injective h.injective (le_antisymm ?_ ?_)
  · exact h.foldl_le _ (same.mem_iff.mpr h.foldl_mem)
  · exact h.foldl_le _ (same.mem_iff.mp h.foldl_mem)

end Extreme

theorem spread_perm {x y : Float} {xs ys : List Float} (same : (x :: xs).Perm (y :: ys)) :
    spread x xs = spread y ys := by
  unfold spread
  rw [extreme_greater.foldl_perm same, extreme_lesser.foldl_perm same]

end ServiceRoute.Number
