import ServiceRoute.Proofs.Number.OrderedSums
import ServiceRoute.Selection.Score

/-!
# Sums of scores keep their order

A score that has cancelled out is no number, and stays below all others whatever is added to it.
Of two other scores the greater one stays the greater when the same finite number is added to
both. So rounding can make two scores equal, but it never turns their order around.
-/

namespace ServiceRoute.Selection

open Number

namespace Score

/-- A score cancels out only when it is no number. -/
def WellFormed (s : Score) : Prop :=
  s.cancelled = true → s.value.isNaN = true

theorem wellFormed_ofFloat (x : Float) : (ofFloat x).WellFormed := by
  intro cancelled
  cases cancelled

theorem value_add (a b : Score) : (a + b).value = a.value + b.value := rfl

theorem cancelled_add (a b : Score) : (a + b).cancelled =
    if a.value.isNaN then a.cancelled
    else if b.value.isNaN then b.cancelled
    else (a.value + b.value).isNaN := rfl

theorem wellFormed_add (a b : Score) : (a + b).WellFormed := by
  intro cancelled
  rw [cancelled_add] at cancelled
  rw [value_add]
  split_ifs at cancelled with left right
  · rw [add_of_isNaN left]
    exact left
  · rw [Number.add_comm, add_of_isNaN right]
    exact right
  · exact cancelled

theorem wellFormed_foldl {start : Score} (h : start.WellFormed) (xs : List Score) :
    (xs.foldl (· + ·) start).WellFormed := by
  induction xs generalizing start with
  | nil => exact h
  | cons x xs ih => exact ih (wellFormed_add start x)

variable {a b : Score} {z : Float}

theorem WellFormed.not_cancelled (h : a.WellFormed) (number : a.value.isNaN = false) :
    a.cancelled = false := by
  by_contra cancelled
  rw [Bool.not_eq_false] at cancelled
  rw [h cancelled] at number
  cases number

theorem add_ofFloat (h : a.WellFormed) (hz : z.isFinite = true) :
    a + ofFloat z = ⟨a.value + z, a.cancelled⟩ := by
  have cancelled : (a + ofFloat z).cancelled = a.cancelled := by
    have number : (ofFloat z).value.isNaN = false := isNaN_of_isFinite hz
    rw [cancelled_add, number]
    cases own : a.value.isNaN with
    | true => rfl
    | false =>
      rw [h.not_cancelled own]
      exact isNaN_add_of_isFinite own hz
  exact congrArg₂ Score.mk (value_add a _) cancelled

theorem ofFloat_add (a : Score) (hz : z.isFinite = true) : ofFloat z + a = a + ofFloat z := by
  have number : (ofFloat z).value.isNaN = false := isNaN_of_isFinite hz
  have cancelled : (ofFloat z + a).cancelled = (a + ofFloat z).cancelled := by
    rw [cancelled_add, cancelled_add, number, Number.add_comm (ofFloat z).value]
    rfl
  exact congrArg₂ Score.mk (Number.add_comm z a.value) cancelled

/-- A score that has cancelled out is below all others. -/
theorem rank_mk_true (x : Float) (s : Score) : rank ⟨x, true⟩ ≤ s.rank := by
  obtain ⟨value, cancelled⟩ := s
  cases cancelled with
  | true => exact Int.le_refl _
  | false =>
    have least := rank_ge value
    show -0x8000000000000000 ≤ Number.rank value
    omega

theorem rank_add_le_add_right (ha : a.WellFormed) (hb : b.WellFormed) (hz : z.isFinite = true)
    (le : a.rank ≤ b.rank) : (a + ofFloat z).rank ≤ (b + ofFloat z).rank := by
  rw [add_ofFloat ha hz, add_ofFloat hb hz]
  obtain ⟨x, cancelled⟩ := a
  obtain ⟨y, cancelled'⟩ := b
  cases cancelled with
  | true => exact rank_mk_true _ _
  | false =>
    cases cancelled' with
    | true =>
      have least := rank_ge x
      change Number.rank x ≤ -0x8000000000000000 at le
      omega
    | false => exact Number.rank_add_le_add_right hz le

theorem rank_le_rank_add_ofFloat (ha : a.WellFormed) (hz : z.isFinite = true) (le : 0 ≤ z) :
    a.rank ≤ (a + ofFloat z).rank := by
  rw [add_ofFloat ha hz]
  obtain ⟨x, cancelled⟩ := a
  cases cancelled with
  | true => exact Int.le_refl _
  | false => exact rank_le_rank_add_of_le hz le

end Score

end ServiceRoute.Selection
