import Mathlib.Data.List.Nodup
import Mathlib.Data.List.Perm.Subperm
import Mathlib.Tactic.SplitIfs

/-!
# Pulls

A relocation by its positions: one stop is taken out of the route and put back behind an anchor.
It carries every position to another one. When the anchors of several pulls only move on, a stop
that was pulled stays where it was put, so no stop is pulled twice and none gets ahead by more than
the widest pull. Every other pull moves it back by one place at most.
-/

namespace ServiceRoute.Relocation

variable {α : Type}

/-- The stop at `source` is taken out and put back right behind the one at `anchor`. -/
structure Pull where
  anchor : Nat
  source : Nat
deriving DecidableEq

namespace Pull

/-- The route after the pull, if neither position is out of range. -/
def after? (pull : Pull) (route : List α) : Option (List α) :=
  route[pull.source]?.bind fun stop =>
    let others := route.eraseIdx pull.source
    if pull.anchor + 1 ≤ others.length then some (others.insertIdx (pull.anchor + 1) stop) else none

/-- The position that the stop from this position has after the pull. -/
def carry (pull : Pull) (position : Nat) : Nat :=
  if position = pull.source then pull.anchor + 1
  else if pull.anchor < position ∧ position < pull.source then position + 1
  else position

/-- The pull fits a window of this lookahead in a route of this length. -/
structure Within (lookahead length : Nat) (pull : Pull) : Prop where
  forward : pull.anchor + 2 ≤ pull.source
  near : pull.source ≤ pull.anchor + lookahead
  inside : pull.source < length

variable {pull : Pull} {route moved : List α}

theorem after?_eq_some (h : pull.after? route = some moved) :
    pull.source < route.length ∧ ∃ stop, route[pull.source]? = some stop ∧
      pull.anchor + 1 ≤ (route.eraseIdx pull.source).length ∧
      moved = (route.eraseIdx pull.source).insertIdx (pull.anchor + 1) stop := by
  obtain ⟨stop, taken, put⟩ := Option.bind_eq_some_iff.mp h
  dsimp only at put
  split_ifs at put with inside
  exact ⟨(List.getElem?_eq_some_iff.mp taken).1, stop, taken, inside, (Option.some.inj put).symm⟩

theorem length_after? (h : pull.after? route = some moved) : moved.length = route.length := by
  obtain ⟨source, stop, -, inside, rfl⟩ := after?_eq_some h
  rw [List.length_insertIdx_of_le_length inside, List.length_eraseIdx_of_lt source]
  omega

theorem getElem?_carry (forward : pull.anchor < pull.source) (h : pull.after? route = some moved)
    (position : Nat) : moved[pull.carry position]? = route[position]? := by
  obtain ⟨source, stop, taken, inside, rfl⟩ := after?_eq_some h
  unfold carry
  split_ifs with pulled between
  · rw [pulled, taken, List.getElem?_insertIdx_self, if_pos inside]
  · rw [List.getElem?_insertIdx_of_gt (by omega), Nat.add_sub_cancel, List.getElem?_eraseIdx,
      if_pos between.2]
  · rcases Nat.lt_or_ge pull.anchor position with behind | front
    · have beyond : pull.source < position := by omega
      rw [List.getElem?_insertIdx_of_gt (by omega), List.getElem?_eraseIdx, if_neg (by omega),
        Nat.sub_add_cancel (by omega)]
    · rw [List.getElem?_insertIdx_of_lt (by omega), List.getElem?_eraseIdx, if_pos (by omega)]

theorem carry_injective (forward : pull.anchor < pull.source) :
    Function.Injective pull.carry := by
  intro p q same
  unfold carry at same
  split_ifs at same <;> omega

theorem carry_of_le (forward : pull.anchor < pull.source) {position : Nat}
    (h : position ≤ pull.anchor) : pull.carry position = position := by
  rw [carry, if_neg (by omega), if_neg (by omega)]

theorem carry_source (pull : Pull) : pull.carry pull.source = pull.anchor + 1 :=
  if_pos rfl

/-- Only the pulled stop gets ahead, and every other one falls back by a place at most. -/
theorem carry_near {position : Nat} (other : position ≠ pull.source) :
    position ≤ pull.carry position ∧ pull.carry position ≤ position + 1 := by
  rw [carry, if_neg other]
  split_ifs <;> omega

end Pull

/-- The route after these pulls, if no position is out of range. -/
def afterPulls? (pulls : List Pull) (route : List α) : Option (List α) :=
  pulls.foldlM (fun route pull => pull.after? route) route

def carried (pulls : List Pull) (position : Nat) : Nat :=
  pulls.foldl (fun position pull => pull.carry position) position

def timesPulled : List Pull → Nat → Nat
  | [], _ => 0
  | pull :: pulls, position =>
    (if position = pull.source then 1 else 0) + timesPulled pulls (pull.carry position)

/-- Pulls that fit the window, their anchors moving on. -/
structure Advancing (lookahead length : Nat) (pulls : List Pull) : Prop where
  within : ∀ pull ∈ pulls, pull.Within lookahead length
  ordered : pulls.Pairwise (·.anchor < ·.anchor)

section Pulls

variable {pull : Pull} {pulls : List Pull} {route result : List α} {lookahead length : Nat}

theorem afterPulls?_cons (pull : Pull) (pulls : List Pull) (route : List α) :
    afterPulls? (pull :: pulls) route = (pull.after? route).bind (afterPulls? pulls) :=
  List.foldlM_cons ..

theorem length_afterPulls? (h : afterPulls? pulls route = some result) :
    result.length = route.length := by
  induction pulls generalizing route with
  | nil => rw [Option.some.inj h]
  | cons pull pulls ih =>
    rw [afterPulls?_cons] at h
    obtain ⟨moved, first, later⟩ := Option.bind_eq_some_iff.mp h
    rw [ih later, Pull.length_after? first]

@[simp] theorem carried_cons (pull : Pull) (pulls : List Pull) (position : Nat) :
    carried (pull :: pulls) position = carried pulls (pull.carry position) := rfl

theorem Advancing.tail (h : Advancing lookahead length (pull :: pulls)) :
    Advancing lookahead length pulls :=
  ⟨fun p hp => h.within p (List.mem_cons_of_mem pull hp), h.ordered.of_cons⟩

theorem Advancing.forward (h : Advancing lookahead length pulls) :
    ∀ p ∈ pulls, p.anchor < p.source := by
  intro p hp
  have ahead := (h.within p hp).forward
  omega

theorem getElem?_carried (forward : ∀ p ∈ pulls, p.anchor < p.source)
    (applied : afterPulls? pulls route = some result) (position : Nat) :
    result[carried pulls position]? = route[position]? := by
  induction pulls generalizing route position with
  | nil =>
    obtain rfl := Option.some.inj applied
    rfl
  | cons pull pulls ih =>
    rw [afterPulls?_cons] at applied
    obtain ⟨moved, first, later⟩ := Option.bind_eq_some_iff.mp applied
    rw [carried_cons, ih (fun p hp => forward p (List.mem_cons_of_mem pull hp)) later,
      Pull.getElem?_carry (forward pull (by simp)) first]

theorem carried_injective (forward : ∀ p ∈ pulls, p.anchor < p.source) :
    Function.Injective (carried pulls) := by
  induction pulls with
  | nil => exact fun _ _ same => same
  | cons pull pulls ih =>
    have later := ih fun p hp => forward p (List.mem_cons_of_mem pull hp)
    exact later.comp (Pull.carry_injective (forward pull (by simp)))

/-- What stands in front of all anchors to come stays there, and is not pulled. -/
theorem settled_of_le (forward : ∀ p ∈ pulls, p.anchor < p.source) {position : Nat}
    (front : ∀ p ∈ pulls, position ≤ p.anchor) :
    carried pulls position = position ∧ timesPulled pulls position = 0 := by
  induction pulls with
  | nil => exact ⟨rfl, rfl⟩
  | cons pull pulls ih =>
    have ahead := forward pull (by simp)
    have stays := Pull.carry_of_le ahead (front pull (by simp))
    have later := ih (fun p hp => forward p (List.mem_cons_of_mem pull hp))
      fun p hp => front p (List.mem_cons_of_mem pull hp)
    have unpulled : position ≠ pull.source := by
      have := front pull (by simp)
      omega
    rw [carried_cons, timesPulled, stays, if_neg unpulled, Nat.zero_add]
    exact later

/-- A stop that was pulled stands in front of all anchors to come. -/
theorem Advancing.settled (h : Advancing lookahead length (pull :: pulls)) :
    carried pulls (pull.anchor + 1) = pull.anchor + 1 ∧
      timesPulled pulls (pull.anchor + 1) = 0 :=
  settled_of_le h.tail.forward fun p hp => (List.pairwise_cons.mp h.ordered).1 p hp

theorem Advancing.timesPulled_le_one (h : Advancing lookahead length pulls) (position : Nat) :
    timesPulled pulls position ≤ 1 := by
  induction pulls generalizing position with
  | nil => exact Nat.zero_le 1
  | cons pull pulls ih =>
    rw [timesPulled]
    split_ifs with pulled
    · have settled := h.settled.2
      rw [← Pull.carry_source, ← pulled] at settled
      omega
    · rw [Nat.zero_add]
      exact ih h.tail _

theorem Advancing.le_carried_add (h : Advancing lookahead length pulls) (position : Nat) :
    position ≤ carried pulls position + (lookahead - 1) := by
  induction pulls generalizing position with
  | nil => exact Nat.le_add_right _ _
  | cons pull pulls ih =>
    rw [carried_cons]
    by_cases pulled : position = pull.source
    · have near := (h.within pull (by simp)).near
      rw [pulled, Pull.carry_source, h.settled.1]
      omega
    · have later := ih h.tail (pull.carry position)
      have step := (Pull.carry_near pulled).1
      omega

theorem Advancing.carried_le (h : Advancing lookahead length pulls) (position : Nat) :
    carried pulls position ≤ position + pulls.length := by
  induction pulls generalizing position with
  | nil => exact Nat.le_refl _
  | cons pull pulls ih =>
    have later := ih h.tail (pull.carry position)
    rw [carried_cons, List.length_cons]
    by_cases pulled : position = pull.source
    · have forward := (h.within pull (by simp)).forward
      rw [pulled, Pull.carry_source, h.settled.1]
      omega
    · have step := (Pull.carry_near pulled).2
      omega

theorem Advancing.carried_zero (h : Advancing lookahead length pulls) : carried pulls 0 = 0 :=
  (settled_of_le h.forward fun _ _ => Nat.zero_le _).1

/-- The last two stops are no anchors of a pull. -/
theorem Advancing.length_le (h : Advancing lookahead length pulls) : pulls.length ≤ length - 2 := by
  have distinct : (pulls.map (·.anchor)).Nodup :=
    List.pairwise_map.mpr (h.ordered.imp Nat.ne_of_lt)
  have among : pulls.map (·.anchor) ⊆ List.range (length - 2) := by
    intro anchor hanchor
    obtain ⟨pull, hpull, rfl⟩ := List.mem_map.mp hanchor
    have forward := (h.within pull hpull).forward
    have inside := (h.within pull hpull).inside
    exact List.mem_range.mpr (by omega)
  have counted := (List.subperm_of_subset distinct among).length_le
  rwa [List.length_map, List.length_range] at counted

end Pulls

end ServiceRoute.Relocation
