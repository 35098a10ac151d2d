import Mathlib.Algebra.BigOperators.Group.Multiset.Basic
import Mathlib.Algebra.Order.Ring.Rat
import Mathlib.Data.List.Defs
import Mathlib.Tactic.Abel
import Mathlib.Tactic.Linarith
import ServiceRoute.Proofs.Relocation.KnownDurations

/-!
# Relocation shortens

Relocating one stop takes two or three legs off the route and puts as many in their place, and
these are the legs whose durations the pass compares. The pass only relocates when that saves
more than its limit. Its relocations lead from the route to its result, so their savings add up.
-/

namespace ServiceRoute.Relocation

variable {α δ : Type}

def legsOf (route : List α) : Multiset (α × α) :=
  route.consecutivePairs

/-- The leg from `a` into the stops behind it, if there are any. -/
def onward (a : α) : List α → Multiset (α × α)
  | [] => 0
  | b :: _ => {(a, b)}

@[simp] theorem onward_nil (a : α) : onward a [] = 0 := rfl

@[simp] theorem onward_cons (a b : α) (rest : List α) : onward a (b :: rest) = {(a, b)} := rfl

@[simp] theorem legsOf_nil : legsOf ([] : List α) = 0 := rfl

theorem legsOf_cons (a : α) (route : List α) :
    legsOf (a :: route) = onward a route + legsOf route := by
  cases route <;> rfl

theorem legsOf_append {xs : List α} (nonempty : xs ≠ []) (ys : List α) :
    legsOf (xs ++ ys) = legsOf xs + onward (xs.getLast nonempty) ys + legsOf ys := by
  induction xs with
  | nil => exact absurd rfl nonempty
  | cons a xs ih =>
    cases xs with
    | nil => simp [legsOf_cons a]
    | cons b xs =>
      have rest := ih (by simp)
      rw [List.cons_append, legsOf_cons, rest, legsOf_cons a (b :: xs), List.getLast_cons_cons]
      simp only [List.cons_append, onward_cons, add_assoc]

/-- The legs that vanish when the candidate moves behind the anchor. -/
def Candidate.vanishing (anchor next : α) (c : Candidate α) : Multiset (α × α) :=
  {(anchor, next)} + {(c.predecessor next, c.stop)} + onward c.stop c.behind

def Candidate.arising (anchor next : α) (c : Candidate α) : Multiset (α × α) :=
  {(anchor, c.stop)} + {(c.stop, next)} + onward (c.predecessor next) c.behind

/-- A relocation: behind the stops of `front` and the anchor, the candidate moves in front of
`next`. -/
structure Move (α : Type) where
  front : List α
  anchor : α
  next : α
  candidate : Candidate α

namespace Move

def rest (move : Move α) : List α :=
  move.candidate.before ++ move.candidate.stop :: move.candidate.behind

def source (move : Move α) : List α :=
  move.front ++ move.anchor :: move.next :: move.rest

def target (move : Move α) : List α :=
  move.front ++ move.anchor :: move.candidate.moved move.next

def vanishing (move : Move α) : Multiset (α × α) :=
  move.candidate.vanishing move.anchor move.next

def arising (move : Move α) : Multiset (α × α) :=
  move.candidate.arising move.anchor move.next

/-- The legs in front of the anchor, between `next` and the candidate, and behind it. -/
def kept (move : Move α) : Multiset (α × α) :=
  legsOf (move.front ++ [move.anchor]) + legsOf (move.next :: move.candidate.before) +
    legsOf move.candidate.behind

theorem legsOf_source (move : Move α) : legsOf move.source = move.kept + move.vanishing := by
  obtain ⟨front, anchor, next, before, stop, behind⟩ := move
  have atAnchor := legsOf_append (List.concat_ne_nil anchor front)
    (next :: (before ++ stop :: behind))
  have atStop := legsOf_append (List.cons_ne_nil next before) (stop :: behind)
  rw [List.cons_append] at atStop
  simp only [List.append_assoc, List.singleton_append, List.getLast_append_singleton, atStop,
    legsOf_cons stop, onward_cons] at atAnchor
  simp only [source, rest, kept, vanishing, Candidate.vanishing, Candidate.predecessor, atAnchor]
  abel

theorem legsOf_target (move : Move α) : legsOf move.target = move.kept + move.arising := by
  obtain ⟨front, anchor, next, before, stop, behind⟩ := move
  have atAnchor := legsOf_append (List.concat_ne_nil anchor front)
    (stop :: next :: (before ++ behind))
  have atStop := legsOf_append (List.cons_ne_nil next before) behind
  rw [List.cons_append] at atStop
  simp only [List.append_assoc, List.singleton_append, List.getLast_append_singleton, atStop,
    legsOf_cons stop, onward_cons] at atAnchor
  simp only [target, Candidate.moved, kept, arising, Candidate.arising, Candidate.predecessor,
    atAnchor]
  abel

/-- The same relocation in a route that has more stops in front. -/
def after (more : List α) (move : Move α) : Move α :=
  { move with front := more ++ move.front }

theorem source_after (more : List α) (move : Move α) :
    (move.after more).source = more ++ move.source :=
  List.append_assoc ..

theorem target_after (more : List α) (move : Move α) :
    (move.after more).target = more ++ move.target :=
  List.append_assoc ..

end Move

/-- The relocations lead from one route to the other. -/
inductive Leads : List (Move α) → List α → List α → Prop
  | done (route : List α) : Leads [] route route
  | step (move : Move α) {later : List (Move α)} {result : List α} :
      Leads later move.target result → Leads (move :: later) move.source result

theorem Leads.after {moves : List (Move α)} {route result : List α} (h : Leads moves route result)
    (more : List α) : Leads (moves.map (Move.after more)) (more ++ route) (more ++ result) := by
  induction h with
  | done route => exact .done _
  | step move _ ih =>
    rw [← move.source_after more]
    rw [← move.target_after more] at ih
    exact .step _ ih

section Pass

variable [Add δ] [Sub δ] [Neg δ] [LE δ] [LT δ] [DecidableLE δ] [DecidableLT δ]
variable (duration : α → α → δ) (limits : Limits δ)

/-- The relocations of a pass, in the order in which it makes them. -/
def passMoves : (anchors budget : Nat) → List α → List (Move α)
  | anchors + 1, budget + 1, anchor :: next :: rest =>
    match chosen duration limits anchor next rest with
    | some c =>
      ⟨[], anchor, next, c⟩ :: (passMoves anchors budget (c.moved next)).map (Move.after [anchor])
    | none => (passMoves anchors (budget + 1) (next :: rest)).map (Move.after [anchor])
  | _, _, _ => []

def relocations (maxMoves maxStops : Nat) (stops : List α) : List (Move α) :=
  if stops.length > maxStops then []
  else passMoves duration limits (stops.length - 1) maxMoves stops

/-- The pass made this relocation: it chose the candidate, which saves more than the limit. -/
structure Move.Made (move : Move α) : Prop where
  chosen : chosen duration limits move.anchor move.next move.rest = some move.candidate
  saves : change duration move.anchor move.next move.candidate < -limits.minImprovement

variable {duration limits}

theorem Move.Made.after {move : Move α} (h : move.Made duration limits) (more : List α) :
    (move.after more).Made duration limits :=
  ⟨h.chosen, h.saves⟩

theorem Move.made_of_chosen {anchor next : α} {rest : List α} {c : Candidate α}
    (h : Relocation.chosen duration limits anchor next rest = some c) :
    rest = Move.rest ⟨[], anchor, next, c⟩ ∧ Move.Made duration limits ⟨[], anchor, next, c⟩ := by
  obtain ⟨window, saves⟩ := chosen_eq_some h
  have split : rest = Move.rest ⟨[], anchor, next, c⟩ := split_of_mem_candidates window
  exact ⟨split, split ▸ h, saves⟩

/-- The relocations lead from the stops to the result, which counts them, and all were made. -/
structure Traces (duration : α → α → δ) (limits : Limits δ) (moves : List (Move α))
    (stops : List α) (result : Relocated α) : Prop where
  leads : Leads moves stops result.stops
  counted : moves.length = result.moves
  made : ∀ move ∈ moves, move.Made duration limits

theorem traces_nil (stops : List α) : Traces duration limits [] stops ⟨stops, 0⟩ :=
  ⟨.done stops, rfl, by simp⟩

/-- With more stops in front the same relocations lead to the same result behind them. -/
theorem Traces.after {moves : List (Move α)} {stops : List α} {result : Relocated α}
    (h : Traces duration limits moves stops result) (more : List α) :
    Traces duration limits (moves.map (Move.after more)) (more ++ stops)
      ⟨more ++ result.stops, result.moves⟩ where
  leads := h.leads.after more
  counted := by rw [List.length_map, h.counted]
  made := List.forall_mem_map.mpr fun move hmove => (h.made move hmove).after more

theorem Traces.cons {moves : List (Move α)} {move : Move α} {result : Relocated α}
    (made : move.Made duration limits) (h : Traces duration limits moves move.target result) :
    Traces duration limits (move :: moves) move.source ⟨result.stops, result.moves + 1⟩ where
  leads := .step move h.leads
  counted := by rw [List.length_cons, h.counted]
  made := List.forall_mem_cons.mpr ⟨made, h.made⟩

theorem traces_passMoves (anchors budget : Nat) (stops : List α) :
    Traces duration limits (passMoves duration limits anchors budget stops) stops
      (passed duration limits anchors budget stops) := by
  induction anchors generalizing budget stops with
  | zero => exact traces_nil stops
  | succ anchors ih =>
    match budget, stops with
    | 0, stops => exact traces_nil stops
    | budget + 1, [] => exact traces_nil []
    | budget + 1, [anchor] => exact traces_nil [anchor]
    | budget + 1, anchor :: next :: rest =>
      rw [passMoves, passed_cons]
      cases hchosen : chosen duration limits anchor next rest with
      | none => exact (ih (budget + 1) (next :: rest)).after [anchor]
      | some c =>
        obtain ⟨split, made⟩ := Move.made_of_chosen hchosen
        rw [split]
        exact .cons made ((ih budget (c.moved next)).after [anchor])

theorem traces_relocations (maxMoves maxStops : Nat) (stops : List α) :
    Traces duration limits (relocations duration limits maxMoves maxStops stops) stops
      (relocated duration limits maxMoves maxStops stops) := by
  rw [relocations, relocated, relocate_eq]
  split_ifs
  · exact traces_nil stops
  · exact traces_passMoves _ maxMoves stops

end Pass

section Durations

variable {duration : α → α → ℚ} {limits : Limits ℚ}

def travel (duration : α → α → ℚ) (legs : Multiset (α × α)) : ℚ :=
  (legs.map fun leg => duration leg.1 leg.2).sum

@[simp] theorem travel_singleton (a b : α) : travel duration {(a, b)} = duration a b := by
  simp [travel]

@[simp] theorem travel_add (legs more : Multiset (α × α)) :
    travel duration (legs + more) = travel duration legs + travel duration more := by
  simp [travel]

theorem change_eq_travel (anchor next : α) (c : Candidate α) :
    change duration anchor next c =
      travel duration (c.arising anchor next) - travel duration (c.vanishing anchor next) := by
  rw [change_eq]
  cases hbehind : c.behind <;>
    simp only [Candidate.arising, Candidate.vanishing, hbehind, onward_nil, onward_cons, travel_add,
      travel_singleton, add_zero]

theorem Move.Made.travel_target_lt {move : Move α} (h : move.Made duration limits) :
    travel duration (legsOf move.target) + limits.minImprovement <
      travel duration (legsOf move.source) := by
  have saves := h.saves
  rw [change_eq_travel] at saves
  rw [legsOf_target, legsOf_source, travel_add, travel_add, vanishing, arising]
  linarith

theorem Leads.travel_le {moves : List (Move α)} {route result : List α}
    (h : Leads moves route result) (made : ∀ move ∈ moves, move.Made duration limits) :
    travel duration (legsOf result) + moves.length * limits.minImprovement ≤
      travel duration (legsOf route) := by
  induction h with
  | done route => simp
  | step move _ ih =>
    obtain ⟨first, later⟩ := List.forall_mem_cons.mp made
    have shorter := first.travel_target_lt
    have rest := ih later
    rw [List.length_cons, Nat.cast_succ, add_mul, one_mul]
    linarith

theorem Leads.travel_lt {moves : List (Move α)} {route result : List α}
    (h : Leads moves route result) (made : ∀ move ∈ moves, move.Made duration limits)
    (some_made : moves ≠ []) :
    travel duration (legsOf result) + moves.length * limits.minImprovement <
      travel duration (legsOf route) := by
  cases h with
  | done => exact absurd rfl some_made
  | step move later =>
    obtain ⟨first, others⟩ := List.forall_mem_cons.mp made
    have shorter := first.travel_target_lt
    have rest := later.travel_le others
    rw [List.length_cons, Nat.cast_succ, add_mul, one_mul]
    linarith

theorem Traces.travel_le {moves : List (Move α)} {stops : List α} {result : Relocated α}
    (h : Traces duration limits moves stops result) (origin : List α) :
    travel duration (legsOf (origin ++ result.stops)) ≤
        travel duration (legsOf (origin ++ stops)) - result.moves * limits.minImprovement ∧
      (0 < result.moves → travel duration (legsOf (origin ++ result.stops)) <
        travel duration (legsOf (origin ++ stops)) - result.moves * limits.minImprovement) := by
  have traced := h.after origin
  have counted := traced.counted
  dsimp only at counted
  rw [← counted]
  refine ⟨?_, fun some_made => ?_⟩
  · have shorter := traced.leads.travel_le traced.made
    linarith
  · have shorter := traced.leads.travel_lt traced.made (List.ne_nil_of_length_pos some_made)
    linarith

end Durations

/-- The relocations of a route lead from it to the answer, whichever durations the legs have and
however these are handed over, and each puts the legs that arise in the place of those that
vanish. With rational durations these are what the pass compares, every relocation saves more than
the limit, and with a limit that is not negative a route never gets longer, wherever it starts. -/
theorem relocate_shortens :
    (∀ {δ : Type} [Add δ] [Sub δ] [Neg δ] [LE δ] [LT δ] [DecidableLE δ] [DecidableLT δ]
        {m : Type → Type} [Monad m] [LawfulMonad m] (duration : α → α → δ) (limits : Limits δ)
        (maxMoves maxStops : Nat) (stops : List α),
      relocate (m := m) (fun a b => pure (duration a b)) limits maxMoves maxStops stops =
        pure (relocated duration limits maxMoves maxStops stops) ∧
      Traces duration limits (relocations duration limits maxMoves maxStops stops) stops
        (relocated duration limits maxMoves maxStops stops) ∧
      ∀ move ∈ relocations duration limits maxMoves maxStops stops, ∃ kept,
        legsOf move.source = kept + move.vanishing ∧ legsOf move.target = kept + move.arising) ∧
    ∀ (duration : α → α → ℚ) (limits : Limits ℚ) (maxMoves maxStops : Nat) (stops : List α),
      (∀ move ∈ relocations duration limits maxMoves maxStops stops,
        change duration move.anchor move.next move.candidate =
          travel duration move.arising - travel duration move.vanishing) ∧
      ∀ (origin : Option α) (result : Relocated α),
        relocated duration limits maxMoves maxStops stops = result →
        let before := travel duration (legsOf (origin.toList ++ stops))
        let after := travel duration (legsOf (origin.toList ++ result.stops))
        after ≤ before - result.moves * limits.minImprovement ∧
        (0 < result.moves → after < before - result.moves * limits.minImprovement) ∧
        (0 ≤ limits.minImprovement → after ≤ before) := by
  refine ⟨fun duration limits maxMoves maxStops stops => ?_,
    fun duration limits maxMoves maxStops stops => ?_⟩
  · exact ⟨relocate_pure duration limits maxMoves maxStops stops,
      traces_relocations maxMoves maxStops stops,
      fun move _ => ⟨move.kept, move.legsOf_source, move.legsOf_target⟩⟩
  · refine ⟨fun move _ => change_eq_travel _ _ _, ?_⟩
    rintro origin result rfl before after
    have traced : Traces duration limits _ stops _ := traces_relocations maxMoves maxStops stops
    obtain ⟨shorter, strictly⟩ := traced.travel_le origin.toList
    refine ⟨shorter, strictly, fun nonneg => shorter.trans (sub_le_self _ ?_)⟩
    exact mul_nonneg (Nat.cast_nonneg _) nonneg

/-! Places on a slope, where the way down takes twice as long as the way up. -/

namespace Slope

def duration (a b : ℚ) : ℚ :=
  if a ≤ b then b - a else 2 * (a - b)

def limits : Limits ℚ :=
  ⟨3, 5⟩

theorem relocated_slope : relocated duration limits 10 10 [0, 100, 10, 110] =
    ⟨[0, 10, 100, 110], 1⟩ := by
  decide +kernel

end Slope

theorem relocate_shortens_slope :
    relocate (m := Option) (fun a b => pure (Slope.duration a b)) Slope.limits 10 10
        [0, 100, 10, 110] = some ⟨[0, 10, 100, 110], 1⟩ ∧
      0 < 1 ∧ 0 ≤ Slope.limits.minImprovement ∧
      travel Slope.duration (legsOf [-20, 0, 10, 100, 110]) <
        travel Slope.duration (legsOf [-20, 0, 100, 10, 110]) - (1 : Nat) * (5 : ℚ) ∧
      travel Slope.duration (legsOf [0, 10, 100, 110]) ≤
        travel Slope.duration (legsOf [0, 100, 10, 110]) := by
  obtain ⟨handed, shortened⟩ := relocate_shortens (α := ℚ)
  have answered := (handed (m := Option) Slope.duration Slope.limits 10 10 [0, 100, 10, 110]).1
  obtain ⟨-, shorter⟩ := shortened Slope.duration Slope.limits 10 10 [0, 100, 10, 110]
  have nonneg : 0 ≤ Slope.limits.minImprovement := by decide +kernel
  rw [Slope.relocated_slope] at answered
  have fromDepot := (shorter (some (-20)) _ Slope.relocated_slope).2.1 Nat.one_pos
  have alone := (shorter none _ Slope.relocated_slope).2.2 nonneg
  exact ⟨answered, Nat.one_pos, nonneg, fromDepot, alone⟩

end ServiceRoute.Relocation
