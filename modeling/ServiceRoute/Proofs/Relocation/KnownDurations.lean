import ServiceRoute.Proofs.Relocation.Permutation

/-!
# Relocation with known durations

When every leg has a known duration, nothing can fail and nothing is remembered: the pass
is a function of the route. Whatever the monad in which the durations are handed over, the
answer is the same.
-/

namespace ServiceRoute.Relocation

variable {α δ : Type}

section Change

variable [Add δ] [Sub δ] (duration : α → α → δ)

/-- What moving the candidate adds to the duration of the route. -/
def change (anchor next : α) (c : Candidate α) : δ :=
  Id.run (delta (fun a b => pure (duration a b)) anchor next c)

theorem change_eq (anchor next : α) (c : Candidate α) :
    change duration anchor next c =
      match c.behind with
      | [] => duration anchor c.stop + duration c.stop next -
          (duration anchor next + duration (c.predecessor next) c.stop)
      | following :: _ =>
        duration anchor c.stop + duration c.stop next + duration (c.predecessor next) following -
          (duration anchor next + duration (c.predecessor next) c.stop +
            duration c.stop following) := by
  unfold change delta
  cases c.behind <;> rfl

theorem delta_pure {m : Type → Type} [Monad m] [LawfulMonad m] (anchor next : α)
    (c : Candidate α) : delta (m := m) (fun a b => pure (duration a b)) anchor next c =
      pure (change duration anchor next c) := by
  rw [change_eq]
  unfold delta
  cases c.behind <;> simp only [pure_bind]

end Change

variable [Add δ] [Sub δ] [Neg δ] [LE δ] [LT δ] [DecidableLE δ] [DecidableLT δ]
variable (duration : α → α → δ) (limits : Limits δ)

def chosen (anchor next : α) (rest : List α) : Option (Candidate α) :=
  Id.run (choose (fun a b => pure (duration a b)) limits anchor next rest)

def passed (anchors budget : Nat) (stops : List α) : Relocated α :=
  Id.run (pass (fun a b => pure (duration a b)) limits anchors budget stops)

def relocated (maxMoves maxStops : Nat) (stops : List α) : Relocated α :=
  Id.run (relocate (fun a b => pure (duration a b)) limits maxMoves maxStops stops)

/-- The candidates of the window with their changes. -/
def priced (anchor next : α) (rest : List α) : List (Candidate α × δ) :=
  (candidates (limits.lookahead - 1) rest).map fun c => (c, change duration anchor next c)

section Pure

variable {m : Type → Type} [Monad m] [LawfulMonad m]

theorem choose_pure_eq (anchor next : α) (rest : List α) :
    choose (m := m) (fun a b => pure (duration a b)) limits anchor next rest =
      pure (pick limits (priced duration limits anchor next rest)) := by
  have known : delta (m := m) (fun a b => pure (duration a b)) anchor next =
      fun c => pure (change duration anchor next c) :=
    funext (delta_pure duration anchor next)
  unfold choose
  dsimp only
  rw [known, List.mapM_pure, pure_bind, priced, List.map_prod_left_eq_zip]

theorem chosen_eq (anchor next : α) (rest : List α) :
    chosen duration limits anchor next rest =
      pick limits (priced duration limits anchor next rest) :=
  choose_pure_eq (m := Id) duration limits anchor next rest

theorem choose_pure (anchor next : α) (rest : List α) :
    choose (m := m) (fun a b => pure (duration a b)) limits anchor next rest =
      pure (chosen duration limits anchor next rest) := by
  rw [choose_pure_eq, chosen_eq]

theorem passed_cons (anchors budget : Nat) (anchor next : α) (rest : List α) :
    passed duration limits (anchors + 1) (budget + 1) (anchor :: next :: rest) =
      match chosen duration limits anchor next rest with
      | some c =>
        let later := passed duration limits anchors budget (c.moved next)
        ⟨anchor :: later.stops, later.moves + 1⟩
      | none =>
        let later := passed duration limits anchors (budget + 1) (next :: rest)
        ⟨anchor :: later.stops, later.moves⟩ := by
  rw [passed, pass_cons, choose_pure, pure_bind]
  cases chosen duration limits anchor next rest <;> rfl

theorem pass_pure (anchors budget : Nat) (stops : List α) :
    pass (m := m) (fun a b => pure (duration a b)) limits anchors budget stops =
      pure (passed duration limits anchors budget stops) := by
  induction anchors generalizing budget stops with
  | zero => rfl
  | succ anchors ih =>
    match budget, stops with
    | 0, stops => rfl
    | budget + 1, [] => rfl
    | budget + 1, [anchor] => rfl
    | budget + 1, anchor :: next :: rest =>
      rw [pass_cons, choose_pure, pure_bind, passed_cons]
      cases chosen duration limits anchor next rest with
      | some c => simp only [ih, pure_bind]
      | none => simp only [ih, pure_bind]

/-- Relocation with known durations gives one answer, in whatever monad. -/
theorem relocate_pure (maxMoves maxStops : Nat) (stops : List α) :
    relocate (m := m) (fun a b => pure (duration a b)) limits maxMoves maxStops stops =
      pure (relocated duration limits maxMoves maxStops stops) := by
  rw [relocated, relocate_eq, relocate_eq]
  split_ifs
  · rfl
  · exact pass_pure duration limits _ _ _

/-- With known durations, relocation gives the same answer under every schedule. -/
theorem outcome_relocateUnder_pure {σ : Type} (schedule : Schedule) (maxMoves maxStops : Nat)
    (stops : List α) (world : σ) :
    (relocateUnder schedule (fun a b => pure (duration a b)) limits maxMoves maxStops
      stops).outcome world = (.ok (relocated duration limits maxMoves maxStops stops), world) := by
  let known (a b : α) : Planning σ δ := pure (duration a b)
  have pureLegs : ∀ a b world, (known a b).outcome world = (.ok (duration a b), world) :=
    fun _ _ _ => rfl
  have alike := relocateUnder_succeedAlike pureLegs schedule (fun _ => .inOrder) limits maxMoves
    maxStops stops
  rw [relocateUnder_inOrder, relocate_pure] at alike
  exact (alike world _ world).mpr rfl

end Pure

variable {duration limits}

theorem chosen_eq_some {anchor next : α} {rest : List α} {c : Candidate α}
    (h : chosen duration limits anchor next rest = some c) :
    c ∈ candidates (limits.lookahead - 1) rest ∧
      change duration anchor next c < -limits.minImprovement := by
  rw [chosen_eq] at h
  obtain ⟨saving, among, saves⟩ := mem_of_pick h
  obtain ⟨_, window, same⟩ := List.mem_map.mp among
  cases same
  exact ⟨window, saves⟩

end ServiceRoute.Relocation
