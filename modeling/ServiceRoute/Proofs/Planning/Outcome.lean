import ServiceRoute.Planning

/-!
# Outcomes of planning actions

How the outcome of a composed action comes from the outcomes of its parts. An
action is opened by these rules only, never by unfolding its monad. `Ensures`
says what every answer of an action satisfies.
-/

namespace ServiceRoute.Planning

variable {σ τ α β : Type}

theorem eq_of_outcome {act act' : Planning σ α}
    (h : ∀ world, act.outcome world = act'.outcome world) : act = act' :=
  funext h

@[simp] theorem outcome_ofOutcome (f : σ → Except PlanError α × σ) (world : σ) :
    (ofOutcome f).outcome world = f world := rfl

@[simp] theorem outcome_pure (a : α) (world : σ) :
    (pure a : Planning σ α).outcome world = (.ok a, world) := rfl

@[simp] theorem outcome_throw (e : PlanError) (world : σ) :
    (throw e : Planning σ α).outcome world = (.error e, world) := rfl

@[simp] theorem outcome_liftM (answer : Except PlanError α) (world : σ) :
    (liftM answer : Planning σ α).outcome world = (answer, world) := by
  cases answer <;> rfl

@[simp] theorem outcome_attempt (act : Planning σ α) (world : σ) :
    act.attempt.outcome world = (.ok (act.outcome world).1, (act.outcome world).2) := rfl

theorem outcome_lift (act : StateM σ α) (world : σ) :
    (liftM act : Planning σ α).outcome world = (.ok (act.run world).1, (act.run world).2) := rfl

@[simp] theorem outcome_inner (act : Planning σ α) (other : τ) (world : σ) :
    (act.inner : Planning (τ × σ) α).outcome (other, world) =
      ((act.outcome world).1, (other, (act.outcome world).2)) := rfl

@[simp] theorem outcome_outer (act : Planning τ α) (world : τ) (other : σ) :
    (act.outer : Planning (τ × σ) α).outcome (world, other) =
      ((act.outcome world).1, ((act.outcome world).2, other)) := rfl

theorem outcome_bind (act : Planning σ α) (f : α → Planning σ β) (world : σ) :
    (act >>= f).outcome world =
      match act.outcome world with
      | (.ok a, world) => (f a).outcome world
      | (.error e, world) => (.error e, world) := by
  have open_bind : (act >>= f).outcome world =
      (ExceptT.bindCont f (act.outcome world).1).run (act.outcome world).2 := rfl
  rw [open_bind]
  cases act.outcome world with
  | mk answer world' => cases answer <;> rfl

theorem outcome_bind_of_ok {act : Planning σ α} {f : α → Planning σ β} {world world' : σ} {a : α}
    (h : act.outcome world = (.ok a, world')) :
    (act >>= f).outcome world = (f a).outcome world' := by
  rw [outcome_bind, h]

theorem outcome_bind_of_error {act : Planning σ α} {f : α → Planning σ β} {world world' : σ}
    {e : PlanError} (h : act.outcome world = (.error e, world')) :
    (act >>= f).outcome world = (.error e, world') := by
  rw [outcome_bind, h]

theorem outcome_bind_eq_ok {act : Planning σ α} {f : α → Planning σ β} {world world'' : σ}
    {b : β} (h : (act >>= f).outcome world = (.ok b, world'')) :
    ∃ a world', act.outcome world = (.ok a, world') ∧ (f a).outcome world' = (.ok b, world'') := by
  rw [outcome_bind] at h
  cases first : act.outcome world with
  | mk answer world' =>
    rw [first] at h
    cases answer with
    | ok a => exact ⟨a, world', rfl, h⟩
    | error e => cases h

theorem outcome_map (f : α → β) (act : Planning σ α) (world : σ) :
    (f <$> act).outcome world = ((act.outcome world).1.map f, (act.outcome world).2) := by
  have open_map : (f <$> act).outcome world =
      (act >>= fun a => pure (f a) : Planning σ β).outcome world := by
    rw [← bind_pure_comp]
  rw [open_map, outcome_bind]
  cases act.outcome world with
  | mk answer world' => cases answer <;> rfl

theorem outcome_adapt (f : PlanError → PlanError) (act : Planning σ α) (world : σ) :
    outcome (ExceptT.adapt f act) world =
      ((act.outcome world).1.mapError f, (act.outcome world).2) := by
  unfold outcome
  rfl

/-- Every answer of the action satisfies `P`. -/
def Ensures (P : α → Prop) (act : Planning σ α) : Prop :=
  ∀ ⦃world a world'⦄, act.outcome world = (.ok a, world') → P a

theorem ensures_pure {P : α → Prop} {a : α} (h : P a) : Ensures P (pure a : Planning σ α) := by
  intro world b world' run
  cases run
  exact h

theorem Ensures.bind {Q : α → Prop} {P : β → Prop} {act : Planning σ α} {f : α → Planning σ β}
    (first : Ensures Q act) (next : ∀ a, Q a → Ensures P (f a)) : Ensures P (act >>= f) := by
  intro world b world'' run
  obtain ⟨a, world', first_run, next_run⟩ := outcome_bind_eq_ok run
  exact next a (first first_run) next_run

theorem Ensures.bind_congr {Q : α → Prop} {act : Planning σ α} {f g : α → Planning σ β}
    (first : Ensures Q act) (same : ∀ a, Q a → f a = g a) : act >>= f = act >>= g := by
  refine eq_of_outcome fun world => ?_
  rw [outcome_bind, outcome_bind]
  cases run : act.outcome world with
  | mk answer world' =>
    cases answer with
    | ok a => simp only [same a (first run)]
    | error e => rfl

theorem Ensures.of_next {P : β → Prop} {act : Planning σ α} {f : α → Planning σ β}
    (next : ∀ a, Ensures P (f a)) : Ensures P (act >>= f) :=
  Ensures.bind (Q := fun _ => True) (fun _ _ _ _ => trivial) fun a _ => next a

theorem Ensures.foldlM {ι : Type} {P : α → Prop} {f : α → ι → Planning σ α} (xs : List ι)
    (step : ∀ a, P a → ∀ x, Ensures P (f a x)) {a : α} (begun : P a) :
    Ensures P (xs.foldlM f a) := by
  induction xs generalizing a with
  | nil => exact ensures_pure begun
  | cons x xs ih =>
    rw [List.foldlM_cons]
    exact (step a begun x).bind fun b hb => ih hb

/-- Begun in a world that satisfies `I`, the action succeeds and leaves such a world. -/
def Succeeds (I : σ → Prop) (act : Planning σ α) : Prop :=
  ∀ ⦃world⦄, I world → ∃ a world', act.outcome world = (.ok a, world') ∧ I world'

theorem succeeds_pure {I : σ → Prop} (a : α) : Succeeds I (pure a : Planning σ α) :=
  fun world hI => ⟨a, world, rfl, hI⟩

theorem Succeeds.bind {I : σ → Prop} {act : Planning σ α} {f : α → Planning σ β}
    (first : Succeeds I act) (next : ∀ a, Succeeds I (f a)) : Succeeds I (act >>= f) := by
  intro world hI
  obtain ⟨a, world', run, hI'⟩ := first hI
  rw [outcome_bind_of_ok run]
  exact next a hI'

theorem Succeeds.map {I : σ → Prop} {act : Planning σ α} (f : α → β) (h : Succeeds I act) :
    Succeeds I (f <$> act) := by
  intro world hI
  obtain ⟨a, world', run, hI'⟩ := h hI
  rw [outcome_map, run]
  exact ⟨f a, world', rfl, hI'⟩

theorem Succeeds.mapM {ι : Type} {I : σ → Prop} {f : ι → Planning σ α} (xs : List ι)
    (h : ∀ x ∈ xs, Succeeds I (f x)) : Succeeds I (xs.mapM f) := by
  induction xs with
  | nil => exact succeeds_pure []
  | cons x xs ih =>
    rw [List.mapM_cons]
    refine (h x (by simp)).bind fun a => ?_
    exact (ih fun y hy => h y (by simp [hy])).bind fun as => succeeds_pure (a :: as)

end ServiceRoute.Planning
