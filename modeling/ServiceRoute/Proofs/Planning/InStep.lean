import ServiceRoute.Proofs.Planning.Outcome

/-!
# Actions in step

Two actions in different worlds are in step under a relation between the worlds
when they give the same answer and keep the worlds related. Sequences and
traversals of actions in step are in step. An action that is in step with itself
under a restricted equality keeps the restriction: that is how invariants of a
single world are proved. Where the answers themselves differ, actions can be in
step up to a relation between the answers.
-/

namespace ServiceRoute.Planning

variable {σ τ υ ω α β γ : Type} {R : σ → τ → Prop}

/-- Begun in related worlds, the actions give the same answer and leave related worlds. -/
def InStep (R : σ → τ → Prop) (act : Planning σ α) (act' : Planning τ α) : Prop :=
  ∀ ⦃world world'⦄, R world world' →
    (act.outcome world).1 = (act'.outcome world').1 ∧
      R (act.outcome world).2 (act'.outcome world').2

theorem inStep_refl (act : Planning σ α) : InStep Eq act act := by
  rintro world world' rfl
  exact ⟨rfl, rfl⟩

theorem inStep_pure (a : α) : InStep R (pure a) (pure a) := by
  intro world world' h
  exact ⟨rfl, h⟩

theorem inStep_throw (e : PlanError) :
    InStep R (throw e : Planning σ α) (throw e : Planning τ α) := by
  intro world world' h
  exact ⟨rfl, h⟩

theorem inStep_liftM (answer : Except PlanError α) :
    InStep R (liftM answer : Planning σ α) (liftM answer : Planning τ α) := by
  intro world world' h
  rw [outcome_liftM, outcome_liftM]
  exact ⟨rfl, h⟩

/-- The continuations have to be in step only for answers that the first action may give. -/
theorem InStep.bind_ensures {P : α → Prop} {act : Planning σ α} {act' : Planning τ α}
    {f : α → Planning σ β} {g : α → Planning τ β} (first : InStep R act act')
    (answers : Ensures P act) (next : ∀ a, P a → InStep R (f a) (g a)) :
    InStep R (act >>= f) (act' >>= g) := by
  intro world world' h
  obtain ⟨same, related⟩ := first h
  rw [outcome_bind, outcome_bind]
  cases hact : act.outcome world with
  | mk answer left =>
    cases hact' : act'.outcome world' with
    | mk answer' right =>
      rw [hact, hact'] at same related
      obtain rfl : answer = answer' := same
      cases answer with
      | ok a => exact next a (answers hact) related
      | error e => exact ⟨rfl, related⟩

theorem InStep.bind {act : Planning σ α} {act' : Planning τ α} {f : α → Planning σ β}
    {g : α → Planning τ β} (first : InStep R act act') (next : ∀ a, InStep R (f a) (g a)) :
    InStep R (act >>= f) (act' >>= g) :=
  first.bind_ensures (P := fun _ => True) (fun _ _ _ _ => trivial) fun a _ => next a

theorem InStep.map {act : Planning σ α} {act' : Planning τ α} (f : α → β)
    (h : InStep R act act') : InStep R (f <$> act) (f <$> act') := by
  intro world world' related
  obtain ⟨same, left⟩ := h related
  rw [outcome_map, outcome_map]
  exact ⟨congrArg (Except.map f) same, left⟩

theorem InStep.adapt {act : Planning σ α} {act' : Planning τ α} (f : PlanError → PlanError)
    (h : InStep R act act') : InStep R (ExceptT.adapt f act) (ExceptT.adapt f act') := by
  intro world world' related
  obtain ⟨same, left⟩ := h related
  rw [outcome_adapt, outcome_adapt]
  exact ⟨congrArg (Except.mapError f) same, left⟩

theorem InStep.mapM {ι : Type} {f : ι → Planning σ α} {g : ι → Planning τ α} (xs : List ι)
    (h : ∀ x ∈ xs, InStep R (f x) (g x)) : InStep R (xs.mapM f) (xs.mapM g) := by
  induction xs with
  | nil => exact inStep_pure []
  | cons x xs ih =>
    rw [List.mapM_cons, List.mapM_cons]
    refine (h x (by simp)).bind fun a => ?_
    exact (ih fun y hy => h y (by simp [hy])).bind fun as => inStep_pure (a :: as)

theorem InStep.attempt {act : Planning σ α} {act' : Planning τ α} (h : InStep R act act') :
    InStep R act.attempt act'.attempt := by
  intro world world' related
  obtain ⟨same, left⟩ := h related
  exact ⟨congrArg Except.ok same, left⟩

theorem InStep.foldlM {ι : Type} {P : α → Prop} {f : α → ι → Planning σ α}
    {g : α → ι → Planning τ α} (xs : List ι) (kept : ∀ a, P a → ∀ x, Ensures P (f a x))
    (step : ∀ a, P a → ∀ x, InStep R (f a x) (g a x)) {a : α} (begun : P a) :
    InStep R (xs.foldlM f a) (xs.foldlM g a) := by
  induction xs generalizing a with
  | nil => exact inStep_pure a
  | cons x xs ih =>
    rw [List.foldlM_cons, List.foldlM_cons]
    exact (step a begun x).bind_ensures (kept a begun x) fun b hb => ih hb

theorem InStep.inner {S : υ → ω → Prop} {act : Planning σ α} {act' : Planning τ α}
    (h : InStep R act act') :
    InStep (fun p q => S p.1 q.1 ∧ R p.2 q.2) (act.inner : Planning (υ × σ) α)
      (act'.inner : Planning (ω × τ) α) := by
  rintro ⟨other, world⟩ ⟨other', world'⟩ ⟨others, related⟩
  obtain ⟨same, left⟩ := h related
  exact ⟨same, others, left⟩

theorem InStep.inner_left {C : υ → Prop} {act : Planning σ α} {act' : Planning τ α}
    (h : InStep R act act') :
    InStep (fun p world' => C p.1 ∧ R p.2 world') (act.inner : Planning (υ × σ) α) act' := by
  rintro ⟨other, world⟩ world' ⟨untouched, related⟩
  obtain ⟨same, left⟩ := h related
  exact ⟨same, untouched, left⟩

/-- Both succeed, with related answers, or both fail for the same reason. -/
inductive AnswerAlike (Q : α → β → Prop) : Except PlanError α → Except PlanError β → Prop
  | ok {a : α} {b : β} (related : Q a b) : AnswerAlike Q (.ok a) (.ok b)
  | error (e : PlanError) : AnswerAlike Q (.error e) (.error e)

theorem AnswerAlike.bind_eq {Q : α → β → Prop} {act : Planning σ α} {act' : Planning τ β}
    {f : α → Planning σ γ} {g : β → Planning τ γ} {world : σ} {world' : τ}
    (first : AnswerAlike Q (act.outcome world).1 (act'.outcome world').1)
    (next : ∀ a b left left', act.outcome world = (.ok a, left) →
      act'.outcome world' = (.ok b, left') → Q a b →
      ((f a).outcome left).1 = ((g b).outcome left').1) :
    ((act >>= f).outcome world).1 = ((act' >>= g).outcome world').1 := by
  rw [outcome_bind, outcome_bind]
  cases hact : act.outcome world with
  | mk answer left =>
    cases hact' : act'.outcome world' with
    | mk answer' left' =>
      rw [hact, hact'] at first
      cases first with
      | ok related => exact next _ _ _ _ hact hact' related
      | error e => rfl

/-- Begun in related worlds, the actions answer alike and leave related worlds. -/
def InStepUpTo (Q : α → β → Prop) (R : σ → τ → Prop) (act : Planning σ α)
    (act' : Planning τ β) : Prop :=
  ∀ ⦃world world'⦄, R world world' →
    AnswerAlike Q (act.outcome world).1 (act'.outcome world').1 ∧
      R (act.outcome world).2 (act'.outcome world').2

theorem inStepUpTo_pure {Q : α → β → Prop} {a : α} {b : β} (related : Q a b) :
    InStepUpTo Q R (pure a) (pure b) := by
  intro world world' h
  exact ⟨.ok related, h⟩

/-- What follows does not tell related answers apart. -/
theorem InStepUpTo.bind {Q : α → β → Prop} {act : Planning σ α} {act' : Planning τ β}
    {f : α → Planning σ γ} {g : β → Planning τ γ} (first : InStepUpTo Q R act act')
    (next : ∀ a b, Q a b → InStep R (f a) (g b)) : InStep R (act >>= f) (act' >>= g) := by
  intro world world' h
  obtain ⟨alike, related⟩ := first h
  rw [outcome_bind, outcome_bind]
  cases hact : act.outcome world with
  | mk answer left =>
    cases hact' : act'.outcome world' with
    | mk answer' right =>
      rw [hact, hact'] at alike related
      cases alike with
      | ok hQ => exact next _ _ hQ related
      | error e => exact ⟨rfl, related⟩

/-- The actions succeed in the same worlds, with the same answer and the same world behind it.
Their failures may differ. -/
def SucceedAlike (act act' : Planning σ α) : Prop :=
  ∀ world a world', act.outcome world = (.ok a, world') ↔ act'.outcome world = (.ok a, world')

theorem succeedAlike_refl (act : Planning σ α) : SucceedAlike act act :=
  fun _ _ _ => Iff.rfl

theorem SucceedAlike.symm {act act' : Planning σ α} (h : SucceedAlike act act') :
    SucceedAlike act' act :=
  fun world a world' => (h world a world').symm

theorem SucceedAlike.trans {act act' act'' : Planning σ α} (h : SucceedAlike act act')
    (h' : SucceedAlike act' act'') : SucceedAlike act act'' :=
  fun world a world' => (h world a world').trans (h' world a world')

theorem InStep.succeedAlike {act act' : Planning σ α} (h : InStep Eq act act') :
    SucceedAlike act act' := by
  intro world a world'
  obtain ⟨same, left⟩ := h (rfl : world = world)
  rw [Prod.ext same left]

theorem SucceedAlike.of_never {act act' : Planning σ α} (h : Ensures (fun _ => False) act)
    (h' : Ensures (fun _ => False) act') : SucceedAlike act act' :=
  fun _ _ _ => ⟨fun run => (h run).elim, fun run => (h' run).elim⟩

theorem SucceedAlike.bind {act act' : Planning σ α} {f f' : α → Planning σ β}
    (first : SucceedAlike act act') (next : ∀ a, SucceedAlike (f a) (f' a)) :
    SucceedAlike (act >>= f) (act' >>= f') := by
  intro world b world''
  constructor
  · intro run
    obtain ⟨a, world', hact, hf⟩ := outcome_bind_eq_ok run
    rw [outcome_bind_of_ok ((first _ _ _).mp hact)]
    exact (next a _ _ _).mp hf
  · intro run
    obtain ⟨a, world', hact, hf⟩ := outcome_bind_eq_ok run
    rw [outcome_bind_of_ok ((first _ _ _).mpr hact)]
    exact (next a _ _ _).mpr hf

/-- The action keeps a property of its world, whether it succeeds or fails. -/
def Keeps (I : σ → Prop) (act : Planning σ α) : Prop :=
  ∀ ⦃world⦄, I world → I (act.outcome world).2

theorem Keeps.left {I : σ → Prop} {act : Planning σ α} (h : Keeps I act) {world world' : σ}
    {answer : Except PlanError α} (hI : I world) (run : act.outcome world = (answer, world')) :
    I world' := by
  have kept := h hI
  rwa [run] at kept

theorem keeps_iff_inStep {I : σ → Prop} {act : Planning σ α} :
    Keeps I act ↔ InStep (fun world world' => world = world' ∧ I world) act act := by
  constructor
  · rintro h world world' ⟨rfl, hI⟩
    exact ⟨rfl, rfl, h hI⟩
  · intro h world hI
    exact (h ⟨rfl, hI⟩).2.2

theorem Keeps.map {I : σ → Prop} {act : Planning σ α} (h : Keeps I act) (f : α → β) :
    Keeps I (f <$> act) :=
  keeps_iff_inStep.mpr ((keeps_iff_inStep.mp h).map f)

end ServiceRoute.Planning
