import ServiceRoute.Dialogue
import ServiceRoute.Proofs.Planning.InStep

/-!
# Dialogues side by side

Under whatever turns dialogues are held, they ask for the same legs, and what they ask for is all
that they depend on: over answers that are in step they are in step, turns by turns. Over answers
that depend on nothing but the leg, the turns make no difference to a success.
-/

namespace ServiceRoute.Dialogue

open Planning

variable {σ τ α δ ρ ρ' : Type}

section Run

variable {m : Type → Type} [Monad m] [LawfulMonad m]

theorem run_bind (answer : α → α → m δ) (d : Dialogue α δ ρ) (f : ρ → Dialogue α δ ρ') :
    (d >>= f).run answer = d.run answer >>= fun result => (f result).run answer := by
  induction d with
  | done result => exact (pure_bind result fun r => (f r).run answer).symm
  | ask a b next ih =>
    exact (bind_congr ih).trans (bind_assoc ..).symm

theorem run_question (answer : α → α → m δ) (a b : α) :
    (question a b).run answer = answer a b :=
  bind_pure (answer a b)

end Run

/-- The dialogue asks for these legs, one after the other, whatever the answers are. -/
inductive Asks : Dialogue α δ ρ → List (α × α) → Prop
  | done (result : ρ) : Asks (.done result) []
  | ask {a b : α} {next : δ → Dialogue α δ ρ} {later : List (α × α)}
      (asks : ∀ d, Asks (next d) later) : Asks (.ask a b next) ((a, b) :: later)

/-- The dialogue asks for legs between these places only. -/
def Within (place : α → Prop) : Dialogue α δ ρ → Prop
  | done _ => True
  | ask a b next => place a ∧ place b ∧ ∀ d, (next d).Within place

theorem Asks.within {place : α → Prop} {d : Dialogue α δ ρ} {legs : List (α × α)}
    (asks : d.Asks legs) (inside : ∀ leg ∈ legs, place leg.1 ∧ place leg.2) : d.Within place := by
  induction asks with
  | done result => trivial
  | ask asks ih =>
    obtain ⟨⟨ha, hb⟩, later⟩ := List.forall_mem_cons.mp inside
    exact ⟨ha, hb, fun d => ih d later⟩

theorem within_everywhere (d : Dialogue α δ ρ) : d.Within fun _ => True := by
  induction d with
  | done result => trivial
  | ask a b next ih => exact ⟨trivial, trivial, ih⟩

section Turn

variable {answer : α → α → Planning σ δ} {held : List (Progress α δ ρ)} {position : Nat}

theorem takeTurn_of_ask {a b : α} {next : δ → Dialogue α δ ρ}
    (asks : held[position]? = some (.ok (.ask a b next))) :
    takeTurn answer held position =
      (answer a b).attempt >>= fun answered => pure (held.set position (answered.map next)) := by
  rw [takeTurn, asks]

theorem takeTurn_of_quiet (quiet : ¬∃ a b next, held[position]? = some (.ok (.ask a b next))) :
    takeTurn answer held position = pure held := by
  unfold takeTurn
  split
  · rename_i asks
    exact absurd ⟨_, _, _, asks⟩ quiet
  · rfl

end Turn

section InStep

variable {R : σ → τ → Prop} {place : α → Prop}
variable {answer : α → α → Planning σ δ} {answer' : α → α → Planning τ δ}

/-- All that is left to ask lies within these places. -/
def AllWithin (place : α → Prop) (held : List (Progress α δ ρ)) : Prop :=
  ∀ d, Except.ok d ∈ held → d.Within place

theorem run_inStep (legs : ∀ a b, place a → place b → InStep R (answer a b) (answer' a b))
    {d : Dialogue α δ ρ} (inside : d.Within place) : InStep R (d.run answer) (d.run answer') := by
  induction d with
  | done result => exact inStep_pure result
  | ask a b next ih =>
    obtain ⟨ha, hb, later⟩ := inside
    exact (legs a b ha hb).bind fun d => ih d (later d)

theorem takeTurn_ensures_within {held : List (Progress α δ ρ)} (inside : AllWithin place held)
    (position : Nat) : Ensures (AllWithin place) (takeTurn answer held position) := by
  by_cases asks : ∃ a b next, held[position]? = some (.ok (.ask a b next))
  · obtain ⟨a, b, next, asks⟩ := asks
    rw [takeTurn_of_ask asks]
    refine Ensures.of_next fun answered => ensures_pure fun d hd => ?_
    rcases List.mem_or_eq_of_mem_set hd with before | new
    · exact inside d before
    · cases answered with
      | error e => cases new
      | ok x =>
        cases new
        exact (inside _ (List.mem_of_getElem? asks)).2.2 x
  · rw [takeTurn_of_quiet asks]
    exact ensures_pure inside

theorem takeTurn_inStep
    (legs : ∀ a b, place a → place b → InStep R (answer a b) (answer' a b))
    {held : List (Progress α δ ρ)} (inside : AllWithin place held) (position : Nat) :
    InStep R (takeTurn answer held position) (takeTurn answer' held position) := by
  by_cases asks : ∃ a b next, held[position]? = some (.ok (.ask a b next))
  · obtain ⟨a, b, next, asks⟩ := asks
    obtain ⟨ha, hb, -⟩ := inside _ (List.mem_of_getElem? asks)
    rw [takeTurn_of_ask asks, takeTurn_of_ask asks]
    exact (legs a b ha hb).attempt.bind fun answered => inStep_pure _
  · rw [takeTurn_of_quiet asks, takeTurn_of_quiet asks]
    exact inStep_pure held

theorem conclude_inStep
    (legs : ∀ a b, place a → place b → InStep R (answer a b) (answer' a b))
    {held : List (Progress α δ ρ)} (inside : AllWithin place held) (reported : Nat) :
    InStep R (conclude answer reported held) (conclude answer' reported held) := by
  unfold conclude
  dsimp only
  split
  · exact inStep_throw _
  · refine InStep.mapM held fun progress among => ?_
    cases progress with
    | error e => exact inStep_throw e
    | ok d => exact run_inStep legs (inside d among)

/-- Dialogues over legs that are in step are in step, under the same turns. -/
theorem sideBySide_inStep
    (legs : ∀ a b, place a → place b → InStep R (answer a b) (answer' a b)) (turns : Turns)
    {dialogues : List (Dialogue α δ ρ)} (inside : ∀ d ∈ dialogues, d.Within place) :
    InStep R (sideBySide answer turns dialogues) (sideBySide answer' turns dialogues) := by
  have begun : AllWithin place (dialogues.map Except.ok) := by
    intro d hd
    obtain ⟨_, among, same⟩ := List.mem_map.mp hd
    cases same
    exact inside d among
  have kept : ∀ held : List (Progress α δ ρ), AllWithin place held → ∀ position,
      Ensures (AllWithin place) (takeTurn answer held position) :=
    fun _ => takeTurn_ensures_within
  unfold sideBySide
  refine (InStep.foldlM _ kept (fun held h => takeTurn_inStep legs h) begun).bind_ensures
    (Ensures.foldlM _ kept begun) fun held h => ?_
  exact conclude_inStep legs h turns.reported

end InStep

section Succeeds

variable {answer : α → α → Planning σ δ} {I : σ → Prop}

theorem run_succeeds (answered : ∀ a b, Succeeds I (answer a b)) (d : Dialogue α δ ρ) :
    Succeeds I (d.run answer) := by
  induction d with
  | done result => exact succeeds_pure result
  | ask a b next ih => exact (answered a b).bind ih

/-- A turn of dialogues none of which has failed lets none of them fail. -/
theorem takeTurn_succeeds (answered : ∀ a b, Succeeds I (answer a b))
    (dialogues : List (Dialogue α δ ρ)) (position : Nat) {world : σ} (hI : I world) :
    ∃ (dialogues' : List (Dialogue α δ ρ)) (world' : σ),
      (takeTurn answer (dialogues.map .ok) position).outcome world =
        (.ok (dialogues'.map .ok), world') ∧ I world' := by
  by_cases asks : ∃ a b next,
      (dialogues.map .ok : List (Progress α δ ρ))[position]? = some (.ok (.ask a b next))
  · obtain ⟨a, b, next, asks⟩ := asks
    obtain ⟨x, world', run, hI'⟩ := answered a b hI
    refine ⟨dialogues.set position (next x), world', ?_, hI'⟩
    rw [takeTurn_of_ask asks, outcome_bind, outcome_attempt, run, List.map_set]
    rfl
  · refine ⟨dialogues, world, ?_, hI⟩
    rw [takeTurn_of_quiet asks]
    rfl

theorem foldlM_takeTurn_succeeds (answered : ∀ a b, Succeeds I (answer a b)) (order : List Nat)
    (dialogues : List (Dialogue α δ ρ)) {world : σ} (hI : I world) :
    ∃ (dialogues' : List (Dialogue α δ ρ)) (world' : σ),
      (order.foldlM (takeTurn answer) (dialogues.map .ok)).outcome world =
        (.ok (dialogues'.map .ok), world') ∧ I world' := by
  induction order generalizing dialogues world with
  | nil => exact ⟨dialogues, world, rfl, hI⟩
  | cons position order ih =>
    obtain ⟨dialogues₁, world₁, turn, hI₁⟩ := takeTurn_succeeds answered dialogues position hI
    obtain ⟨dialogues₂, world₂, later, hI₂⟩ := ih dialogues₁ hI₁
    refine ⟨dialogues₂, world₂, ?_, hI₂⟩
    rw [List.foldlM_cons, outcome_bind_of_ok turn, later]

theorem conclude_map_ok (answer : α → α → Planning σ δ) (reported : Nat)
    (dialogues : List (Dialogue α δ ρ)) :
    conclude answer reported (dialogues.map .ok) = dialogues.mapM (run answer) := by
  have unfailed : (dialogues.map Except.ok).filterMap
      (Progress.failure? : Progress α δ ρ → Option PlanError) = [] := by
    rw [List.filterMap_map]
    exact List.filterMap_eq_nil_iff.mpr fun _ _ => rfl
  rw [conclude, unfailed]
  exact List.mapM_map ..

theorem sideBySide_succeeds (answered : ∀ a b, Succeeds I (answer a b)) (turns : Turns)
    (dialogues : List (Dialogue α δ ρ)) : Succeeds I (sideBySide answer turns dialogues) := by
  intro world hI
  obtain ⟨dialogues', world', held, hI'⟩ :=
    foldlM_takeTurn_succeeds answered turns.order dialogues hI
  rw [sideBySide, outcome_bind_of_ok held, conclude_map_ok]
  exact Succeeds.mapM _ (fun d _ => run_succeeds answered d) hI'

/-- In order, one dialogue is held after the other. -/
theorem sideBySide_inOrder (answer : α → α → Planning σ δ) (dialogues : List (Dialogue α δ ρ)) :
    sideBySide answer .inOrder dialogues = dialogues.mapM (run answer) := by
  show pure (dialogues.map Except.ok) >>= conclude answer 0 = _
  rw [pure_bind, conclude_map_ok]

end Succeeds

section Pure

variable {answer : α → α → Planning σ δ} {price : α → α → Except PlanError δ}

/-- What a dialogue comes to if nothing but the legs decides the answers. -/
def Progress.outlook (price : α → α → Except PlanError δ) (progress : Progress α δ ρ) :
    Except PlanError ρ :=
  progress >>= run price

theorem outcome_run_of_pure
    (pureLegs : ∀ a b world, (answer a b).outcome world = (price a b, world)) (d : Dialogue α δ ρ)
    (world : σ) : (d.run answer).outcome world = (d.run price, world) := by
  induction d with
  | done result => rfl
  | ask a b next ih =>
    show (answer a b >>= fun d => (next d).run answer).outcome world =
      (price a b >>= fun d => (next d).run price, world)
    rw [outcome_bind, pureLegs]
    cases price a b with
    | ok x => exact ih x
    | error e => rfl

theorem outlook_map (answered : Except PlanError δ) (next : δ → Dialogue α δ ρ) :
    Progress.outlook price (answered.map next) = answered >>= fun x => (next x).run price := by
  cases answered <;> rfl

/-- A turn changes what is left of a dialogue, but not what it comes to. -/
theorem outcome_takeTurn_of_pure
    (pureLegs : ∀ a b world, (answer a b).outcome world = (price a b, world))
    (held : List (Progress α δ ρ)) (position : Nat) (world : σ) :
    ∃ held', (takeTurn answer held position).outcome world = (.ok held', world) ∧
      held'.map (Progress.outlook price) = held.map (Progress.outlook price) := by
  by_cases asks : ∃ a b next, held[position]? = some (.ok (.ask a b next))
  · obtain ⟨a, b, next, asks⟩ := asks
    refine ⟨held.set position ((price a b).map next), ?_, ?_⟩
    · rw [takeTurn_of_ask asks, outcome_bind, outcome_attempt, pureLegs]
      rfl
    · have before : (held.map (Progress.outlook price))[position]? =
          some (Progress.outlook price ((price a b).map next)) := by
        rw [List.getElem?_map, asks, outlook_map]
        rfl
      obtain ⟨inside, same⟩ := List.getElem?_eq_some_iff.mp before
      rw [List.map_set, ← same, List.set_getElem_self]
  · refine ⟨held, ?_, rfl⟩
    rw [takeTurn_of_quiet asks]
    rfl

theorem outcome_foldlM_takeTurn_of_pure
    (pureLegs : ∀ a b world, (answer a b).outcome world = (price a b, world)) (order : List Nat)
    (held : List (Progress α δ ρ)) (world : σ) :
    ∃ held', (order.foldlM (takeTurn answer) held).outcome world = (.ok held', world) ∧
      held'.map (Progress.outlook price) = held.map (Progress.outlook price) := by
  induction order generalizing held with
  | nil => exact ⟨held, rfl, rfl⟩
  | cons position order ih =>
    obtain ⟨held₁, turn, same₁⟩ := outcome_takeTurn_of_pure pureLegs held position world
    obtain ⟨held₂, later, same₂⟩ := ih held₁
    refine ⟨held₂, ?_, same₂.trans same₁⟩
    rw [List.foldlM_cons, outcome_bind_of_ok turn, later]

theorem outcome_finish_of_pure
    (pureLegs : ∀ a b world, (answer a b).outcome world = (price a b, world))
    (progress : Progress α δ ρ) (world : σ) :
    (progress.finish answer).outcome world = (progress.outlook price, world) := by
  cases progress with
  | error e => rfl
  | ok d => exact outcome_run_of_pure pureLegs d world

theorem outcome_mapM_eq_ok_iff {ι : Type} {f : ι → Planning σ ρ} {g : ι → Except PlanError ρ}
    (alone : ∀ x world, (f x).outcome world = (g x, world)) {xs : List ι} {results : List ρ}
    {world world' : σ} : (xs.mapM f).outcome world = (.ok results, world') ↔
      xs.map g = results.map .ok ∧ world = world' := by
  induction xs generalizing results with
  | nil => cases results <;> simp
  | cons x xs ih =>
    rw [List.mapM_cons, outcome_bind, alone, List.map_cons]
    cases g x with
    | error e => cases results <;> simp
    | ok first =>
      dsimp only
      constructor
      · intro run
        obtain ⟨later, between, made, done⟩ := outcome_bind_eq_ok run
        cases done
        obtain ⟨same, rfl⟩ := ih.mp made
        exact ⟨by rw [same, List.map_cons], rfl⟩
      · rintro ⟨same, rfl⟩
        cases results with
        | nil => cases same
        | cons result results =>
          obtain ⟨head, tail⟩ := List.cons.inj same
          rw [outcome_bind_of_ok (ih.mpr ⟨tail, rfl⟩), Except.ok.inj head]
          rfl

/-- A success is what every dialogue comes to, whoever had the last turn. -/
theorem outcome_conclude_eq_ok_iff
    (pureLegs : ∀ a b world, (answer a b).outcome world = (price a b, world))
    {held : List (Progress α δ ρ)} {reported : Nat} {results : List ρ} {world world' : σ} :
    (conclude answer reported held).outcome world = (.ok results, world') ↔
      held.map (Progress.outlook price) = results.map .ok ∧ world = world' := by
  unfold conclude
  dsimp only
  split
  · rename_i e reports
    obtain ⟨progress, among, fails⟩ := List.mem_filterMap.mp (List.mem_of_getElem? reports)
    refine ⟨fun run => ?_, fun ⟨same, _⟩ => ?_⟩
    · cases run
    have failed := List.mem_map_of_mem (f := Progress.outlook price) among
    rw [same] at failed
    obtain ⟨result, -, succeeds⟩ := List.mem_map.mp failed
    cases progress with
    | error e' => cases succeeds
    | ok d => cases fails
  · exact outcome_mapM_eq_ok_iff (outcome_finish_of_pure pureLegs)

/-- If nothing but the legs decides the answers, dialogues succeed under all turns alike. -/
theorem sideBySide_succeedAlike
    (pureLegs : ∀ a b world, (answer a b).outcome world = (price a b, world))
    (turns turns' : Turns) (dialogues : List (Dialogue α δ ρ)) :
    SucceedAlike (sideBySide answer turns dialogues) (sideBySide answer turns' dialogues) := by
  have settled : ∀ (turns : Turns) (world : σ) (results : List ρ) (world' : σ),
      (sideBySide answer turns dialogues).outcome world = (.ok results, world') ↔
        (dialogues.map .ok).map (Progress.outlook price) = results.map .ok ∧ world = world' := by
    intro turns world results world'
    obtain ⟨held, run, same⟩ :=
      outcome_foldlM_takeTurn_of_pure pureLegs turns.order (dialogues.map .ok) world
    rw [sideBySide, outcome_bind_of_ok run, outcome_conclude_eq_ok_iff pureLegs, same]
  intro world results world'
  rw [settled, settled]

-- Failures are another matter: of two questions that fail, the one whose turn came is reported.
example :
    let answer (a _ : Nat) : Planning Unit Nat := throw (.insufficientCandidates a)
    let dialogues := [question 0 1, question 1 0]
    ((sideBySide answer ⟨[0], 0⟩ dialogues).outcome ()).1 = .error (.insufficientCandidates 0) ∧
      ((sideBySide answer ⟨[1], 0⟩ dialogues).outcome ()).1 =
        .error (.insufficientCandidates 1) :=
  ⟨rfl, rfl⟩

end Pure

end ServiceRoute.Dialogue
