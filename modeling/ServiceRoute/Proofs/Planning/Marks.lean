import ServiceRoute.Proofs.Planning.SideBySide

/-!
# Marks of questions

A question that is answered leaves a mark in the world, and no question removes one. Dialogues that
are held side by side, all of them to their end, leave the marks of all their questions, under
whatever turns.
-/

namespace ServiceRoute.Planning

open Dialogue

variable {σ α δ ρ : Type} {Q : α → α → σ → Prop} {world world' : σ}

/-- Every mark of the first world is there in the second one. -/
def Grows (Q : α → α → σ → Prop) (world world' : σ) : Prop :=
  ∀ ⦃a b⦄, Q a b world → Q a b world'

/-- A question that is answered leaves a mark `Q`, and no question removes one. -/
structure Marks (answer : α → α → Planning σ δ) (Q : α → α → σ → Prop) : Prop where
  left : ∀ ⦃a b world d world'⦄, (answer a b).outcome world = (.ok d, world') → Q a b world'
  stays : ∀ a b x y, Keeps (Q x y) (answer a b)

/-- What is left of a dialogue asks for those of the legs that have no mark. -/
def Owes (Q : α → α → σ → Prop) (legs : List (α × α)) (progress : Progress α δ ρ) (world : σ) :
    Prop :=
  ∀ d, progress = .ok d → ∃ later, d.Asks later ∧ ∀ leg ∈ legs, leg ∈ later ∨ Q leg.1 leg.2 world

theorem Owes.mono {legs : List (α × α)} {progress : Progress α δ ρ}
    (h : Owes Q legs progress world) (grows : Grows Q world world') :
    Owes Q legs progress world' := by
  intro d going
  obtain ⟨later, asks, owed⟩ := h d going
  exact ⟨later, asks, fun leg among => (owed leg among).imp_right fun mark => grows mark⟩

theorem owes_of_asks {d : Dialogue α δ ρ} {legs : List (α × α)} (asks : d.Asks legs) :
    Owes Q legs (.ok d) world := by
  rintro _ ⟨⟩
  exact ⟨legs, asks, fun leg among => .inl among⟩

namespace Marks

variable {answer : α → α → Planning σ δ} {legs : List (α × α)}

theorem grows (h : Marks answer Q) {a b : α} {answered : Except PlanError δ}
    (run : (answer a b).outcome world = (answered, world')) : Grows Q world world' :=
  fun x y mark => (h.stays a b x y).left mark run

theorem inStep (h : Marks answer Q) (x y a b : α) (_ : True) (_ : True) :
    InStep (fun p q => p = q ∧ Q x y p) (answer a b) (answer a b) :=
  keeps_iff_inStep.mp (h.stays a b x y)

theorem run_stays (h : Marks answer Q) (d : Dialogue α δ ρ) (x y : α) :
    Keeps (Q x y) (d.run answer) :=
  keeps_iff_inStep.mpr (run_inStep (h.inStep x y) d.within_everywhere)

theorem run_marked (h : Marks answer Q) {d : Dialogue α δ ρ} (asks : d.Asks legs) {result : ρ}
    (run : (d.run answer).outcome world = (.ok result, world')) :
    ∀ leg ∈ legs, Q leg.1 leg.2 world' := by
  induction asks generalizing world with
  | done result => simp
  | @ask a b next later asks ih =>
    obtain ⟨x, between, answered, rest⟩ := outcome_bind_eq_ok run
    exact List.forall_mem_cons.mpr
      ⟨(h.run_stays (next x) a b).left (h.left answered) rest, ih x rest⟩

theorem finish_marked (h : Marks answer Q) {progress : Progress α δ ρ}
    (owes : Owes Q legs progress world) {result : ρ}
    (run : (progress.finish answer).outcome world = (.ok result, world')) :
    ∀ leg ∈ legs, Q leg.1 leg.2 world' := by
  cases progress with
  | error e => cases run
  | ok d =>
    obtain ⟨later, asks, owed⟩ := owes d rfl
    intro leg among
    rcases owed leg among with left | marked
    · exact h.run_marked asks run leg left
    · exact (h.run_stays d leg.1 leg.2).left marked run

/-- The answer to its question takes one leg off what a dialogue owes. -/
theorem owes_answered (h : Marks answer Q) {a b : α} {next : δ → Dialogue α δ ρ}
    (owes : Owes Q legs (.ok (.ask a b next)) world) {answered : Except PlanError δ}
    (run : (answer a b).outcome world = (answered, world')) :
    Owes Q legs (answered.map next) world' := by
  intro d going
  cases answered with
  | error e => cases going
  | ok x =>
    cases going
    obtain ⟨later, asks, owed⟩ := owes _ rfl
    cases asks with
    | ask asks =>
      refine ⟨_, asks x, fun leg among => ?_⟩
      rcases owed leg among with left | marked
      · rcases List.mem_cons.mp left with rfl | left
        · exact .inr (h.left run)
        · exact .inl left
      · exact .inr (h.grows run marked)

theorem takeTurn_owes (h : Marks answer Q) {held held' : List (Progress α δ ρ)} {position k : Nat}
    {progress : Progress α δ ρ} (there : held[k]? = some progress)
    (owes : Owes Q legs progress world)
    (run : (takeTurn answer held position).outcome world = (.ok held', world')) :
    ∃ progress', held'[k]? = some progress' ∧ Owes Q legs progress' world' := by
  by_cases asks : ∃ a b next, held[position]? = some (.ok (.ask a b next))
  · obtain ⟨a, b, next, asks⟩ := asks
    rw [takeTurn_of_ask asks, outcome_bind_of_ok (outcome_attempt (answer a b) world)] at run
    cases run
    by_cases mine : position = k
    · subst mine
      obtain ⟨inside, -⟩ := List.getElem?_eq_some_iff.mp asks
      obtain rfl := Option.some.inj (there.symm.trans asks)
      exact ⟨_, List.getElem?_set_self inside, h.owes_answered owes rfl⟩
    · exact ⟨progress, (List.getElem?_set_ne mine).trans there, owes.mono (h.grows rfl)⟩
  · rw [takeTurn_of_quiet asks] at run
    cases run
    exact ⟨progress, there, owes⟩

theorem foldlM_takeTurn_owes (h : Marks answer Q) {order : List Nat}
    {held held' : List (Progress α δ ρ)} {k : Nat} {progress : Progress α δ ρ}
    (there : held[k]? = some progress) (owes : Owes Q legs progress world)
    (run : (order.foldlM (takeTurn answer) held).outcome world = (.ok held', world')) :
    ∃ progress', held'[k]? = some progress' ∧ Owes Q legs progress' world' := by
  induction order generalizing held progress world with
  | nil =>
    cases run
    exact ⟨progress, there, owes⟩
  | cons position order ih =>
    obtain ⟨held₁, world₁, turn, later⟩ := outcome_bind_eq_ok run
    obtain ⟨progress₁, there₁, owes₁⟩ := h.takeTurn_owes there owes turn
    exact ih there₁ owes₁ later

theorem mapM_finish_marked (h : Marks answer Q) {held : List (Progress α δ ρ)}
    {progress : Progress α δ ρ} (among : progress ∈ held) (owes : Owes Q legs progress world)
    {results : List ρ}
    (run : (held.mapM (Progress.finish answer)).outcome world = (.ok results, world')) :
    ∀ leg ∈ legs, Q leg.1 leg.2 world' := by
  have stays : ∀ (x y : α) (progress : Progress α δ ρ), Keeps (Q x y) (progress.finish answer) := by
    intro x y progress
    cases progress with
    | error e => exact fun _ mark => mark
    | ok d => exact h.run_stays d x y
  induction held generalizing world results with
  | nil => cases among
  | cons first held ih =>
    rw [List.mapM_cons] at run
    obtain ⟨result, world₁, finished, run⟩ := outcome_bind_eq_ok run
    obtain ⟨others, world₂, later, done⟩ := outcome_bind_eq_ok run
    cases done
    rcases List.mem_cons.mp among with rfl | among
    · intro leg hleg
      have keeps : Keeps (Q leg.1 leg.2) (held.mapM (Progress.finish answer)) :=
        keeps_iff_inStep.mpr (InStep.mapM held fun y _ => keeps_iff_inStep.mp (stays _ _ y))
      exact keeps.left (h.finish_marked owes finished leg hleg) later
    · exact ih among (owes.mono fun x y mark => (stays x y first).left mark finished) later

/-- All legs that a dialogue asks for are marked if it and the ones beside it come to their end. -/
theorem sideBySide_marked (h : Marks answer Q) {turns : Turns} {dialogues : List (Dialogue α δ ρ)}
    {d : Dialogue α δ ρ} (among : d ∈ dialogues) (asks : d.Asks legs) {results : List ρ}
    (run : (sideBySide answer turns dialogues).outcome world = (.ok results, world')) :
    ∀ leg ∈ legs, Q leg.1 leg.2 world' := by
  obtain ⟨held, between, turned, concluded⟩ := outcome_bind_eq_ok run
  obtain ⟨k, inside, rfl⟩ := List.mem_iff_getElem.mp among
  have there : (dialogues.map .ok : List (Progress α δ ρ))[k]? = some (.ok dialogues[k]) := by
    simp [inside]
  obtain ⟨progress, left, owes⟩ := h.foldlM_takeTurn_owes there (owes_of_asks asks) turned
  unfold conclude at concluded
  dsimp only at concluded
  split at concluded
  · cases concluded
  · exact h.mapM_finish_marked (List.mem_of_getElem? left) owes concluded

end Marks

end ServiceRoute.Planning
