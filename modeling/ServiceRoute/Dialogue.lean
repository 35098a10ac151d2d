import ServiceRoute.Planning

/-! # Dialogues

A computation that asks for legs is a dialogue: it is through, or it asks for one
leg and goes on with the answer. Dialogues may be held side by side, as threads
hold them. A question is put and answered as a whole, but which dialogue puts the
next one is nobody's choice: it is given from outside, as `Turns`, and whatever is
to be true of the computation has to be true for all of them.
-/

namespace ServiceRoute

/-- A computation that asks for legs between places `α`, answered by a `δ`. -/
inductive Dialogue (α δ ρ : Type) where
  | done (result : ρ)
  | ask (a b : α) (next : δ → Dialogue α δ ρ)

namespace Dialogue

variable {σ α δ ρ ρ' : Type}

def bind : Dialogue α δ ρ → (ρ → Dialogue α δ ρ') → Dialogue α δ ρ'
  | done result, f => f result
  | ask a b next, f => ask a b fun d => (next d).bind f

instance : Monad (Dialogue α δ) where
  pure := done
  bind := bind

def question (a b : α) : Dialogue α δ δ :=
  ask a b done

def run {m : Type → Type} [Monad m] (answer : α → α → m δ) : Dialogue α δ ρ → m ρ
  | done result => pure result
  | ask a b next => do (next (← answer a b)).run answer

/-- What has become of a dialogue: a failure, or what is left of it. -/
abbrev Progress (α δ ρ : Type) : Type :=
  Except PlanError (Dialogue α δ ρ)

def Progress.failure? : Progress α δ ρ → Option PlanError
  | .error e => some e
  | .ok _ => none

/-- The dialogue at a position asks for its next leg, unless it is through or has failed. -/
def takeTurn (answer : α → α → Planning σ δ) (held : List (Progress α δ ρ)) (position : Nat) :
    Planning σ (List (Progress α δ ρ)) :=
  match held[position]? with
  | some (.ok (.ask a b next)) => do
    let answered ← (answer a b).attempt
    return held.set position (answered.map next)
  | _ => return held

def Progress.finish (answer : α → α → Planning σ δ) : Progress α δ ρ → Planning σ ρ
  | .error e => throw e
  | .ok dialogue => dialogue.run answer

/-- Reports one of the failures. If there is none, what is left of the dialogues is held, one
after the other. -/
def conclude (answer : α → α → Planning σ δ) (reported : Nat) (held : List (Progress α δ ρ)) :
    Planning σ (List ρ) :=
  let failures := held.filterMap Progress.failure?
  match failures[reported % failures.length]? with
  | some e => throw e
  | none => held.mapM (Progress.finish answer)

/-- Holds dialogues side by side and answers with all their results, or with one of their
failures. Once a dialogue has failed, the others need not come to an end. -/
def sideBySide (answer : α → α → Planning σ δ) (turns : Turns)
    (dialogues : List (Dialogue α δ ρ)) : Planning σ (List ρ) := do
  let held ← turns.order.foldlM (takeTurn answer) (dialogues.map .ok)
  conclude answer turns.reported held

end Dialogue

end ServiceRoute
