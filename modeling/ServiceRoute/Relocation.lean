import ServiceRoute.Dialogue

/-! # Relocation

One pass over a route, from left to right. At every anchor the pass looks at the
stops a bounded way ahead for one that is cheaper to visit right behind the
anchor, and moves the best of them there. The pass is bounded, not optimal.

The stops of a window are looked at side by side, as a schedule has it: which legs
are asked for when a leg fails, in which order, and which failure is reported
depends on the schedule. `relocateUnder` is the pass under any schedule. `relocate`
looks at one stop after the other and stops at the first failure, which is one of
the schedules.

Nothing here depends on what a stop is or how a duration is represented: the
durations of the legs come from an action `duration`, which may fail or remember.
-/

namespace ServiceRoute.Relocation

variable {α δ ι : Type}

/-- A stop that may be moved, between the stops before and behind it. -/
structure Candidate (α : Type) where
  before : List α
  stop : α
  behind : List α

/-- The first `count` stops of a list, each as a candidate. -/
def candidates (count : Nat) : List α → List (Candidate α)
  | [] => []
  | c :: rest =>
    match count with
    | 0 => []
    | count + 1 =>
      ⟨[], c, rest⟩ :: (candidates count rest).map fun d => { d with before := c :: d.before }

/-- The stop in front of the candidate, `next` being the first one behind the anchor. -/
def Candidate.predecessor (next : α) (c : Candidate α) : α :=
  (next :: c.before).getLast (List.cons_ne_nil _ _)

/-- The stops behind the anchor once the candidate has moved there. -/
def Candidate.moved (next : α) (c : Candidate α) : List α :=
  c.stop :: next :: (c.before ++ c.behind)

/-- A route after the pass, with the number of relocations made. -/
structure Relocated (α : Type) where
  stops : List α
  moves : Nat
deriving DecidableEq

section Pass

variable {m : Type → Type} [Monad m]
variable [Add δ] [Sub δ] [Neg δ] [LE δ] [LT δ] [DecidableLE δ] [DecidableLT δ]

/-- What moving the candidate between `anchor` and `next` adds to the duration of
the route: the legs that arise less the legs that vanish. -/
def delta (duration : α → α → m δ) (anchor next : α) (c : Candidate α) : m δ := do
  let previous := c.predecessor next
  let toNext ← duration anchor next
  let toStop ← duration previous c.stop
  let fromAnchor ← duration anchor c.stop
  let backToNext ← duration c.stop next
  match c.behind with
  | [] => return fromAnchor + backToNext - (toNext + toStop)
  | following :: _ =>
    let away ← duration c.stop following
    let across ← duration previous following
    return fromAnchor + backToNext + across - (toNext + toStop + away)

/-- The entry kept so far against the next one: it stays if its delta is at most as long. -/
def keepLeast (best : Option (ι × δ)) (entry : ι × δ) : Option (ι × δ) :=
  match best with
  | some kept => if kept.2 ≤ entry.2 then some kept else some entry
  | none => some entry

/-- The limits of a pass: the width of the window behind an anchor, and what a
relocation must save more than. -/
structure Limits (δ : Type) where
  lookahead : Nat
  minImprovement : δ

/-- The entry with the least delta, if that saves enough. -/
def pick (limits : Limits δ) (deltas : List (ι × δ)) : Option ι :=
  match deltas.foldl keepLeast none with
  | some (entry, saving) => if saving < -limits.minImprovement then some entry else none
  | none => none

/-- The candidate to move behind the anchor, if one of the window saves enough. -/
def choose (duration : α → α → m δ) (limits : Limits δ) (anchor next : α) (rest : List α) :
    m (Option (Candidate α)) := do
  let window := candidates (limits.lookahead - 1) rest
  let deltas ← window.mapM (delta duration anchor next)
  return pick limits (window.zip deltas)

/-- The pass over `anchors` positions, with `budget` relocations left, where `choice` finds the
candidate to move behind an anchor. -/
def passBy (choice : (anchors : Nat) → (anchor next : α) → List α → m (Option (Candidate α))) :
    (anchors budget : Nat) → List α → m (Relocated α)
  | anchors + 1, budget + 1, anchor :: next :: rest => do
    match ← choice anchors anchor next rest with
    | some c =>
      let later ← passBy choice anchors budget (c.moved next)
      return ⟨anchor :: later.stops, later.moves + 1⟩
    | none =>
      let later ← passBy choice anchors (budget + 1) (next :: rest)
      return ⟨anchor :: later.stops, later.moves⟩
  | _, _, stops => return ⟨stops, 0⟩

/-- Shortens a route by relocations. A route of more than `maxStops` stops is left alone. -/
def relocateBy (choice : (anchors : Nat) → (anchor next : α) → List α → m (Option (Candidate α)))
    (maxMoves maxStops : Nat) (stops : List α) : m (Relocated α) :=
  if stops.length > maxStops then return ⟨stops, 0⟩
  else passBy choice (stops.length - 1) maxMoves stops

def pass (duration : α → α → m δ) (limits : Limits δ) :
    (anchors budget : Nat) → List α → m (Relocated α) :=
  passBy fun _ => choose duration limits

def relocate (duration : α → α → m δ) (limits : Limits δ) (maxMoves maxStops : Nat)
    (stops : List α) : m (Relocated α) :=
  relocateBy (fun _ => choose duration limits) maxMoves maxStops stops

end Pass

section Scheduled

variable {σ : Type}
variable [Add δ] [Sub δ] [Neg δ] [LE δ] [LT δ] [DecidableLE δ] [DecidableLT δ]

/-- The candidate to move behind the anchor, the candidates of the window taking turns. -/
def chooseUnder (turns : Turns) (duration : α → α → Planning σ δ) (limits : Limits δ)
    (anchor next : α) (rest : List α) : Planning σ (Option (Candidate α)) := do
  let window := candidates (limits.lookahead - 1) rest
  let deltas ← Dialogue.sideBySide duration turns
    (window.map (delta Dialogue.question anchor next))
  return pick limits (window.zip deltas)

/-- Relocation under a schedule. -/
def relocateUnder (schedule : Schedule) (duration : α → α → Planning σ δ) (limits : Limits δ)
    (maxMoves maxStops : Nat) (stops : List α) : Planning σ (Relocated α) :=
  relocateBy (fun anchors => chooseUnder (schedule anchors) duration limits) maxMoves maxStops
    stops

end Scheduled

end ServiceRoute.Relocation
