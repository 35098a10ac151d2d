/-! # Grouping by key

Elements may carry a key. `segments` cuts a list into maximal stretches of one
key, with every element without a key on its own; `regroup` pulls elements that
share a key together when they are less than a window apart.
-/

namespace ServiceRoute.Corridor

variable {α κ : Type} [DecidableEq κ]

/-- Consecutive elements of one key, or one element without a key. -/
structure Segment (α κ : Type) where
  key : Option κ
  members : List α

/-- Puts an element in front, into the first segment if that has the same key. -/
def prepend (key : α → Option κ) (a : α) (segments : List (Segment α κ)) :
    List (Segment α κ) :=
  match key a, segments with
  | some k, ⟨some k', members⟩ :: later =>
    if k = k' then ⟨some k, a :: members⟩ :: later
    else ⟨some k, [a]⟩ :: ⟨some k', members⟩ :: later
  | k, segments => ⟨k, [a]⟩ :: segments

def segments (key : α → Option κ) (xs : List α) : List (Segment α κ) :=
  xs.foldr (prepend key) []

/-- Rewrites every segment that has a key and puts the list together again. -/
def rearrange (key : α → Option κ) (f : κ → List α → List α) (xs : List α) : List α :=
  (segments key xs).flatMap fun s =>
    match s.key with
    | some k => f k s.members
    | none => s.members

/-- The positions from `start` up to `stop`, which is not among them. -/
structure Interval (κ : Type) where
  start : Nat
  stop : Nat
  key : κ
deriving DecidableEq

/-- The intervals of the segments with a key, the first segment beginning at `start`. -/
def intervalsFrom (start : Nat) : List (Segment α κ) → List (Interval κ)
  | [] => []
  | ⟨none, members⟩ :: later => intervalsFrom (start + members.length) later
  | ⟨some k, members⟩ :: later =>
    ⟨start, start + members.length, k⟩ :: intervalsFrom (start + members.length) later

def intervals (key : α → Option κ) (xs : List α) : List (Interval κ) :=
  intervalsFrom 0 (segments key xs)

/-- Moves the elements with key `k` among the next `reach` ones to the front. -/
def pullForward (key : α → Option κ) (reach : Nat) (k : κ) (xs : List α) : List α :=
  let near := xs.take reach
  near.filter (key · = some k) ++ near.filter (key · ≠ some k) ++ xs.drop reach

theorem length_pullForward (key : α → Option κ) (reach : Nat) (k : κ) (xs : List α) :
    (pullForward key reach k xs).length = xs.length := by
  have split : ∀ near : List α, (near.filter (key · = some k)).length +
      (near.filter (key · ≠ some k)).length = near.length := by
    intro near
    induction near with
    | nil => rfl
    | cons a near ih => by_cases h : key a = some k <;> simp [h] at ih ⊢ <;> omega
  have h := split (xs.take reach)
  simp only [pullForward, List.length_append, List.length_drop, List.length_take] at h ⊢
  omega

/-- From left to right, pulls the elements that share a key right behind the
first of them, among the `window` positions that begin at it. -/
def regroup (key : α → Option κ) (window : Nat) : List α → List α
  | [] => []
  | a :: rest =>
    match key a with
    | none => a :: regroup key window rest
    | some k => a :: regroup key window (pullForward key (window - 1) k rest)
termination_by xs => xs.length
decreasing_by
  · simp
  · simp [length_pullForward]

end ServiceRoute.Corridor
