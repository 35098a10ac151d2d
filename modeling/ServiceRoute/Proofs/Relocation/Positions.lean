import ServiceRoute.Proofs.Relocation.Pulls
import ServiceRoute.Proofs.Relocation.Shortening

/-!
# Relocation by positions

A pass can be told by positions. At every anchor it surveys the positions of the window behind it,
and the stop at the best of them is taken out of the route and put back behind the anchor. Told
like this, an access may be out of range, and a sum of positions stops at the greatest position
there is. Main statement: no access is ever out of range, whatever the lookahead, and the pass by
positions answers what the pass answers.
-/

namespace ServiceRoute.Relocation

variable {α β δ ι κ : Type}

def windowAt (top lookahead length anchor : Nat) : List Nat :=
  let limit := min (min top (min top (anchor + 1) + lookahead)) length
  List.range' (anchor + 2) (limit - (anchor + 2))

/-- What was found out at an anchor: the deltas of the positions in its window. -/
structure Survey (δ : Type) where
  anchor : Nat
  deltas : List (Nat × δ)
deriving DecidableEq

/-- A route after a pass by positions, and the surveys made on the way. -/
structure Surveyed (α δ : Type) where
  stops : List α
  surveys : List (Survey δ)

section Pass

variable {m : Type → Type} [Monad m]
variable [Add δ] [Sub δ] [Neg δ] [LE δ] [LT δ] [DecidableLE δ] [DecidableLT δ]

def stopAt (route : List α) (position : Nat) : OptionT m α :=
  .mk (pure route[position]?)

/-- What the pull adds to the duration of the route. -/
def deltaAt (duration : α → α → m δ) (route : List α) (pull : Pull) : OptionT m δ := do
  let anchor ← stopAt route pull.anchor
  let next ← stopAt route (pull.anchor + 1)
  let previous ← stopAt route (pull.source - 1)
  let stop ← stopAt route pull.source
  let toNext ← .lift (duration anchor next)
  let toStop ← .lift (duration previous stop)
  let fromAnchor ← .lift (duration anchor stop)
  let backToNext ← .lift (duration stop next)
  match route[pull.source + 1]? with
  | none => return fromAnchor + backToNext - (toNext + toStop)
  | some following =>
    let away ← .lift (duration stop following)
    let across ← .lift (duration previous following)
    return fromAnchor + backToNext + across - (toNext + toStop + away)

def surveyAt (duration : α → α → m δ) (limits : Limits δ) (top : Nat) (route : List α)
    (anchor : Nat) : OptionT m (Survey δ) := do
  let deltas ← (windowAt top limits.lookahead route.length anchor).mapM fun source =>
    return (source, ← deltaAt duration route ⟨anchor, source⟩)
  return ⟨anchor, deltas⟩

/-- The pull that a survey leads to. -/
def Survey.pull? (limits : Limits δ) (survey : Survey δ) : Option Pull :=
  (pick limits survey.deltas).map fun source => ⟨survey.anchor, source⟩

def Surveyed.pulls (limits : Limits δ) (surveyed : Surveyed α δ) : List Pull :=
  surveyed.surveys.filterMap (·.pull? limits)

/-- The answer of a pass that made these surveys. -/
def Surveyed.relocated (limits : Limits δ) (surveyed : Surveyed α δ) : Relocated α :=
  ⟨surveyed.stops, (surveyed.pulls limits).length⟩

/-- The pass over these anchors, with `budget` pulls left. -/
def passAt (duration : α → α → m δ) (limits : Limits δ) (top : Nat) :
    (anchors : List Nat) → (budget : Nat) → List α → OptionT m (Surveyed α δ)
  | anchor :: anchors, budget + 1, route => do
    let survey ← surveyAt duration limits top route anchor
    match survey.pull? limits with
    | some pull =>
      let moved ← .mk (pure (pull.after? route))
      let later ← passAt duration limits top anchors budget moved
      return ⟨later.stops, survey :: later.surveys⟩
    | none =>
      let later ← passAt duration limits top anchors (budget + 1) route
      return ⟨later.stops, survey :: later.surveys⟩
  | _, _, route => return ⟨route, []⟩

/-- Relocation by positions, where `top` is the greatest position there is. -/
def relocateAt (duration : α → α → m δ) (limits : Limits δ) (top maxMoves maxStops : Nat)
    (stops : List α) : OptionT m (Surveyed α δ) :=
  if stops.length > maxStops then return ⟨stops, []⟩
  else passAt duration limits top (List.range (stops.length - 1)) maxMoves stops

end Pass

section Pick

variable [LE δ] [DecidableLE δ]

theorem foldl_keepLeast_map (f : ι → κ) (deltas : List (ι × δ)) (best : Option (ι × δ)) :
    (deltas.map (Prod.map f id)).foldl keepLeast (best.map (Prod.map f id)) =
      (deltas.foldl keepLeast best).map (Prod.map f id) := by
  induction deltas generalizing best with
  | nil => rfl
  | cons entry deltas ih =>
    have step : keepLeast (best.map (Prod.map f id)) (Prod.map f id entry) =
        (keepLeast best entry).map (Prod.map f id) := by
      cases best with
      | none => rfl
      | some kept => by_cases stays : kept.2 ≤ entry.2 <;> simp [keepLeast, stays]
    rw [List.map_cons, List.foldl_cons, step, ih, List.foldl_cons]

/-- What is picked does not depend on what the entries are called. -/
theorem pick_map [Neg δ] [LT δ] [DecidableLT δ] (limits : Limits δ) (f : ι → κ)
    (deltas : List (ι × δ)) :
    pick limits (deltas.map (Prod.map f id)) = (pick limits deltas).map f := by
  have best := foldl_keepLeast_map f deltas none
  rw [Option.map_none] at best
  unfold pick
  rw [best]
  cases deltas.foldl keepLeast none with
  | none => rfl
  | some kept => by_cases saves : kept.2 < -limits.minImprovement <;> simp [saves]

end Pick

theorem insertIdx_append_length (front rest : List α) (a : α) :
    (front ++ rest).insertIdx front.length a = front ++ a :: rest := by
  induction front with
  | nil => rfl
  | cons b front ih => simp [ih]

/-- The position of a candidate, the anchor standing behind this many stops. -/
def positionOf (front : Nat) (c : Candidate α) : Nat :=
  front + 2 + c.before.length

namespace Move

variable (move : Move α)

def pull : Pull :=
  ⟨move.front.length, positionOf move.front.length move.candidate⟩

/-- The stops in front of the candidate. -/
def ahead : List α :=
  move.front ++ move.anchor :: move.next :: move.candidate.before

theorem length_ahead : move.ahead.length = move.pull.source := by
  simp only [ahead, pull, positionOf, List.length_append, List.length_cons]
  omega

theorem source_eq_ahead :
    move.source = move.ahead ++ move.candidate.stop :: move.candidate.behind := by
  simp [source, rest, ahead]

theorem getElem?_anchor : move.source[move.pull.anchor]? = some move.anchor := by
  simp [source, pull]

theorem getElem?_next : move.source[move.pull.anchor + 1]? = some move.next := by
  simp [source, pull]

theorem getElem?_predecessor : move.source[move.pull.source - 1]? =
    some (move.candidate.predecessor move.next) := by
  have last : move.ahead.getLast? = some (move.candidate.predecessor move.next) := by
    simp [ahead, Candidate.predecessor, List.getLast?_eq_getLast_of_ne_nil]
  have inside : move.pull.source - 1 < move.ahead.length := by
    rw [length_ahead]
    simp only [pull, positionOf]
    omega
  rw [source_eq_ahead, List.getElem?_append_left inside, ← length_ahead, ← last,
    List.getLast?_eq_getElem?]

theorem getElem?_source : move.source[move.pull.source]? = some move.candidate.stop := by
  rw [source_eq_ahead, ← length_ahead, List.getElem?_append_right (Nat.le_refl _), Nat.sub_self]
  rfl

theorem getElem?_following :
    move.source[move.pull.source + 1]? = move.candidate.behind.head? := by
  rw [source_eq_ahead, ← length_ahead, List.getElem?_append_right (Nat.le_add_right _ _),
    Nat.add_sub_cancel_left, List.head?_eq_getElem?]
  rfl

/-- Taking the candidate out and putting it back behind the anchor is the relocation. -/
theorem after?_pull : move.pull.after? move.source = some move.target := by
  have others : move.source.eraseIdx move.pull.source = (move.front ++ [move.anchor]) ++
      move.next :: (move.candidate.before ++ move.candidate.behind) := by
    rw [source_eq_ahead, ← length_ahead, List.eraseIdx_append_of_length_le (Nat.le_refl _),
      Nat.sub_self]
    simp [ahead]
  have inserted := insertIdx_append_length (move.front ++ [move.anchor])
    (move.next :: (move.candidate.before ++ move.candidate.behind)) move.candidate.stop
  rw [List.length_append, List.length_singleton] at inserted
  unfold Pull.after?
  rw [getElem?_source, Option.bind_some, others]
  have inside : move.pull.anchor + 1 ≤ ((move.front ++ [move.anchor]) ++
      move.next :: (move.candidate.before ++ move.candidate.behind)).length := by
    simp [pull]
  dsimp only
  rw [if_pos inside, pull, inserted]
  simp [target, Candidate.moved]

end Move

theorem windowAt_eq {top anchor : Nat} {rest : List α} {length : Nat} (fits : length ≤ top)
    (behind : length = anchor + 2 + rest.length) (lookahead : Nat) :
    windowAt top lookahead length anchor =
      (candidates (lookahead - 1) rest).map (positionOf anchor) := by
  have places : ∀ (count start : Nat) (rest : List α),
      (candidates count rest).map (fun c => start + c.before.length) =
        List.range' start (min count rest.length) := by
    intro count start rest
    induction rest generalizing count start with
    | nil => cases count <;> rfl
    | cons a rest ih =>
      cases count with
      | zero => rfl
      | succ count =>
        have later := ih count (start + 1)
        rw [candidates, List.map_cons, List.map_map, List.length_cons, Nat.add_min_add_right,
          List.range'_succ, ← later]
        simp [Function.comp_def, Nat.add_assoc, Nat.add_comm 1]
  have placed := places (lookahead - 1) (anchor + 2) rest
  change (candidates (lookahead - 1) rest).map (positionOf anchor) = _ at placed
  rw [placed, windowAt]
  congr 1
  omega

theorem after?_of_mem_candidates (front : List α) (anchor next : α) {rest : List α} {count : Nat}
    {c : Candidate α} (window : c ∈ candidates count rest) :
    (Pull.mk front.length (positionOf front.length c)).after? (front ++ anchor :: next :: rest) =
      some (front ++ anchor :: c.moved next) := by
  have applied := Move.after?_pull ⟨front, anchor, next, c⟩
  rwa [Move.source, Move.rest, ← split_of_mem_candidates window] at applied

section Answers

variable [Neg δ] [LE δ] [LT δ] [DecidableLE δ] [DecidableLT δ]
variable {m : Type → Type} [Monad m] [LawfulMonad m]

theorem pull?_map (limits : Limits δ) (front : Nat) (deltas : List (Candidate α × δ)) :
    Survey.pull? limits ⟨front, deltas.map (Prod.map (positionOf front) id)⟩ =
      (pick limits deltas).map fun c => ⟨front, positionOf front c⟩ := by
  rw [Survey.pull?, pick_map, Option.map_map]
  rfl

theorem relocated_of_stay {limits : Limits δ} {survey : Survey δ}
    (stays : survey.pull? limits = none) (act : OptionT m (Surveyed α δ)) :
    Surveyed.relocated limits <$> (act >>= fun later =>
      return ⟨later.stops, survey :: later.surveys⟩) = Surveyed.relocated limits <$> act := by
  rw [bind_pure_comp, Functor.map_map]
  congr 1
  funext later
  simp [Surveyed.relocated, Surveyed.pulls, stays]

theorem relocated_of_pull {limits : Limits δ} {survey : Survey δ} {pull : Pull}
    (pulls : survey.pull? limits = some pull) (act : OptionT m (Surveyed α δ)) :
    Surveyed.relocated limits <$> (act >>= fun later =>
      return ⟨later.stops, survey :: later.surveys⟩) =
      (fun r => ⟨r.stops, r.moves + 1⟩) <$> Surveyed.relocated limits <$> act := by
  rw [bind_pure_comp, Functor.map_map, Functor.map_map]
  congr 1
  funext later
  simp [Surveyed.relocated, Surveyed.pulls, pulls]

end Answers

section Refinement

variable {m : Type → Type} [Monad m]

theorem stopAt_eq_pure {route : List α} {position : Nat} {a : α}
    (h : route[position]? = some a) : stopAt (m := m) route position = pure a := by
  rw [stopAt, h]
  rfl

variable [LawfulMonad m]

theorem lift_map (f : β → κ) (act : m β) : OptionT.lift (f <$> act) = f <$> OptionT.lift act := by
  rw [← bind_pure_comp, ← bind_pure_comp, OptionT.lift_bind]
  simp

theorem mapM_pair (f : ι → m κ) (xs : List ι) :
    (xs.mapM fun x => return (x, ← f x)) = xs.zip <$> xs.mapM f := by
  induction xs with
  | nil => simp
  | cons x xs ih =>
    rw [List.mapM_cons, List.mapM_cons, ih]
    simp

theorem mapM_lift {f : ι → OptionT m κ} {g : ι → m κ} (xs : List ι)
    (same : ∀ x ∈ xs, f x = .lift (g x)) : xs.mapM f = .lift (xs.mapM g) := by
  induction xs with
  | nil => simp
  | cons x xs ih =>
    rw [List.mapM_cons, List.mapM_cons, same x (by simp), ih fun y hy => same y (by simp [hy])]
    simp [lift_map]

variable [Add δ] [Sub δ]

theorem deltaAt_pull (duration : α → α → m δ) (move : Move α) :
    deltaAt duration move.source move.pull =
      .lift (delta duration move.anchor move.next move.candidate) := by
  unfold deltaAt delta
  rw [stopAt_eq_pure move.getElem?_anchor, stopAt_eq_pure move.getElem?_next,
    stopAt_eq_pure move.getElem?_predecessor, stopAt_eq_pure move.getElem?_source,
    move.getElem?_following]
  cases move.candidate.behind <;> simp [lift_map]

def prices (duration : α → α → m δ) (limits : Limits δ) (anchor next : α) (rest : List α) :
    m (List δ) :=
  (candidates (limits.lookahead - 1) rest).mapM (delta duration anchor next)

theorem surveyAt_eq (duration : α → α → m δ) (limits : Limits δ) {top : Nat} (front : List α)
    (anchor next : α) (rest : List α)
    (fits : (front ++ anchor :: next :: rest).length ≤ top) :
    surveyAt duration limits top (front ++ anchor :: next :: rest) front.length =
      .lift ((fun deltas => ⟨front.length, ((candidates (limits.lookahead - 1) rest).zip deltas).map
        (Prod.map (positionOf front.length) id)⟩) <$> prices duration limits anchor next rest) := by
  have behind : (front ++ anchor :: next :: rest).length = front.length + 2 + rest.length := by
    simp only [List.length_append, List.length_cons]
    omega
  have priced : ∀ c ∈ candidates (limits.lookahead - 1) rest,
      deltaAt duration (front ++ anchor :: next :: rest) ⟨front.length, positionOf front.length c⟩ =
        .lift (delta duration anchor next c) := by
    intro c hc
    have atPositions := deltaAt_pull duration ⟨front, anchor, next, c⟩
    rwa [Move.source, Move.rest, ← split_of_mem_candidates hc] at atPositions
  unfold surveyAt prices
  rw [mapM_pair, windowAt_eq fits behind, List.mapM_map, Function.comp_def, mapM_lift _ priced,
    lift_map]
  simp [List.zip_map_left]

variable [Neg δ] [LE δ] [LT δ] [DecidableLE δ] [DecidableLT δ]

theorem choose_eq (duration : α → α → m δ) (limits : Limits δ) (anchor next : α)
    (rest : List α) : choose duration limits anchor next rest =
      (fun deltas => pick limits ((candidates (limits.lookahead - 1) rest).zip deltas)) <$>
        prices duration limits anchor next rest :=
  bind_pure_comp ..

/-- Behind the stops of `front`, the pass by positions is the pass. -/
theorem passAt_eq (duration : α → α → m δ) (limits : Limits δ) {top : Nat} (anchors budget : Nat)
    (front stops : List α) (counted : anchors = stops.length - 1)
    (fits : (front ++ stops).length ≤ top) :
    Surveyed.relocated limits <$> passAt duration limits top (List.range' front.length anchors)
        budget (front ++ stops) =
      (fun r => ⟨front ++ r.stops, r.moves⟩) <$>
        .lift (pass duration limits anchors budget stops) := by
  induction anchors generalizing budget front stops with
  | zero => simp [passAt, pass, passBy, Surveyed.relocated, Surveyed.pulls]
  | succ anchors ih =>
    rcases budget with _ | budget
    · simp [passAt, pass, passBy, Surveyed.relocated, Surveyed.pulls]
    rcases stops with _ | ⟨anchor, _ | ⟨next, rest⟩⟩
    · cases counted
    · cases counted
    · rw [List.range'_succ, passAt, pass_cons,
        surveyAt_eq duration limits front anchor next rest fits, choose_eq]
      simp only [lift_map, bind_map_left, OptionT.lift_bind, map_bind]
      refine bind_congr fun deltas => ?_
      have pulled := pull?_map limits front.length
        ((candidates (limits.lookahead - 1) rest).zip deltas)
      have fronted (later : List α) :
          front ++ anchor :: later = (front ++ [anchor]) ++ later := by simp
      have further (budget : Nat) (stops : List α) := ih budget (front ++ [anchor]) stops
      simp only [List.length_append, List.length_singleton] at further
      cases picked : pick limits ((candidates (limits.lookahead - 1) rest).zip deltas) with
      | none =>
        rw [picked, Option.map_none] at pulled
        rw [pulled]
        dsimp only
        have later := further (budget + 1) (next :: rest) (by simpa using counted)
          (by simpa [Nat.add_assoc, Nat.add_comm 1] using fits)
        rw [relocated_of_stay pulled, fronted, later]
        simp [lift_map]
      | some c =>
        rw [picked, Option.map_some] at pulled
        obtain ⟨saving, among, -⟩ := mem_of_pick picked
        have window := (List.of_mem_zip among).1
        let pull : Pull := ⟨front.length, positionOf front.length c⟩
        have moved : OptionT.mk (pure (pull.after? (front ++ anchor :: next :: rest))) =
            (pure (front ++ anchor :: c.moved next) : OptionT m (List α)) :=
          congrArg (fun answer => OptionT.mk (pure answer))
            (after?_of_mem_candidates front anchor next window)
        have rearranged : (c.moved next).Perm (next :: rest) := moved_perm window
        have length := rearranged.length_eq
        have later := further budget (c.moved next) (by rw [length]; simpa using counted)
          (by rw [length]; simpa [Nat.add_assoc, Nat.add_comm 1] using fits)
        rw [pulled]
        dsimp only
        rw [moved, pure_bind, relocated_of_pull pulled, fronted, later]
        simp [lift_map]

/-- No access is out of range, and relocation by positions answers what relocation answers. -/
theorem relocateAt_eq (duration : α → α → m δ) (limits : Limits δ) {top maxMoves maxStops : Nat}
    (fits : maxStops ≤ top) (stops : List α) :
    Surveyed.relocated limits <$> relocateAt duration limits top maxMoves maxStops stops =
      .lift (relocate duration limits maxMoves maxStops stops) := by
  rw [relocateAt, relocate_eq]
  split_ifs with h
  · simp [Surveyed.relocated, Surveyed.pulls]
  · have passed := passAt_eq duration limits (stops.length - 1) maxMoves [] stops rfl
      (le_trans (Nat.le_of_not_gt h) fits)
    rw [List.range_eq_range']
    simpa using passed

end Refinement

end ServiceRoute.Relocation
