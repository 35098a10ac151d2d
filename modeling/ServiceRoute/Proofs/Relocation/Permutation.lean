import Mathlib.Data.List.Perm.Basic
import ServiceRoute.Proofs.Planning.SideBySide
import ServiceRoute.Relocation

/-!
# What relocation keeps

Relocation only moves stops: its result is a permutation of the route, whatever the schedule. It
asks for no leg but those between stops of the route, so that two relocations of one route are in
step under a schedule as soon as these legs are. Over legs that depend on nothing else, the schedule
makes no difference to a success.
-/

namespace ServiceRoute.Relocation

open Planning

variable {σ τ α δ ι : Type}

theorem split_of_mem_candidates {count : Nat} {rest : List α} {c : Candidate α}
    (h : c ∈ candidates count rest) : rest = c.before ++ c.stop :: c.behind := by
  induction rest generalizing count c with
  | nil => simp [candidates] at h
  | cons a rest ih =>
    cases count with
    | zero => simp [candidates] at h
    | succ count =>
      simp only [candidates, List.mem_cons, List.mem_map] at h
      rcases h with rfl | ⟨d, hd, rfl⟩
      · rfl
      · simpa using ih hd

theorem moved_perm {count : Nat} {next : α} {rest : List α} {c : Candidate α}
    (h : c ∈ candidates count rest) : (c.moved next).Perm (next :: rest) := by
  rw [split_of_mem_candidates h]
  have stop_first : (c.stop :: (c.before ++ c.behind)).Perm (c.before ++ c.stop :: c.behind) :=
    List.perm_middle.symm
  exact (List.Perm.swap next c.stop _).trans (stop_first.cons next)

theorem predecessor_mem (next : α) (c : Candidate α) :
    c.predecessor next ∈ next :: c.before :=
  List.getLast_mem _

section Pick

variable [LE δ] [DecidableLE δ]

theorem mem_of_foldl_keepLeast {deltas : List (ι × δ)} {best : Option (ι × δ)} {kept : ι × δ}
    (h : deltas.foldl keepLeast best = some kept) : best = some kept ∨ kept ∈ deltas := by
  induction deltas generalizing best with
  | nil => exact Or.inl h
  | cons entry deltas ih =>
    rcases ih h with stays | later
    · cases best with
      | none => exact Or.inr (by simp_all [keepLeast])
      | some earlier =>
        unfold keepLeast at stays
        dsimp only at stays
        split_ifs at stays
        · exact Or.inl stays
        · exact Or.inr (by simp_all)
    · exact Or.inr (List.mem_cons_of_mem entry later)

variable [Neg δ] [LT δ] [DecidableLT δ] {limits : Limits δ}

theorem mem_of_pick {deltas : List (ι × δ)} {entry : ι} (h : pick limits deltas = some entry) :
    ∃ saving, (entry, saving) ∈ deltas ∧ saving < -limits.minImprovement := by
  unfold pick at h
  cases best : deltas.foldl keepLeast none with
  | none => simp [best] at h
  | some kept =>
    have among := (mem_of_foldl_keepLeast best).resolve_left (by simp)
    simp only [best] at h
    split_ifs at h with saves
    obtain rfl := Option.some.inj h
    exact ⟨kept.2, among, saves⟩

theorem mem_of_pick_zip {window : List ι} {deltas : List δ} {entry : ι}
    (h : pick limits (window.zip deltas) = some entry) : entry ∈ window := by
  obtain ⟨saving, among, -⟩ := mem_of_pick h
  exact (List.of_mem_zip among).1

end Pick

section Choice

variable {choice : Nat → α → α → List α → Planning σ (Option (Candidate α))}
variable {choice' : Nat → α → α → List α → Planning τ (Option (Candidate α))}
variable {R : σ → τ → Prop} {place : α → Prop} {lookahead : Nat}

/-- The choice at an anchor is one of the candidates of the window. -/
def ChoosesWithin (lookahead : Nat)
    (choice : Nat → α → α → List α → Planning σ (Option (Candidate α))) : Prop :=
  ∀ anchors anchor next rest,
    Ensures (fun chosen => ∀ c, chosen = some c → c ∈ candidates (lookahead - 1) rest)
      (choice anchors anchor next rest)

theorem passBy_ensures_perm (window : ChoosesWithin lookahead choice) (anchors budget : Nat)
    (stops : List α) :
    Ensures (fun r => r.stops.Perm stops) (passBy choice anchors budget stops) := by
  induction anchors generalizing budget stops with
  | zero => exact ensures_pure (List.Perm.refl _)
  | succ anchors ih =>
    match budget, stops with
    | 0, stops => exact ensures_pure (List.Perm.refl _)
    | budget + 1, [] => exact ensures_pure (List.Perm.refl _)
    | budget + 1, [anchor] => exact ensures_pure (List.Perm.refl _)
    | budget + 1, anchor :: next :: rest =>
      refine (window anchors anchor next rest).bind fun chosen hchosen => ?_
      cases chosen with
      | some c =>
        refine (ih budget (c.moved next)).bind fun later hlater => ?_
        exact ensures_pure ((hlater.trans (moved_perm (hchosen c rfl))).cons anchor)
      | none =>
        refine (ih (budget + 1) (next :: rest)).bind fun later hlater => ?_
        exact ensures_pure (hlater.cons anchor)

theorem relocateBy_ensures_perm (window : ChoosesWithin lookahead choice) (maxMoves maxStops : Nat)
    (stops : List α) :
    Ensures (fun r => r.stops.Perm stops) (relocateBy choice maxMoves maxStops stops) := by
  unfold relocateBy
  split_ifs with h
  · exact ensures_pure (List.Perm.refl _)
  · exact passBy_ensures_perm window _ maxMoves stops

theorem passBy_ensures_moves_le
    (choice : Nat → α → α → List α → Planning σ (Option (Candidate α))) (anchors budget : Nat)
    (stops : List α) :
    Ensures (fun r => r.moves ≤ anchors) (passBy choice anchors budget stops) := by
  induction anchors generalizing budget stops with
  | zero => exact ensures_pure (Nat.le_refl _)
  | succ anchors ih =>
    match budget, stops with
    | 0, stops => exact ensures_pure (Nat.zero_le _)
    | budget + 1, [] => exact ensures_pure (Nat.zero_le _)
    | budget + 1, [anchor] => exact ensures_pure (Nat.zero_le _)
    | budget + 1, anchor :: next :: rest =>
      refine Ensures.of_next fun chosen => ?_
      cases chosen with
      | some c =>
        exact (ih budget (c.moved next)).bind fun later few => ensures_pure (Nat.succ_le_succ few)
      | none =>
        exact (ih (budget + 1) (next :: rest)).bind fun later few =>
          ensures_pure (Nat.le_succ_of_le few)

theorem relocateBy_ensures_moves_le
    (choice : Nat → α → α → List α → Planning σ (Option (Candidate α))) (maxMoves maxStops : Nat)
    (stops : List α) :
    Ensures (fun r => r.moves ≤ stops.length - 1) (relocateBy choice maxMoves maxStops stops) := by
  unfold relocateBy
  split_ifs
  · exact ensures_pure (Nat.zero_le _)
  · exact passBy_ensures_moves_le choice _ maxMoves stops

theorem passBy_inStep (window : ChoosesWithin lookahead choice)
    (choices : ∀ anchors anchor next rest, (∀ a ∈ anchor :: next :: rest, place a) →
      InStep R (choice anchors anchor next rest) (choice' anchors anchor next rest))
    (anchors budget : Nat) (stops : List α) (inside : ∀ a ∈ stops, place a) :
    InStep R (passBy choice anchors budget stops) (passBy choice' anchors budget stops) := by
  induction anchors generalizing budget stops with
  | zero => exact inStep_pure _
  | succ anchors ih =>
    match budget, stops with
    | 0, stops => exact inStep_pure _
    | budget + 1, [] => exact inStep_pure _
    | budget + 1, [anchor] => exact inStep_pure _
    | budget + 1, anchor :: next :: rest =>
      refine (choices anchors anchor next rest inside).bind_ensures
        (window anchors anchor next rest) fun chosen hchosen => ?_
      cases chosen with
      | some c =>
        have moved_inside : ∀ a ∈ c.moved next, place a := by
          intro a ha
          have hmem := (moved_perm (hchosen c rfl)).mem_iff.mp ha
          exact inside a (List.mem_cons_of_mem anchor hmem)
        exact (ih budget _ moved_inside).bind fun later => inStep_pure _
      | none =>
        have rest_inside : ∀ a ∈ next :: rest, place a :=
          fun a ha => inside a (List.mem_cons_of_mem anchor ha)
        exact (ih (budget + 1) _ rest_inside).bind fun later => inStep_pure _

theorem relocateBy_inStep (window : ChoosesWithin lookahead choice)
    (choices : ∀ anchors anchor next rest, (∀ a ∈ anchor :: next :: rest, place a) →
      InStep R (choice anchors anchor next rest) (choice' anchors anchor next rest))
    (maxMoves maxStops : Nat) {stops : List α} (inside : ∀ a ∈ stops, place a) :
    InStep R (relocateBy choice maxMoves maxStops stops)
      (relocateBy choice' maxMoves maxStops stops) := by
  unfold relocateBy
  split_ifs with h
  · exact inStep_pure _
  · exact passBy_inStep window choices _ maxMoves stops inside

theorem passBy_succeedAlike {choice' : Nat → α → α → List α → Planning σ (Option (Candidate α))}
    (choices : ∀ anchors anchor next rest,
      SucceedAlike (choice anchors anchor next rest) (choice' anchors anchor next rest))
    (anchors budget : Nat) (stops : List α) :
    SucceedAlike (passBy choice anchors budget stops) (passBy choice' anchors budget stops) := by
  induction anchors generalizing budget stops with
  | zero => exact succeedAlike_refl _
  | succ anchors ih =>
    match budget, stops with
    | 0, stops => exact succeedAlike_refl _
    | budget + 1, [] => exact succeedAlike_refl _
    | budget + 1, [anchor] => exact succeedAlike_refl _
    | budget + 1, anchor :: next :: rest =>
      refine (choices anchors anchor next rest).bind fun chosen => ?_
      cases chosen with
      | some c => exact (ih budget (c.moved next)).bind fun later => succeedAlike_refl _
      | none => exact (ih (budget + 1) (next :: rest)).bind fun later => succeedAlike_refl _

theorem relocateBy_succeedAlike
    {choice' : Nat → α → α → List α → Planning σ (Option (Candidate α))}
    (choices : ∀ anchors anchor next rest,
      SucceedAlike (choice anchors anchor next rest) (choice' anchors anchor next rest))
    (maxMoves maxStops : Nat) (stops : List α) :
    SucceedAlike (relocateBy choice maxMoves maxStops stops)
      (relocateBy choice' maxMoves maxStops stops) := by
  unfold relocateBy
  split_ifs
  · exact succeedAlike_refl _
  · exact passBy_succeedAlike choices _ maxMoves stops

end Choice

section InOrder

variable [Add δ] [Sub δ] [Neg δ] [LE δ] [LT δ] [DecidableLE δ] [DecidableLT δ]
variable {m : Type → Type} [Monad m] (duration : α → α → m δ) (limits : Limits δ)

theorem pass_cons (anchors budget : Nat) (anchor next : α) (rest : List α) :
    pass duration limits (anchors + 1) (budget + 1) (anchor :: next :: rest) = do
      match ← choose duration limits anchor next rest with
      | some c =>
        let later ← pass duration limits anchors budget (c.moved next)
        return ⟨anchor :: later.stops, later.moves + 1⟩
      | none =>
        let later ← pass duration limits anchors (budget + 1) (next :: rest)
        return ⟨anchor :: later.stops, later.moves⟩ := rfl

theorem relocate_eq (maxMoves maxStops : Nat) (stops : List α) :
    relocate duration limits maxMoves maxStops stops =
      if stops.length > maxStops then pure ⟨stops, 0⟩
      else pass duration limits (stops.length - 1) maxMoves stops := rfl

end InOrder

section Scheduled

variable [Add δ] [Sub δ]

/-- The legs that are asked for to find out what moving the candidate adds. -/
def Candidate.questions (anchor next : α) (c : Candidate α) : List (α × α) :=
  (anchor, next) :: (c.predecessor next, c.stop) :: (anchor, c.stop) :: (c.stop, next) ::
    match c.behind with
    | [] => []
    | following :: _ => [(c.stop, following), (c.predecessor next, following)]

theorem delta_asks (anchor next : α) (c : Candidate α) :
    (delta (δ := δ) Dialogue.question anchor next c).Asks (c.questions anchor next) := by
  unfold delta Candidate.questions
  refine .ask fun toNext => .ask fun toStop => .ask fun fromAnchor => .ask fun backToNext => ?_
  cases c.behind with
  | nil => exact .done _
  | cons following behind => exact .ask fun away => .ask fun across => .done _

/-- A candidate asks for legs between the stops of the route only. -/
theorem delta_within {place : α → Prop} {count : Nat} {anchor next : α} {rest : List α}
    (inside : ∀ a ∈ anchor :: next :: rest, place a) {c : Candidate α}
    (window : c ∈ candidates count rest) :
    (delta (δ := δ) Dialogue.question anchor next c).Within place := by
  have split := split_of_mem_candidates window
  have hanchor : place anchor := inside _ (by simp)
  have hnext : place next := inside _ (by simp)
  have hstop : place c.stop := inside _ (by simp [split])
  have hprevious : place (c.predecessor next) := by
    rcases List.mem_cons.mp (predecessor_mem next c) with h | h
    · rw [h]
      exact hnext
    · exact inside _ (by simp [split, h])
  refine (delta_asks anchor next c).within ?_
  unfold Candidate.questions
  cases behind : c.behind with
  | nil => simp [hanchor, hnext, hstop, hprevious]
  | cons following behind =>
    have hfollowing : place following := inside _ (by simp [split, behind])
    simp [hanchor, hnext, hstop, hprevious, hfollowing]

theorem run_delta {m : Type → Type} [Monad m] [LawfulMonad m] (duration : α → α → m δ)
    (anchor next : α) (c : Candidate α) :
    (delta Dialogue.question anchor next c).run duration = delta duration anchor next c := by
  unfold delta
  simp only [Dialogue.run_bind, Dialogue.run_question]
  cases c.behind <;> simp only [Dialogue.run_bind, Dialogue.run_question] <;> rfl

variable [Neg δ] [LE δ] [LT δ] [DecidableLE δ] [DecidableLT δ]
variable {duration : α → α → Planning σ δ} {duration' : α → α → Planning τ δ}
variable {R : σ → τ → Prop} {place : α → Prop}

theorem chooseUnder_choosesWithin (schedule : Schedule) (duration : α → α → Planning σ δ)
    (limits : Limits δ) : ChoosesWithin limits.lookahead
      fun anchors => chooseUnder (schedule anchors) duration limits := by
  intro anchors anchor next rest
  exact Ensures.of_next fun deltas => ensures_pure fun c picked => mem_of_pick_zip picked

theorem relocateUnder_ensures_perm (schedule : Schedule) (duration : α → α → Planning σ δ)
    (limits : Limits δ) (maxMoves maxStops : Nat) (stops : List α) :
    Ensures (fun r => r.stops.Perm stops)
      (relocateUnder schedule duration limits maxMoves maxStops stops) :=
  relocateBy_ensures_perm (chooseUnder_choosesWithin schedule duration limits) maxMoves maxStops
    stops

theorem chooseUnder_inStep
    (legs : ∀ a b, place a → place b → InStep R (duration a b) (duration' a b)) (turns : Turns)
    (limits : Limits δ) {anchor next : α} {rest : List α}
    (inside : ∀ a ∈ anchor :: next :: rest, place a) :
    InStep R (chooseUnder turns duration limits anchor next rest)
      (chooseUnder turns duration' limits anchor next rest) := by
  unfold chooseUnder
  refine (Dialogue.sideBySide_inStep legs turns fun d hd => ?_).bind fun deltas => inStep_pure _
  obtain ⟨c, window, rfl⟩ := List.mem_map.mp hd
  exact delta_within inside window

/-- Relocations under one schedule, whose legs are in step between the stops of the route, are in
step. -/
theorem relocateUnder_inStep
    (legs : ∀ a b, place a → place b → InStep R (duration a b) (duration' a b))
    (schedule : Schedule) (limits : Limits δ) (maxMoves maxStops : Nat) {stops : List α}
    (inside : ∀ a ∈ stops, place a) :
    InStep R (relocateUnder schedule duration limits maxMoves maxStops stops)
      (relocateUnder schedule duration' limits maxMoves maxStops stops) :=
  relocateBy_inStep (chooseUnder_choosesWithin schedule duration limits)
    (fun anchors _ _ _ => chooseUnder_inStep legs (schedule anchors) limits) maxMoves maxStops
    inside

/-- Over legs that depend on nothing but their ends, relocation succeeds under all schedules
alike. -/
theorem relocateUnder_succeedAlike {price : α → α → Except PlanError δ}
    (pureLegs : ∀ a b world, (duration a b).outcome world = (price a b, world))
    (schedule schedule' : Schedule) (limits : Limits δ) (maxMoves maxStops : Nat)
    (stops : List α) :
    SucceedAlike (relocateUnder schedule duration limits maxMoves maxStops stops)
      (relocateUnder schedule' duration limits maxMoves maxStops stops) := by
  refine relocateBy_succeedAlike (fun anchors anchor next rest => ?_) maxMoves maxStops stops
  exact (Dialogue.sideBySide_succeedAlike pureLegs _ _ _).bind fun _ => succeedAlike_refl _

/-- To look at one stop after the other is a schedule, too. -/
theorem relocateUnder_inOrder (duration : α → α → Planning σ δ) (limits : Limits δ)
    (maxMoves maxStops : Nat) (stops : List α) :
    relocateUnder (fun _ => .inOrder) duration limits maxMoves maxStops stops =
      relocate duration limits maxMoves maxStops stops := by
  have chosen : chooseUnder .inOrder duration limits = choose duration limits := by
    funext anchor next rest
    unfold chooseUnder choose
    dsimp only
    rw [Dialogue.sideBySide_inOrder, List.mapM_map]
    simp only [Function.comp_def, run_delta]
  rw [relocateUnder, relocate, chosen]

theorem relocate_ensures_perm (duration : α → α → Planning σ δ) (limits : Limits δ)
    (maxMoves maxStops : Nat) (stops : List α) :
    Ensures (fun r => r.stops.Perm stops)
      (relocate duration limits maxMoves maxStops stops) := by
  rw [← relocateUnder_inOrder]
  exact relocateUnder_ensures_perm _ duration limits maxMoves maxStops stops

end Scheduled

end ServiceRoute.Relocation
