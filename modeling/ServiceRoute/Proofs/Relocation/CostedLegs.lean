import Mathlib.Tactic.Common
import ServiceRoute.Proofs.Planning.Marks
import ServiceRoute.Proofs.Relocation.Permutation

/-!
# The legs a pass has costed

A pass that does not use up its relocations has asked for every leg of its result. At each anchor
it asks for the legs from there to the next stop and to every candidate, one of which the anchor
keeps. The last two stops are settled one anchor before: there the window has a single candidate,
and the legs between it and the next stop are asked for in both directions. In which order the
candidates ask does not matter, since a window is left only when all of them are through.
-/

namespace ServiceRoute.Relocation

open Planning

variable {σ α δ ι : Type}

/-- The four legs of the candidate that the anchor, the next stop and the stop in front of it have
to do with are marked. -/
structure Marked (Q : α → α → σ → Prop) (anchor next : α) (c : Candidate α) (world : σ) :
    Prop where
  toNext : Q anchor next world
  toStop : Q (c.predecessor next) c.stop world
  fromAnchor : Q anchor c.stop world
  backToNext : Q c.stop next world

variable {duration : α → α → Planning σ δ} {Q : α → α → σ → Prop} {world world' : σ}
variable {anchor next : α} {rest : List α} {c : Candidate α} {lookahead : Nat}

theorem marked_of_questions (h : ∀ leg ∈ c.questions anchor next, Q leg.1 leg.2 world) :
    Marked Q anchor next c world := by
  obtain ⟨toNext, h⟩ := List.forall_mem_cons.mp h
  obtain ⟨toStop, h⟩ := List.forall_mem_cons.mp h
  obtain ⟨fromAnchor, h⟩ := List.forall_mem_cons.mp h
  obtain ⟨backToNext, -⟩ := List.forall_mem_cons.mp h
  exact ⟨toNext, toStop, fromAnchor, backToNext⟩

section Pass

variable {choice : Nat → α → α → List α → Planning σ (Option (Candidate α))}

/-- Every choice at an anchor leaves the legs of all candidates of the window marked. -/
structure MarksWindows (Q : α → α → σ → Prop) (lookahead : Nat)
    (choice : Nat → α → α → List α → Planning σ (Option (Candidate α))) : Prop where
  within : ChoosesWithin lookahead choice
  marked : ∀ {anchors anchor next rest world chosen world'},
    (choice anchors anchor next rest).outcome world = (.ok chosen, world') →
    ∀ c ∈ candidates (lookahead - 1) rest, Marked Q anchor next c world'
  stays : ∀ anchors anchor next rest x y, Keeps (Q x y) (choice anchors anchor next rest)

theorem passBy_head {anchors budget : Nat} {a : α} {stops : List α} {result : Relocated α}
    (run : (passBy choice anchors budget (a :: stops)).outcome world = (.ok result, world')) :
    ∃ later, result.stops = a :: later := by
  rcases anchors with _ | anchors
  · cases run
    exact ⟨stops, rfl⟩
  rcases budget with _ | budget
  · cases run
    exact ⟨stops, rfl⟩
  rcases stops with _ | ⟨next, rest⟩
  · cases run
    exact ⟨[], rfl⟩
  rw [passBy] at run
  obtain ⟨chosen, _, _, run⟩ := outcome_bind_eq_ok run
  cases chosen <;>
    obtain ⟨later, _, _, done⟩ := outcome_bind_eq_ok run <;>
    cases done <;>
    exact ⟨later.stops, rfl⟩

theorem first_mem_candidates {count : Nat} (wide : 0 < count) (a : α) (rest : List α) :
    (⟨[], a, rest⟩ : Candidate α) ∈ candidates count (a :: rest) := by
  obtain ⟨count, rfl⟩ := Nat.exists_eq_succ_of_ne_zero (Nat.ne_of_gt wide)
  exact List.mem_cons_self ..

namespace MarksWindows

theorem passBy_stays (h : MarksWindows Q lookahead choice) (anchors budget : Nat) (stops : List α)
    (x y : α) : Keeps (Q x y) (passBy choice anchors budget stops) :=
  keeps_iff_inStep.mpr (passBy_inStep h.within
    (fun anchors anchor next rest _ => keeps_iff_inStep.mp (h.stays anchors anchor next rest x y))
    anchors budget stops fun _ _ => True.intro)

/-- The leg from the anchor to the first stop of the rest lasts until the pass is over. -/
theorem chained (h : MarksWindows Q lookahead choice) {anchors budget : Nat} {a : α}
    {stops : List α} {later : Relocated α} (mark : Q anchor a world)
    (passed : (passBy choice anchors budget (a :: stops)).outcome world = (.ok later, world'))
    (chain : later.stops.IsChain fun a b => Q a b world') :
    (anchor :: later.stops).IsChain fun a b => Q a b world' := by
  obtain ⟨tail, head⟩ := passBy_head passed
  rw [head] at chain ⊢
  exact .cons_cons ((h.passBy_stays anchors budget _ anchor a).left mark passed) chain

variable {anchors : Nat} {chosen : Option (Candidate α)}

/-- The leg to the next stop is asked for at the anchor if there is a candidate. -/
theorem toNext_marked (h : MarksWindows Q lookahead choice) (wide : 2 ≤ lookahead)
    (alone : rest = [] → Q anchor next world)
    (chose : (choice anchors anchor next rest).outcome world = (.ok chosen, world')) :
    Q anchor next world' := by
  cases rest with
  | nil => exact (h.stays anchors anchor next [] anchor next).left (alone rfl) chose
  | cons first behind =>
    exact (h.marked chose _ (first_mem_candidates (by omega) first behind)).toNext

/-- If two stops are left behind the anchor, the leg between them is marked: as they are, it leads
to the only candidate. -/
theorem pair_of_stay (h : MarksWindows Q lookahead choice) (wide : 2 ≤ lookahead)
    (chose : (choice anchors anchor next rest).outcome world = (.ok chosen, world')) (a b : α)
    (two : next :: rest = [a, b]) : Q a b world' := by
  obtain ⟨rfl, rfl⟩ := List.cons.inj two
  exact (h.marked chose _ (first_mem_candidates (by omega) b [])).toStop

/-- If the candidate is moved, it leads back from the candidate. -/
theorem pair_of_move (h : MarksWindows Q lookahead choice)
    (chose : (choice anchors anchor next rest).outcome world = (.ok chosen, world'))
    (window : c ∈ candidates (lookahead - 1) rest) (a b : α) (two : c.moved next = [a, b]) :
    Q a b world' := by
  obtain ⟨rfl, alone⟩ := List.cons.inj two
  obtain ⟨rfl, -⟩ := List.cons.inj alone
  exact (h.marked chose c window).backToNext

/-- The legs of the result are marked if the pass has relocations left. Of two stops that make a
route of their own the leg has to be marked before. -/
theorem passBy_marked (h : MarksWindows Q lookahead choice) (wide : 2 ≤ lookahead)
    {anchors budget : Nat} {stops : List α} {result : Relocated α}
    (counted : stops.length = anchors + 1) (pair : ∀ a b, stops = [a, b] → Q a b world)
    (run : (passBy choice anchors budget stops).outcome world = (.ok result, world'))
    (left : result.moves < budget) : result.stops.IsChain fun a b => Q a b world' := by
  induction anchors generalizing budget stops world result with
  | zero =>
    obtain ⟨a, rfl⟩ := List.length_eq_one_iff.mp counted
    cases run
    exact List.IsChain.singleton a
  | succ anchors ih =>
    rcases budget with _ | budget
    · cases left
    rcases stops with _ | ⟨anchor, _ | ⟨next, rest⟩⟩
    · cases counted
    · cases counted
    rw [passBy] at run
    obtain ⟨chosen, world₁, chose, run⟩ := outcome_bind_eq_ok run
    cases chosen with
    | none =>
      obtain ⟨later, world₂, passed, done⟩ := outcome_bind_eq_ok run
      cases done
      have toNext : Q anchor next world₁ :=
        h.toNext_marked wide (fun alone => pair anchor next (by rw [alone])) chose
      exact h.chained toNext passed
        (ih (Nat.succ.inj counted) (h.pair_of_stay wide chose) passed left)
    | some c =>
      have window : c ∈ candidates (lookahead - 1) rest :=
        h.within anchors anchor next rest chose c rfl
      have length : (c.moved next).length = (next :: rest).length :=
        List.Perm.length_eq (moved_perm window)
      obtain ⟨later, world₂, passed, done⟩ := outcome_bind_eq_ok run
      cases done
      exact h.chained (h.marked chose c window).fromAnchor passed
        (ih (length.trans (Nat.succ.inj counted)) (h.pair_of_move chose window) passed
          (Nat.lt_of_succ_lt_succ left))

theorem relocateBy_marked (h : MarksWindows Q lookahead choice) (wide : 2 ≤ lookahead)
    {maxMoves maxStops : Nat} {stops : List α} {result : Relocated α}
    (enough : 3 ≤ stops.length) (short : stops.length ≤ maxStops)
    (run : (relocateBy choice maxMoves maxStops stops).outcome world = (.ok result, world'))
    (left : result.moves < maxMoves) : result.stops.IsChain fun a b => Q a b world' := by
  rw [relocateBy, if_neg (Nat.not_lt.mpr short)] at run
  refine h.passBy_marked wide (by omega) (fun a b two => ?_) run left
  rw [two] at enough
  simp at enough

end MarksWindows

theorem passBy_succeeds {I : σ → Prop}
    (choices : ∀ anchors anchor next rest, Succeeds I (choice anchors anchor next rest))
    (anchors budget : Nat) (stops : List α) : Succeeds I (passBy choice anchors budget stops) := by
  induction anchors generalizing budget stops with
  | zero => exact succeeds_pure _
  | succ anchors ih =>
    rcases budget with _ | budget
    · exact succeeds_pure _
    rcases stops with _ | ⟨anchor, _ | ⟨next, rest⟩⟩
    · exact succeeds_pure _
    · exact succeeds_pure _
    rw [passBy]
    refine (choices anchors anchor next rest).bind fun chosen => ?_
    cases chosen with
    | none => exact (ih (budget + 1) (next :: rest)).bind fun later => succeeds_pure _
    | some c => exact (ih budget (c.moved next)).bind fun later => succeeds_pure _

end Pass

section Scheduled

variable [Add δ] [Sub δ] [Neg δ] [LE δ] [LT δ] [DecidableLE δ] [DecidableLT δ]

theorem marksWindows (marks : Marks duration Q) (schedule : Schedule) (limits : Limits δ) :
    MarksWindows Q limits.lookahead
      fun anchors => chooseUnder (schedule anchors) duration limits where
  within := chooseUnder_choosesWithin schedule duration limits
  marked := by
    intro anchors anchor next rest world chosen world' chose c window
    obtain ⟨deltas, between, surveyed, picked⟩ := outcome_bind_eq_ok chose
    cases picked
    exact marked_of_questions
      (marks.sideBySide_marked (List.mem_map_of_mem window) (delta_asks anchor next c) surveyed)
  stays anchors anchor next rest x y := keeps_iff_inStep.mpr
    (chooseUnder_inStep (marks.inStep x y) (schedule anchors) limits fun _ _ => trivial)

theorem relocateUnder_succeeds {I : σ → Prop} (answered : ∀ a b, Succeeds I (duration a b))
    (schedule : Schedule) (limits : Limits δ) (maxMoves maxStops : Nat) (stops : List α) :
    Succeeds I (relocateUnder schedule duration limits maxMoves maxStops stops) := by
  unfold relocateUnder relocateBy
  split_ifs
  · exact succeeds_pure _
  · refine passBy_succeeds (fun anchors anchor next rest => ?_) _ maxMoves stops
    exact (Dialogue.sideBySide_succeeds answered _ _).bind fun deltas => succeeds_pure _

end Scheduled

section Log

/-- The durations, each leg noted in a log beside the world when it is asked for. -/
def logged (duration : α → α → Planning σ δ) (a b : α) : Planning (List (α × α) × σ) δ :=
  .ofOutcome fun (log, world) =>
    let (answer, world) := (duration a b).outcome world
    (answer, (log ++ [(a, b)], world))

theorem logged_inStep (duration : α → α → Planning σ δ) (a b : α) :
    InStep (fun p world => p.2 = world) (logged duration a b) (duration a b) := by
  rintro ⟨log, world⟩ world' rfl
  exact ⟨rfl, rfl⟩

theorem logged_marks (duration : α → α → Planning σ δ) :
    Marks (logged duration) fun a b p => (a, b) ∈ p.1 where
  left := by
    rintro a b ⟨log, world⟩ d world' run
    obtain rfl := congrArg Prod.snd run
    exact List.mem_append_right log (List.mem_singleton.mpr rfl)
  stays := fun a b x y ⟨log, world⟩ noted => List.mem_append_left _ noted

variable [Add δ] [Sub δ] [Neg δ] [LE δ] [LT δ] [DecidableLE δ] [DecidableLT δ]

theorem exists_log {schedule : Schedule} {limits : Limits δ} {maxMoves maxStops : Nat}
    {stops : List α} {result : Relocated α}
    (run : (relocateUnder schedule duration limits maxMoves maxStops stops).outcome world =
      (.ok result, world')) :
    ∃ log, (relocateUnder schedule (logged duration) limits maxMoves maxStops stops).outcome
      ([], world) = (.ok result, (log, world')) := by
  have step : InStep (fun p world => p.2 = world)
      (relocateUnder schedule (logged duration) limits maxMoves maxStops stops)
      (relocateUnder schedule duration limits maxMoves maxStops stops) :=
    relocateUnder_inStep (fun a b (_ : True) (_ : True) => logged_inStep duration a b) schedule
      limits maxMoves maxStops fun _ _ => trivial
  obtain ⟨answer, left⟩ := step (rfl : (([] : List (α × α)), world).2 = world)
  rw [run] at answer left
  exact ⟨_, Prod.ext answer (Prod.ext rfl left)⟩

end Log

end ServiceRoute.Relocation
