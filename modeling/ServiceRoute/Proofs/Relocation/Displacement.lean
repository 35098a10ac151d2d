import ServiceRoute.Proofs.Relocation.Surveys

/-!
# How far a pass moves a stop

The pulls of a pass are told apart by their anchors, which only move on. So the pass keeps the
first stop, pulls no stop twice, and lets no stop get ahead by more than its window or fall back by
more than a place for every pull.
-/

namespace ServiceRoute.Relocation

open Planning

variable {σ α δ : Type}
variable [Add δ] [Sub δ] [Neg δ] [LE δ] [LT δ] [DecidableLE δ] [DecidableLT δ]

/-- No position that relocation looks at is out of range, however wide the window is. Whenever it
succeeds, it has rearranged the stops behind the first one by as many pulls as it counts, within
its budget. The stop from a position `k` stands at `carried pulls k` in the end: it was pulled once
at most, is ahead by less than the lookahead, and fell back by one place at most for every pull. -/
theorem relocate_within_window (duration : α → α → Planning σ δ) (limits : Limits δ)
    {top maxMoves maxStops : Nat} (fits : maxStops ≤ top) (stops : List α) :
    Surveyed.relocated limits <$> relocateAt duration limits top maxMoves maxStops stops =
      .lift (relocate duration limits maxMoves maxStops stops) ∧
    ∀ world result world',
      (relocate duration limits maxMoves maxStops stops).outcome world = (.ok result, world') →
      result.stops.Perm stops ∧ result.stops.head? = stops.head? ∧
      result.moves ≤ maxMoves ∧ result.moves ≤ stops.length - 2 ∧
      (result.moves = 0 → result.stops = stops) ∧
      ∃ surveyed : Surveyed α δ,
        (relocateAt duration limits top maxMoves maxStops stops).run.outcome world =
          (.ok (some surveyed), world') ∧
        surveyed.relocated limits = result ∧
        let pulls := surveyed.pulls limits
        afterPulls? pulls stops = some result.stops ∧ Function.Injective (carried pulls) ∧
        ∀ k, result.stops[carried pulls k]? = stops[k]? ∧ timesPulled pulls k ≤ 1 ∧
          k ≤ carried pulls k + (limits.lookahead - 1) ∧ carried pulls k ≤ k + result.moves := by
  refine ⟨relocateAt_eq duration limits fits stops, fun world result world' run => ?_⟩
  have rearranged := relocate_ensures_perm duration limits maxMoves maxStops stops run
  obtain ⟨surveyed, made, rfl, passed⟩ := exists_surveyed fits run
  have applied := passed.afterPulls
  have advancing := passed.advancing (anchorsOf_ascending maxStops stops)
  have stands := getElem?_carried advancing.forward applied
  refine ⟨rearranged, ?_, passed.length_pulls_le,
    relocate_moves_le duration limits maxMoves maxStops stops run, fun unmoved => ?_,
    surveyed, made, rfl, applied, carried_injective advancing.forward, fun k => ?_⟩
  · have first := stands 0
    rwa [advancing.carried_zero, ← List.head?_eq_getElem?, ← List.head?_eq_getElem?] at first
  · rw [List.eq_nil_of_length_eq_zero unmoved] at applied
    exact (Option.some.inj applied).symm
  · exact ⟨stands k, advancing.timesPulled_le_one k, advancing.le_carried_add k,
      advancing.carried_le k⟩

/-! Places on a line whose durations are counted as they are asked for, and a window as wide as
positions go. -/

namespace Line

def duration (a b : Int) : Planning Nat Int :=
  .ofOutcome fun asked => (.ok (a - b).natAbs, asked + 1)

def limits : Limits Int :=
  ⟨2 ^ 64 - 1, 5⟩

def stops : List Int :=
  [0, 300, 600, 100, 500]

theorem outcome_relocate : (relocate duration limits 10 10 stops).outcome 0 =
    (.ok ⟨[0, 100, 300, 500, 600], 2⟩, 30) := by
  rfl

end Line

theorem relocate_within_window_line : 10 ≤ 2 ^ 64 - 1 ∧
    (relocate Line.duration Line.limits 10 10 Line.stops).outcome 0 =
      (.ok ⟨[0, 100, 300, 500, 600], 2⟩, 30) ∧
    ∃ pulls : List Pull, pulls.length = 2 ∧
      afterPulls? pulls Line.stops = some [0, 100, 300, 500, 600] ∧
      ∀ k, timesPulled pulls k ≤ 1 ∧ carried pulls k ≤ k + 2 := by
  have fits : 10 ≤ 2 ^ 64 - 1 := by decide
  obtain ⟨-, answers⟩ := relocate_within_window Line.duration Line.limits fits Line.stops
  obtain ⟨-, -, -, -, -, surveyed, -, relocated, applied, -, stands⟩ :=
    answers 0 _ _ Line.outcome_relocate
  have counted : (surveyed.pulls Line.limits).length = 2 := congrArg Relocated.moves relocated
  exact ⟨fits, Line.outcome_relocate, surveyed.pulls Line.limits, counted, applied,
    fun k => ⟨(stands k).2.1, (stands k).2.2.2⟩⟩

end ServiceRoute.Relocation
