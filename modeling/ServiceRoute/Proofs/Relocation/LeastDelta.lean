import Mathlib.Data.List.DropRight
import ServiceRoute.Proofs.Number.Comparison
import ServiceRoute.Proofs.Relocation.Surveys

/-!
# The least delta

A pass keeps the candidate with the least delta, the first one of several. A delta that is no
number is at most nothing, and nothing is at most it: it ousts the candidate kept so far, and the
next one ousts it. So only the candidates behind the last such delta are heeded. Among them the
first one with the least delta is kept, and if it does not save enough, none of them does.
-/

namespace ServiceRoute.Relocation

open Planning

variable {σ α ι : Type} {deltas : List (ι × Float)} {entry kept : ι × Float}

/-- The entries behind the last one that is no number. -/
def heeded (deltas : List (ι × Float)) : List (ι × Float) :=
  deltas.rtakeWhile fun entry => !entry.2.isNaN

theorem number_of_mem_heeded (h : entry ∈ heeded deltas) : entry.2.isNaN = false := by
  simpa using List.mem_rtakeWhile_imp h

theorem heeded_of_numbers (h : ∀ entry ∈ deltas, entry.2.isNaN = false) :
    heeded deltas = deltas :=
  List.rtakeWhile_eq_self_iff.mpr fun entry hentry => by rw [h entry hentry, Bool.not_false]

theorem heeded_concat_of_number (number : entry.2.isNaN = false) (deltas : List (ι × Float)) :
    heeded (deltas ++ [entry]) = heeded deltas ++ [entry] :=
  List.rtakeWhile_concat_pos _ _ _ (by rw [number, Bool.not_false])

theorem heeded_concat_of_nan (nan : entry.2.isNaN = true) (deltas : List (ι × Float)) :
    heeded (deltas ++ [entry]) = [] :=
  List.rtakeWhile_concat_neg _ _ _ (by rw [nan]; decide)

/-- The entry has the least delta, and it is the first one that has it. -/
def FirstLeast (deltas : List (ι × Float)) (entry : ι × Float) : Prop :=
  ∃ earlier later, deltas = earlier ++ entry :: later ∧
    (∀ e ∈ earlier, entry.2 < e.2) ∧ ∀ e ∈ later, entry.2 ≤ e.2

namespace FirstLeast

theorem mem (h : FirstLeast deltas entry) : entry ∈ deltas := by
  obtain ⟨earlier, later, rfl, -, -⟩ := h
  simp

theorem le_or_eq (h : FirstLeast deltas entry) {e : ι × Float} (he : e ∈ deltas) :
    entry.2 ≤ e.2 ∨ e = entry := by
  obtain ⟨earlier, later, rfl, before, behind⟩ := h
  rcases List.mem_append.mp he with he | he
  · exact Or.inl (Number.le_of_lt (before e he))
  · rcases List.mem_cons.mp he with he | he
    · exact Or.inr he
    · exact Or.inl (behind e he)

theorem concat_of_le (h : FirstLeast deltas kept) (stays : kept.2 ≤ entry.2) :
    FirstLeast (deltas ++ [entry]) kept := by
  obtain ⟨earlier, later, rfl, before, behind⟩ := h
  refine ⟨earlier, later ++ [entry], by simp, before, fun e he => ?_⟩
  rcases List.mem_append.mp he with he | he
  · exact behind e he
  · obtain rfl := List.mem_singleton.mp he
    exact stays

theorem concat_of_lt (h : FirstLeast deltas kept) (ousts : entry.2 < kept.2) :
    FirstLeast (deltas ++ [entry]) entry := by
  refine ⟨deltas, [], rfl, fun e he => ?_, by simp⟩
  rcases h.le_or_eq he with longer | rfl
  · exact Number.lt_of_lt_of_le ousts longer
  · exact ousts

end FirstLeast

/-- What is kept of these entries: nothing, the last one if that is no number, or the first of the
least ones among those that are heeded. -/
inductive Kept : List (ι × Float) → Option (ι × Float) → Prop
  | nothing : Kept [] none
  | last {deltas : List (ι × Float)} {entry : ι × Float} (nan : entry.2.isNaN = true) :
      Kept (deltas ++ [entry]) (some entry)
  | least {deltas : List (ι × Float)} {entry : ι × Float}
      (first : FirstLeast (heeded deltas) entry) : Kept deltas (some entry)

theorem keepLeast_of_nan (nan : kept.2.isNaN = true ∨ entry.2.isNaN = true) :
    keepLeast (some kept) entry = some entry := by
  refine if_neg fun le => ?_
  obtain ⟨kept_number, number⟩ := Number.isNaN_eq_false_of_le le
  rw [kept_number, number] at nan
  simp at nan

theorem Kept.concat {best : Option (ι × Float)} (h : Kept deltas best) (entry : ι × Float) :
    Kept (deltas ++ [entry]) (keepLeast best entry) := by
  cases isnan : entry.2.isNaN with
  | true =>
    have ousts : keepLeast best entry = some entry := by
      cases best with
      | none => rfl
      | some kept => exact keepLeast_of_nan (Or.inr isnan)
    rw [ousts]
    exact .last isnan
  | false =>
    have extended := heeded_concat_of_number isnan deltas
    cases h with
    | nothing => exact .least ⟨[], [], extended, by simp, by simp⟩
    | last nan =>
      rw [keepLeast_of_nan (Or.inl nan)]
      rw [heeded_concat_of_nan nan] at extended
      exact .least ⟨[], [], extended, by simp, by simp⟩
    | @least _ kept first =>
      have number := number_of_mem_heeded first.mem
      unfold keepLeast
      dsimp only
      split_ifs with stays
      · exact .least (extended ▸ first.concat_of_le stays)
      · exact .least (extended ▸ first.concat_of_lt (Number.lt_of_not_le number isnan stays))

theorem kept_foldl (deltas : List (ι × Float)) : Kept deltas (deltas.foldl keepLeast none) := by
  induction deltas using List.reverseRecOn with
  | nil => exact .nothing
  | append_singleton deltas entry ih =>
    rw [List.foldl_concat]
    exact ih.concat entry

/-- What is picked is the first of the least entries among those that are heeded. -/
theorem firstLeast_of_pick {limits : Limits Float} {i : ι} (h : pick limits deltas = some i) :
    ∃ saving, FirstLeast (heeded deltas) (i, saving) ∧ saving < -limits.minImprovement := by
  have kept := kept_foldl deltas
  unfold pick at h
  cases best : deltas.foldl keepLeast none with
  | none => simp [best] at h
  | some entry =>
    rw [best] at h kept
    dsimp only at h
    split_ifs at h with saves
    obtain rfl := Option.some.inj h
    cases kept with
    | last nan =>
      have number := (Number.isNaN_eq_false_of_le (Number.le_of_lt saves)).1
      rw [nan] at number
      cases number
    | least first => exact ⟨entry.2, first, saves⟩

theorem isSome_pick_iff {limits : Limits Float} :
    (pick limits deltas).isSome ↔ ∃ entry ∈ heeded deltas, entry.2 < -limits.minImprovement := by
  constructor
  · intro picked
    obtain ⟨i, hi⟩ := Option.isSome_iff_exists.mp picked
    obtain ⟨saving, first, saves⟩ := firstLeast_of_pick hi
    exact ⟨_, first.mem, saves⟩
  · rintro ⟨e, he, saves⟩
    have kept := kept_foldl deltas
    cases best : deltas.foldl keepLeast none with
    | none =>
      rw [best] at kept
      cases kept
      cases he
    | some entry =>
      rw [best] at kept
      have enough : entry.2 < -limits.minImprovement := by
        cases kept with
        | last nan =>
          rw [heeded_concat_of_nan nan] at he
          cases he
        | least first =>
          rcases first.le_or_eq he with longer | rfl
          · exact Number.lt_of_le_of_lt longer saves
          · exact saves
      simp only [pick, best, if_pos enough, Option.isSome_some]

/-- A successful pass surveys its anchors from left to right, all of them unless its relocations
are used up, each on the route that the relocations before it have led to. At every one of them it
relocates a stop exactly if a delta that is heeded is below the negative limit, and then the first
stop with the least of these. Where all deltas of the window are numbers, all of them are heeded. -/
theorem relocate_takes_least (duration : α → α → Planning σ Float) (limits : Limits Float)
    {top maxMoves maxStops : Nat} (fits : maxStops ≤ top) {stops : List α}
    (short : stops.length ≤ maxStops) {world world' : σ} {result : Relocated α}
    (run : (relocate duration limits maxMoves maxStops stops).outcome world =
      (.ok result, world')) :
    ∃ surveyed : Surveyed α Float,
      (relocateAt duration limits top maxMoves maxStops stops).run.outcome world =
        (.ok (some surveyed), world') ∧
      surveyed.relocated limits = result ∧
      afterPulls? (surveyed.pulls limits) stops = some result.stops ∧
      surveyed.surveys.map (·.anchor) <+: List.range (stops.length - 1) ∧
      (result.moves < maxMoves →
        surveyed.surveys.map (·.anchor) = List.range (stops.length - 1)) ∧
      ∀ earlier survey later, surveyed.surveys = earlier ++ survey :: later →
        (∃ route, afterPulls? (earlier.filterMap (·.pull? limits)) stops = some route ∧
          survey.Made duration limits top route) ∧
        survey.deltas.map Prod.fst =
          windowAt top limits.lookahead stops.length survey.anchor ∧
        ((survey.pull? limits).isSome ↔
          ∃ entry ∈ heeded survey.deltas, entry.2 < -limits.minImprovement) ∧
        (∀ pull, survey.pull? limits = some pull → pull.anchor = survey.anchor ∧
          ∃ saving, FirstLeast (heeded survey.deltas) (pull.source, saving)) ∧
        ((∀ entry ∈ survey.deltas, entry.2.isNaN = false) →
          heeded survey.deltas = survey.deltas) := by
  obtain ⟨surveyed, made, rfl, passed⟩ := exists_surveyed fits run
  rw [anchorsOf, if_neg (Nat.not_lt.mpr short)] at passed
  refine ⟨surveyed, made, rfl, passed.afterPulls, passed.anchors_prefix, passed.anchors_eq,
    fun earlier survey later split => ?_⟩
  obtain ⟨route, reached, surveyed_route⟩ := passed.made split
  have positions := surveyed_route.positions
  rw [length_afterPulls? reached] at positions
  refine ⟨⟨route, reached, surveyed_route⟩, positions, ?_, fun pull leads => ?_,
    heeded_of_numbers⟩
  · rw [Survey.pull?, Option.isSome_map]
    exact isSome_pick_iff
  · obtain ⟨source, picked, rfl⟩ := Option.map_eq_some_iff.mp leads
    obtain ⟨saving, first, -⟩ := firstLeast_of_pick picked
    exact ⟨rfl, saving, first⟩

/-! Three stops behind a start. It is not known how long the way from the start to the last one
takes, and the one between it and the first is a shortcut. -/

namespace Shortcut

def duration (a b : Nat) : Planning Unit Float :=
  pure (if (a, b) = (0, 3) then .nan else if (a, b) = (0, 2) ∨ (a, b) = (2, 1) then 10 else 100)

def limits : Limits Float :=
  ⟨8, 5⟩

theorem outcome_relocate : (relocate duration limits 30 150 [0, 1, 3, 2]).outcome () =
    (.ok ⟨[0, 2, 1, 3], 1⟩, ()) := by
  decide

theorem outcome_surveyAt : (surveyAt duration limits 150 [0, 1, 2, 3] 0).run.outcome () =
    (.ok (some ⟨0, [(2, -180), (3, .nan)]⟩), ()) := by
  decide

end Shortcut

theorem relocate_takes_least_shortcut : 150 ≤ 150 ∧ [0, 1, 3, 2].length ≤ 150 ∧
    (relocate Shortcut.duration Shortcut.limits 30 150 [0, 1, 3, 2]).outcome () =
      (.ok ⟨[0, 2, 1, 3], 1⟩, ()) ∧
    ∃ surveyed : Surveyed Nat Float,
      surveyed.surveys.map (·.anchor) = [0, 1, 2] ∧
      afterPulls? (surveyed.pulls Shortcut.limits) [0, 1, 3, 2] = some [0, 2, 1, 3] := by
  have fits : 150 ≤ 150 := by decide
  have short : [0, 1, 3, 2].length ≤ 150 := by decide
  obtain ⟨surveyed, -, -, reached, -, surveys, -⟩ :=
    relocate_takes_least Shortcut.duration Shortcut.limits fits short Shortcut.outcome_relocate
  have anchors : surveyed.surveys.map (·.anchor) = [0, 1, 2] := surveys (by decide)
  exact ⟨fits, short, Shortcut.outcome_relocate, surveyed, anchors, reached⟩

/-- A relocation that saves enough is passed over because the candidate behind it has a delta that
is no number. -/
theorem relocate_misses_least :
    (surveyAt Shortcut.duration Shortcut.limits 150 [0, 1, 2, 3] 0).run.outcome () =
      (.ok (some ⟨0, [(2, -180), (3, .nan)]⟩), ()) ∧
    (-180 : Float) < -Shortcut.limits.minImprovement ∧
    (relocate Shortcut.duration Shortcut.limits 30 150 [0, 1, 2, 3]).outcome () =
      (.ok ⟨[0, 1, 2, 3], 0⟩, ()) :=
  ⟨Shortcut.outcome_surveyAt, by decide, by decide⟩

end ServiceRoute.Relocation
