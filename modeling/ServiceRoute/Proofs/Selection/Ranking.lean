import Mathlib.Data.Prod.Lex
import ServiceRoute.Proofs.Number.Extremes
import ServiceRoute.Proofs.Selection.OverrideSet
import ServiceRoute.Selection.Ranking

/-!
# The ranking of a set of stops

A ranking lists every stop of a set once, scored from the overrides and the greatest risk of the
set, one before the other as their scores, weights and ids have it. There is exactly one, and
`ranked` finds it.
-/

namespace ServiceRoute.Selection

open Number

/-- One candidate is ranked before the other: by its greater score, with equal scores by its
greater hotspot weight, then by its greater urgency, then by its lesser id. -/
def Before (a b : Candidate) : Prop :=
  b.score.rank < a.score.rank ∨ b.score.rank = a.score.rank ∧
    (rank b.stop.scores.hotspot < rank a.stop.scores.hotspot ∨
      rank b.stop.scores.hotspot = rank a.stop.scores.hotspot ∧
      (rank b.stop.scores.urgency < rank a.stop.scores.urgency ∨
        rank b.stop.scores.urgency = rank a.stop.scores.urgency ∧ a.stop.id < b.stop.id))

/-- The place of a candidate in the ranking of all candidates. -/
def place (c : Candidate) : Int ×ₗ Int ×ₗ Int ×ₗ StopId :=
  toLex (-c.score.rank, toLex (-rank c.stop.scores.hotspot,
    toLex (-rank c.stop.scores.urgency, c.stop.id)))

theorem before_iff {a b : Candidate} : Before a b ↔ place a < place b := by
  simp only [Before, place, Prod.Lex.toLex_lt_toLex, Int.neg_lt_neg_iff, neg_inj,
    @eq_comm _ b.score.rank, @eq_comm _ (rank b.stop.scores.hotspot),
    @eq_comm _ (rank b.stop.scores.urgency)]

theorem Before.asymm {a b : Candidate} (ab : Before a b) : ¬ Before b a := by
  rw [before_iff] at ab ⊢
  exact lt_asymm ab

instance : Std.Irrefl Before :=
  ⟨fun _ before => before.asymm before⟩

instance : Std.Antisymm Before :=
  ⟨fun _ _ ab ba => absurd ba ab.asymm⟩

theorem compareCandidates_eq_lt {a b : Candidate} :
    compareCandidates a b = .lt ↔ Before a b := by
  simp only [compareCandidates, Score.compare, compareTotal, Ordering.then_eq_lt,
    compare_lt_iff_lt, compare_eq_iff_eq, Before]

theorem compareCandidates_eq_eq {a b : Candidate} :
    compareCandidates a b = .eq ↔ place a = place b := by
  simp only [compareCandidates, Score.compare, compareTotal, Ordering.then_eq_eq,
    compare_eq_iff_eq, place, toLex_inj, Prod.mk.injEq, neg_inj, @eq_comm _ b.score.rank,
    @eq_comm _ (rank b.stop.scores.hotspot), @eq_comm _ (rank b.stop.scores.urgency)]

theorem isLE_compareCandidates {a b : Candidate} :
    (compareCandidates a b).isLE = true ↔ place a ≤ place b := by
  rw [Ordering.isLE_iff_eq_lt_or_eq_eq, compareCandidates_eq_lt, compareCandidates_eq_eq,
    before_iff, le_iff_lt_or_eq]

theorem place_pairwise_ranked (set : OverrideSet) (stops : List Stop) :
    (ranked set stops).Pairwise fun a b => place a ≤ place b := by
  have ordered : (ranked set stops).Pairwise fun a b => (compareCandidates a b).isLE = true := by
    refine List.pairwise_mergeSort (fun a b c ab bc => ?_) (fun a b => ?_) _
    · rw [isLE_compareCandidates] at ab bc ⊢
      exact le_trans ab bc
    · rw [Bool.or_eq_true, isLE_compareCandidates, isLE_compareCandidates]
      exact le_total _ _
  exact ordered.imp fun h => isLE_compareCandidates.mp h

/-- The greatest of zero and the numbers among these risks. -/
structure IsGreatestRisk (risky : Float → Prop) (top : Float) : Prop where
  attained : top = 0 ∨ risky top
  number : top.isNaN = false
  greatest : ∀ r, (r = 0 ∨ risky r) → r.isNaN = false → rank r ≤ rank top

theorem IsGreatestRisk.unique {risky : Float → Prop} {top top' : Float}
    (h : IsGreatestRisk risky top) (h' : IsGreatestRisk risky top') : top = top' :=
  rank_injective (le_antisymm (h'.greatest top h.attained h.number)
    (h.greatest top' h'.attained h'.number))

theorem isGreatestRisk_greatestRisk (stops : List Stop) :
    IsGreatestRisk (fun r => ∃ s ∈ stops, s.scores.combined = r) (greatestRisk stops) := by
  have among : greatestRisk stops ∈ 0 :: stops.map (·.scores.combined) :=
    extreme_greater.foldl_mem
  have front : ∀ r ∈ 0 :: stops.map (·.scores.combined),
      standing (fun r => -r) (greatestRisk stops) ≤ standing (fun r => -r) r :=
    extreme_greater.foldl_le
  have zero : (0 : Float).isNaN = false := by decide +kernel
  have number : (greatestRisk stops).isNaN = false := by
    have behind_zero := front 0 (by simp)
    refine Bool.eq_false_iff.mpr fun nan => ?_
    rw [standing_of_nan nan, standing_of_number zero, top_le_iff] at behind_zero
    exact WithTop.coe_ne_top behind_zero
  refine ⟨?_, number, fun r hr numeric => ?_⟩
  · simpa using among
  · have behind := (standing_le number numeric).mp (front r (by simpa using hr))
    exact Int.neg_le_neg_iff.mp behind

/-- The score a stop is ranked by, `top` being the greatest risk of the set. -/
def scoreOf (pool : String) (overrides : List Override) (top : Float) (s : Stop) : Score :=
  let own := Score.ofFloat s.scores.combined + bumped pool overrides s.id
  if Named pool overrides .forceInclude s.id then own + .ofFloat (top + 1000) else own

theorem effectiveScore_forPool (pool : String) (overrides : List Override) (top : Float)
    (s : Stop) :
    effectiveScore (.forPool pool overrides) (top + inclusionMargin) s =
      scoreOf pool overrides top s := by
  simp only [effectiveScore, scoreOf, OverrideSet.bump_forPool, OverrideSet.mem_included]
  rfl

/-- The stops of a set in their order, each once and with its score. -/
structure IsRanking (pool : String) (overrides : List Override) (eligible : Stop → Prop)
    (order : List Candidate) : Prop where
  complete : ∀ s, s ∈ order.map (·.stop) ↔ eligible s
  distinct : (order.map (·.stop.id)).Nodup
  scored : ∃ top, IsGreatestRisk (fun r => ∃ s, eligible s ∧ s.scores.combined = r) top ∧
    ∀ c ∈ order, c.score = scoreOf pool overrides top c.stop
  ordered : order.Pairwise Before

section Rankings

variable {pool : String} {overrides : List Override} {eligible : Stop → Prop}

theorem IsRanking.mem_iff {order : List Candidate}
    (h : IsRanking pool overrides eligible order) {top : Float}
    (greatest : IsGreatestRisk (fun r => ∃ s, eligible s ∧ s.scores.combined = r) top)
    {c : Candidate} :
    c ∈ order ↔ eligible c.stop ∧ c.score = scoreOf pool overrides top c.stop := by
  obtain ⟨top', greatest', scores⟩ := h.scored
  obtain rfl := greatest.unique greatest'
  constructor
  · intro hc
    exact ⟨(h.complete _).mp (List.mem_map_of_mem hc), scores c hc⟩
  · rintro ⟨hc, score⟩
    obtain ⟨d, hd, same⟩ := List.mem_map.mp ((h.complete _).mpr hc)
    have score' := scores d hd
    rw [same, ← score] at score'
    have equal : d = c := congrArg₂ Candidate.mk same score'
    exact equal ▸ hd

/-- There is one ranking of a set. -/
theorem IsRanking.unique {order order' : List Candidate}
    (h : IsRanking pool overrides eligible order)
    (h' : IsRanking pool overrides eligible order') : order = order' := by
  obtain ⟨top, greatest, -⟩ := h.scored
  apply h.ordered.eq_of_mem_iff h'.ordered
  intro c
  rw [h.mem_iff greatest, h'.mem_iff greatest]

theorem isRanking_ranked {stops : List Stop} (distinct : (stops.map (·.id)).Nodup)
    (complete : ∀ s, s ∈ stops ↔ eligible s) :
    IsRanking pool overrides eligible (ranked (.forPool pool overrides) stops) := by
  have perm : (ranked (.forPool pool overrides) stops).Perm
      (scored (.forPool pool overrides) stops) := List.mergeSort_perm _ _
  have listed : (scored (.forPool pool overrides) stops).map (·.stop) = stops := by
    rw [scored, List.map_map]
    exact List.map_id stops
  have ids : ((ranked (.forPool pool overrides) stops).map (·.stop.id)).Nodup := by
    refine (perm.map _).nodup_iff.mpr ?_
    rw [scored, List.map_map]
    exact distinct
  refine ⟨fun s => ?_, ids, ⟨greatestRisk stops, ?_, fun c hc => ?_⟩, ?_⟩
  · rw [(perm.map _).mem_iff, listed, complete]
  · simpa only [complete] using isGreatestRisk_greatestRisk stops
  · obtain ⟨s, _, rfl⟩ := List.mem_map.mp (perm.mem_iff.mp hc)
    exact effectiveScore_forPool pool overrides _ s
  · have apart := List.pairwise_map.mp (List.nodup_iff_pairwise_ne.mp ids)
    refine (place_pairwise_ranked _ stops).imp₂ (fun a b le ne => ?_) apart
    refine before_iff.mpr (lt_of_le_of_ne le fun same => ne ?_)
    simp only [place, toLex_inj, Prod.mk.injEq] at same
    exact same.2.2.2

end Rankings

end ServiceRoute.Selection
