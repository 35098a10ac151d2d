import ServiceRoute.Proofs.Number.Addition
import ServiceRoute.Proofs.Selection.Candidates

/-!
# Included stops

An included stop is worth the greatest risk of the set and a thousand beyond what it is worth
without its inclusion. That puts it before a stop that is not included as long as it is not worth
less than nothing, the other stop is not bumped beyond the greatest risk, and a thousand counts
beside that risk.
-/

namespace ServiceRoute.Selection

open Number Planning

/-- What a stop is worth without its inclusion: its risk and its bumps. -/
def ownScore (pool : String) (overrides : List Override) (s : Stop) : Score :=
  Score.ofFloat s.scores.combined + bumped pool overrides s.id

namespace Score

theorem not_cancelled {a : Score} (h : 0 ≤ a.rank) : a.cancelled = false := by
  by_contra cancelled
  rw [Bool.not_eq_false] at cancelled
  rw [rank, if_pos cancelled] at h
  omega

theorem rank_le_rank_add {own : Score} {bonus : Float} (worth : 0 ≤ own.rank)
    (number : bonus.isNaN = false) (positive : 0 ≤ Number.rank bonus) :
    Number.rank bonus ≤ (own + ofFloat bonus).rank := by
  obtain ⟨value, cancelled⟩ := own
  obtain rfl : cancelled = false := not_cancelled worth
  change 0 ≤ Number.rank value at worth
  show _ ≤ (Score.mk (value + bonus) (if value.isNaN then false else if bonus.isNaN then false
    else (value + bonus).isNaN)).rank
  by_cases nan : value.isNaN = true
  · rw [nan, add_of_isNaN nan]
    exact (rank_lt_of_isNaN number nan).le
  · rw [Bool.not_eq_true] at nan
    obtain ⟨value_positive, -⟩ := notNegative_unpack nan worth
    obtain ⟨bonus_positive, -⟩ := notNegative_unpack number positive
    rw [nan, number, isNaN_add value_positive bonus_positive]
    exact Number.rank_le_rank_add nan number worth positive

end Score

section Scores

variable {pool : String} {overrides : List Override} {eligible : Stop → Prop} {top : Float}

theorem rank_nonneg_of_isGreatestRisk (h : IsGreatestRisk (fun r => ∃ s, eligible s ∧
    s.scores.combined = r) top) : 0 ≤ rank top := by
  have zero : (0 : Float).isNaN = false := by decide
  have least : rank (0 : Float) = 0 := by decide
  rw [← least]
  exact h.greatest 0 (Or.inl rfl) zero

/-- An included stop that is worth something outranks a stop that is not included and not bumped
beyond the greatest risk. -/
theorem rank_scoreOf_lt {s t : Stop} (number : top.isNaN = false) (positive : 0 ≤ rank top)
    (scale : rank top < rank 4611686018427387904)
    (included : Named pool overrides .forceInclude s.id)
    (worth : 0 ≤ (ownScore pool overrides s).rank)
    (other : ¬ Named pool overrides .forceInclude t.id)
    (ordinary : (ownScore pool overrides t).rank ≤ rank top) :
    (scoreOf pool overrides top t).rank < (scoreOf pool overrides top s).rank := by
  have beyond : rank top < rank (top + 1000) := rank_lt_rank_add_thousand number positive scale
  have bonus : (top + 1000).isNaN = false := by
    obtain ⟨top_positive, -⟩ := notNegative_unpack number positive
    exact isNaN_add top_positive notNegative_thousand
  calc (scoreOf pool overrides top t).rank
      = (ownScore pool overrides t).rank := by rw [scoreOf, if_neg other, ownScore]
    _ ≤ rank top := ordinary
    _ < rank (top + 1000) := beyond
    _ ≤ (ownScore pool overrides s + .ofFloat (top + 1000)).rank :=
        Score.rank_le_rank_add worth bonus (positive.trans beyond.le)
    _ = (scoreOf pool overrides top s).rank := by rw [scoreOf, if_pos included, ownScore]

theorem rank_ownScore_le_of_unbumped (h : IsGreatestRisk (fun r => ∃ s, eligible s ∧
    s.scores.combined = r) top) {s : Stop} (hs : eligible s)
    (number : s.scores.combined.isNaN = false)
    (unbumped : ¬ Named pool overrides .priorityBump s.id) :
    (ownScore pool overrides s).rank ≤ rank top := by
  have zero : (0 : Float).isNaN = false := by decide
  have least := h.greatest 0 (Or.inl rfl) zero
  have bound := h.greatest s.scores.combined (Or.inr ⟨s, hs, rfl⟩) number
  rw [ownScore, OverrideSet.bumped_of_not_named unbumped]
  generalize s.scores.combined = x at number bound
  show (Score.mk (x + 0) (if x.isNaN then false else if (0 : Float).isNaN then false
    else (x + 0).isNaN)).rank ≤ _
  rw [number, zero]
  by_cases unsigned : (x == 0) = true → x = 0
  · rw [add_zero unsigned, number]
    exact bound
  · -- A negative zero loses its sign.
    simp only [Classical.not_imp, Float.beq_iff_ne_nan_and_eq] at unsigned
    obtain ⟨⟨_, _, same⟩, signed⟩ := unsigned
    have sum : (-0 : Float) + 0 = 0 := by decide
    rcases same with rfl | ⟨rfl, _⟩ | ⟨rfl, _⟩
    · exact absurd rfl signed
    · exact absurd rfl signed
    · rw [sum, zero]
      exact least

end Scores

theorem pair_sublist_take {α : Type} {R : α → α → Prop} {xs : List α} {n : Nat} {a b : α}
    (ordered : xs.Pairwise R) (ha : a ∈ xs) (hb : b ∈ xs.take n) (different : a ≠ b)
    (first : ¬ R b a) : [a, b].Sublist (xs.take n) := by
  obtain ⟨before, behind, front⟩ := List.append_of_mem hb
  have whole : xs = before ++ b :: (behind ++ xs.drop n) := by
    conv_lhs => rw [← List.take_append_drop n xs, front]
    simp
  rw [whole, List.pairwise_append, List.pairwise_cons] at ordered
  rw [whole, List.mem_append, List.mem_cons] at ha
  rcases ha with earlier | same | later
  · rw [front]
    exact (List.singleton_sublist.mpr earlier).append (List.singleton_sublist.mpr (by simp))
  · exact absurd same different
  · exact absurd (ordered.2.1.1 a later) first

/-- An included stop that is worth something, in a set whose greatest risk is below the scale at
which a thousand is lost, comes before every selected stop that is not included and is not bumped
beyond that risk, with a greater score. In particular it is selected itself. -/
theorem included_first {σ : Type} {catalog : RiskCatalog σ} {pool : String}
    {overrides : List Override} {options : SelectionOptions} {world world' world'' : σ}
    {top found : List Stop} {chosen : List Candidate}
    (fetched : (catalog.topStops pool (max options.rawLimit options.limit)).outcome world =
      (.ok top, world'))
    (lookedUp : (lookUp catalog pool (wanted pool overrides top)).outcome world' =
      (.ok found, world''))
    (answer : ((candidates catalog pool overrides options).outcome world).1 = .ok chosen)
    {greatest : Float}
    (hgreatest : IsGreatestRisk (fun r => ∃ s, Eligible pool overrides top found s ∧
      s.scores.combined = r) greatest)
    (scale : rank greatest < rank 4611686018427387904)
    {s : Stop} (eligible : Eligible pool overrides top found s)
    (included : Named pool overrides .forceInclude s.id)
    (worth : 0 ≤ (ownScore pool overrides s).rank)
    {d : Candidate} (hd : d ∈ chosen) (other : ¬ Named pool overrides .forceInclude d.stop.id)
    (ordinary : (ownScore pool overrides d.stop).rank ≤ rank greatest) :
    ∃ c, c.stop = s ∧ d.score.rank < c.score.rank ∧ [c, d].Sublist chosen := by
  rw [outcome_candidates_of_answers fetched lookedUp] at answer
  obtain rfl := best_eq_ok answer
  have ranking : IsRanking pool overrides (Eligible pool overrides top found)
      (ranked (.forPool pool overrides) (pooled pool overrides top found)) :=
    isRanking_ranked (nodup_ids_pooled pool overrides top found) fun _ => mem_pooled pool overrides
  have ranked_s : ⟨s, scoreOf pool overrides greatest s⟩ ∈
      ranked (.forPool pool overrides) (pooled pool overrides top found) :=
    (ranking.mem_iff hgreatest).mpr ⟨eligible, rfl⟩
  have score_d := ((ranking.mem_iff hgreatest).mp (List.mem_of_mem_take hd)).2
  have outranked := rank_scoreOf_lt hgreatest.number (rank_nonneg_of_isGreatestRisk hgreatest)
    scale included worth other ordinary
  rw [← score_d] at outranked
  refine ⟨⟨s, scoreOf pool overrides greatest s⟩, rfl, outranked, ?_⟩
  apply pair_sublist_take ranking.ordered ranked_s hd
  · rintro rfl
    exact lt_irrefl _ outranked
  · rintro (behind | ⟨level, _⟩)
    · exact lt_asymm outranked behind
    · exact outranked.ne level.symm

/-! A pool of three stops, of which the one with the least risk is included. -/

namespace Favourite

def catalog (rows : List Stop) : RiskCatalog Unit where
  topStops _ limit := pure (rows.take limit)
  stopsById _ _ := pure []

def rows : List Stop :=
  [Pool.row "B" 5, Pool.row "A" 10, Pool.row "C" 8]

def including : List Override :=
  [⟨"north", "B", .forceInclude, none⟩]

def options : SelectionOptions :=
  ⟨2, 9⟩

theorem forPool_including : OverrideSet.forPool "north" including = ⟨["B"], [], []⟩ := by
  have named : ∀ kind, OverrideSet.stopsOf kind (including.filter (·.pool = "north")) =
      if kind = .forceInclude then ["B"] else [] := by
    intro kind
    cases kind <;> exact List.mergeSort_of_pairwise (by decide)
  rw [OverrideSet.forPool, named, named, named]
  decide

theorem wanted_including : wanted "north" including rows = [] := by
  rw [wanted, forPool_including]
  decide

theorem pooled_including : pooled "north" including rows [] = rows := by
  rw [pooled, wanted_including, forPool_including]
  decide

theorem ranked_including : ranked (.forPool "north" including) rows =
    [⟨Pool.row "B" 5, .ofFloat 1015⟩, ⟨Pool.row "A" 10, .ofFloat 10⟩,
      ⟨Pool.row "C" 8, .ofFloat 8⟩] := by
  have scores : scored (.forPool "north" including) rows =
      [⟨Pool.row "B" 5, .ofFloat 1015⟩, ⟨Pool.row "A" 10, .ofFloat 10⟩,
        ⟨Pool.row "C" 8, .ofFloat 8⟩] := by
    rw [forPool_including]
    decide +kernel
  rw [ranked, scores]
  exact List.mergeSort_of_pairwise (by decide)

/-- The same stops, of which the two others are bumped far beyond the greatest risk. -/
def bumpedRows : List Stop :=
  [Pool.row "A" 10, Pool.row "C" 8, Pool.row "B" 5]

def bumping : List Override :=
  [⟨"north", "A", .priorityBump, some 5000⟩, ⟨"north", "C", .priorityBump, some 5000⟩,
    ⟨"north", "B", .forceInclude, none⟩]

theorem forPool_bumping : OverrideSet.forPool "north" bumping =
    ⟨["B"], [], [("A", .ofFloat 5000), ("C", .ofFloat 5000)]⟩ := by
  have named : ∀ kind, OverrideSet.stopsOf kind (bumping.filter (·.pool = "north")) =
      if kind = .forceInclude then ["B"] else
        if kind = .priorityBump then ["A", "C"] else [] := by
    intro kind
    cases kind <;> exact List.mergeSort_of_pairwise (by decide)
  rw [OverrideSet.forPool, named, named, named]
  decide

theorem wanted_bumping : wanted "north" bumping bumpedRows = [] := by
  rw [wanted, forPool_bumping]
  decide

theorem pooled_bumping : pooled "north" bumping bumpedRows [] = bumpedRows := by
  rw [pooled, wanted_bumping, forPool_bumping]
  decide

theorem ranked_bumping : ranked (.forPool "north" bumping) bumpedRows =
    [⟨Pool.row "A" 10, .ofFloat 5010⟩, ⟨Pool.row "C" 8, .ofFloat 5008⟩,
      ⟨Pool.row "B" 5, .ofFloat 1015⟩] := by
  have scores : scored (.forPool "north" bumping) bumpedRows =
      [⟨Pool.row "A" 10, .ofFloat 5010⟩, ⟨Pool.row "C" 8, .ofFloat 5008⟩,
        ⟨Pool.row "B" 5, .ofFloat 1015⟩] := by
    rw [forPool_bumping]
    decide +kernel
  rw [ranked, scores]
  exact List.mergeSort_of_pairwise (by decide)

end Favourite

theorem included_first_favourite :
    (candidates (Favourite.catalog Favourite.rows) "north" Favourite.including
      Favourite.options).outcome () =
        (.ok [⟨Pool.row "B" 5, .ofFloat 1015⟩, ⟨Pool.row "A" 10, .ofFloat 10⟩], ()) ∧
      ∃ c : Candidate, c.stop = Pool.row "B" 5 ∧ (Score.ofFloat 10).rank < c.score.rank ∧
        [c, ⟨Pool.row "A" 10, .ofFloat 10⟩].Sublist
          [⟨Pool.row "B" 5, .ofFloat 1015⟩, ⟨Pool.row "A" 10, .ofFloat 10⟩] := by
  have fetched : ((Favourite.catalog Favourite.rows).topStops "north" 9).outcome () =
      (.ok Favourite.rows, ()) := rfl
  have lookedUp : (lookUp (Favourite.catalog Favourite.rows) "north"
      (wanted "north" Favourite.including Favourite.rows)).outcome () = (.ok [], ()) := by
    rw [Favourite.wanted_including]
    rfl
  have outcome : (candidates (Favourite.catalog Favourite.rows) "north" Favourite.including
      Favourite.options).outcome () =
        (.ok [⟨Pool.row "B" 5, .ofFloat 1015⟩, ⟨Pool.row "A" 10, .ofFloat 10⟩], ()) := by
    rw [outcome_candidates_of_answers fetched lookedUp, Favourite.pooled_including,
      Favourite.ranked_including]
    rfl
  have eligible : ∀ s, s ∈ Favourite.rows ↔
      Eligible "north" Favourite.including Favourite.rows [] s := by
    intro s
    rw [← mem_pooled, Favourite.pooled_including]
  have greatest := isGreatestRisk_greatestRisk Favourite.rows
  simp only [eligible] at greatest
  have listed := (eligible (Pool.row "B" 5)).mp (by decide)
  have organic := (eligible (Pool.row "A" 10)).mp (by decide)
  have selected : (⟨Pool.row "A" 10, .ofFloat 10⟩ : Candidate) ∈
      [⟨Pool.row "B" 5, .ofFloat 1015⟩, ⟨Pool.row "A" 10, .ofFloat 10⟩] := by
    simp
  have unbumped : ¬ Named "north" Favourite.including .priorityBump (Pool.row "A" 10).id := by
    decide
  have ordinary := rank_ownScore_le_of_unbumped greatest organic (by decide) unbumped
  exact ⟨outcome, included_first fetched lookedUp (congrArg Prod.fst outcome) greatest
    (by decide +kernel) listed (by decide) (by decide) selected
    (by decide) ordinary⟩

/-- Two stops that are bumped by more than a thousand drop an included one from the selection. -/
theorem bumped_drop_included :
    Named "north" Favourite.bumping .forceInclude "B" ∧
      ¬ Named "north" Favourite.bumping .forceInclude "A" ∧
      ((Favourite.catalog Favourite.bumpedRows).topStops "north" 9).outcome () =
        (.ok [Pool.row "A" 10, Pool.row "C" 8, Pool.row "B" 5], ()) ∧
      (candidates (Favourite.catalog Favourite.bumpedRows) "north" Favourite.bumping
        Favourite.options).outcome () =
        (.ok [⟨Pool.row "A" 10, .ofFloat 5010⟩, ⟨Pool.row "C" 8, .ofFloat 5008⟩], ()) := by
  have fetched : ((Favourite.catalog Favourite.bumpedRows).topStops "north" 9).outcome () =
      (.ok Favourite.bumpedRows, ()) := rfl
  have lookedUp : (lookUp (Favourite.catalog Favourite.bumpedRows) "north"
      (wanted "north" Favourite.bumping Favourite.bumpedRows)).outcome () = (.ok [], ()) := by
    rw [Favourite.wanted_bumping]
    rfl
  refine ⟨by decide, by decide, fetched, ?_⟩
  rw [outcome_candidates_of_answers fetched lookedUp, Favourite.pooled_bumping,
    Favourite.ranked_bumping]
  rfl

end ServiceRoute.Selection
