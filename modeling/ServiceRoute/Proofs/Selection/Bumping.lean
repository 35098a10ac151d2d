import ServiceRoute.Proofs.Planning.InStep
import ServiceRoute.Proofs.Selection.Inclusion
import ServiceRoute.Proofs.Selection.ScoreOrder

/-!
# One more bump

A bump that is not negative changes the score of its stop only, and does not lower it. So the
ranking of the pool stays as it is, except that the stop may move ahead of some others, and of the
selected stops no other leaves but the last one.
-/

namespace ServiceRoute.Selection

open Number Planning

def withBump (pool : String) (overrides : List Override) (id : StopId) (v : Float) :
    List Override :=
  overrides ++ [⟨pool, id, .priorityBump, some v⟩]

section Overrides

variable {pool : String} {overrides : List Override} {id : StopId} {v : Float}

theorem named_withBump_iff {kind : OverrideKind} (other : kind ≠ .priorityBump) (s : StopId) :
    Named pool (withBump pool overrides id v) kind s ↔ Named pool overrides kind s := by
  simp [Named, withBump, other.symm]

theorem admitted_withBump (top : List Stop) :
    admitted (.forPool pool (withBump pool overrides id v)) top =
      admitted (.forPool pool overrides) top := by
  have excluded : (OverrideSet.forPool pool (withBump pool overrides id v)).excluded =
      (OverrideSet.forPool pool overrides).excluded :=
    OverrideSet.stopsOf_own_eq (named_withBump_iff (by decide))
  unfold admitted
  rw [excluded]

theorem wanted_withBump (top : List Stop) :
    wanted pool (withBump pool overrides id v) top = wanted pool overrides top := by
  have included : (OverrideSet.forPool pool (withBump pool overrides id v)).included =
      (OverrideSet.forPool pool overrides).included :=
    OverrideSet.stopsOf_own_eq (named_withBump_iff (by decide))
  unfold wanted missing
  rw [included, admitted_withBump]

theorem pooled_withBump (top found : List Stop) :
    pooled pool (withBump pool overrides id v) top found = pooled pool overrides top found := by
  unfold pooled
  rw [admitted_withBump, wanted_withBump]

theorem bumped_withBump_self :
    bumped pool (withBump pool overrides id v) id = bumped pool overrides id + .ofFloat v := by
  simp [bumped, withBump]

theorem bumped_withBump_of_ne {s : StopId} (other : s ≠ id) :
    bumped pool (withBump pool overrides id v) s = bumped pool overrides s := by
  simp [bumped, withBump, other.symm]

theorem wellFormed_bumped (pool : String) (overrides : List Override) (id : StopId) :
    (bumped pool overrides id).WellFormed :=
  Score.wellFormed_foldl (Score.wellFormed_ofFloat 0) _

end Overrides

section Scores

variable {pool : String} {overrides : List Override} {id : StopId} {v top : Float}

theorem isFinite_bonus {eligible : Stop → Prop}
    (h : IsGreatestRisk (fun r => ∃ s, eligible s ∧ s.scores.combined = r) top)
    (finite : ∀ s, eligible s → s.scores.combined.isFinite = true) :
    (top + 1000).isFinite = true := by
  have thousand : (1000 : Float).isFinite = true := by decide
  have finite_top : top.isFinite = true := by
    rcases h.attained with rfl | ⟨s, hs, rfl⟩
    · decide
    · exact finite s hs
  -- Not even the greatest double is carried beyond itself by a thousand.
  have greatest : rank (Float.ofBits 0x7FEFFFFFFFFFFFFF) = 2047 * 2 ^ 52 - 1 := by decide
  have kept : rank (Float.ofBits 0x7FEFFFFFFFFFFFFF + 1000) = 2047 * 2 ^ 52 - 1 := by
    decide +kernel
  have bound := (rank_bounds_of_isFinite finite_top).2
  have above : rank (top + 1000) ≤ rank (Float.ofBits 0x7FEFFFFFFFFFFFFF + 1000) :=
    rank_add_le_add_right thousand (by omega)
  have below : rank top ≤ rank (top + 1000) := rank_le_rank_add_of_le thousand (by decide)
  have positive := rank_nonneg_of_isGreatestRisk h
  by_contra infinite
  rw [Bool.not_eq_true] at infinite
  have outside := rank_of_not_isFinite infinite
  omega

theorem scoreOf_withBump_of_ne {s : Stop} (other : s.id ≠ id) :
    scoreOf pool (withBump pool overrides id v) top s = scoreOf pool overrides top s := by
  unfold scoreOf
  rw [bumped_withBump_of_ne other]
  simp only [named_withBump_iff (by decide : OverrideKind.forceInclude ≠ .priorityBump)]

theorem rank_scoreOf_le_withBump {s : Stop} (risk : s.scores.combined.isFinite = true)
    (bonus : (top + 1000).isFinite = true) (finite : v.isFinite = true) (positive : 0 ≤ v)
    (same : s.id = id) :
    (scoreOf pool overrides top s).rank ≤
      (scoreOf pool (withBump pool overrides id v) top s).rank := by
  have bumps : (bumped pool overrides s.id).rank ≤
      (bumped pool (withBump pool overrides id v) s.id).rank := by
    rw [same, bumped_withBump_self]
    exact Score.rank_le_rank_add_ofFloat (wellFormed_bumped pool overrides id) finite positive
  have own : (Score.ofFloat s.scores.combined + bumped pool overrides s.id).rank ≤
      (Score.ofFloat s.scores.combined +
        bumped pool (withBump pool overrides id v) s.id).rank := by
    rw [Score.ofFloat_add _ risk, Score.ofFloat_add _ risk]
    exact Score.rank_add_le_add_right (wellFormed_bumped _ _ _) (wellFormed_bumped _ _ _) risk bumps
  unfold scoreOf
  simp only [named_withBump_iff (by decide : OverrideKind.forceInclude ≠ .priorityBump)]
  split_ifs
  · exact Score.rank_add_le_add_right (Score.wellFormed_add _ _) (Score.wellFormed_add _ _) bonus
      own
  · exact own

end Scores

/-- What becomes of a list of candidates when one stop gets a score that is not lower. -/
inductive Promoted (id : StopId) : List Candidate → List Candidate → Prop
  /-- The stop is not in the list, and the list stays. -/
  | absent {others : List Candidate} (h : ∀ c ∈ others, c.stop.id ≠ id) :
    Promoted id others others
  /-- The stop moves ahead of some others, or stays where it is. -/
  | moved {front mid back : List Candidate} {x x' : Candidate} (named : x.stop.id = id)
    (same : x'.stop = x.stop) (score : x.score.rank ≤ x'.score.rank)
    (h : ∀ c ∈ front ++ (mid ++ back), c.stop.id ≠ id) :
    Promoted id (front ++ (mid ++ x :: back)) (front ++ x' :: (mid ++ back))
  /-- The stop comes into the list, and the last one leaves it. -/
  | entered {front back : List Candidate} {last x' : Candidate} (named : x'.stop.id = id)
    (h : ∀ c ∈ front ++ (back ++ [last]), c.stop.id ≠ id) :
    Promoted id (front ++ (back ++ [last])) (front ++ x' :: back)

section Fronts

variable {id : StopId}

/-- A list that ends behind the new place of the stop, but before its old one. -/
theorem promoted_cut {front rest : List Candidate} {x' : Candidate} (named : x'.stop.id = id)
    (h : ∀ c ∈ front ++ rest, c.stop.id ≠ id) {k : Nat} (inside : k < rest.length) :
    Promoted id (front ++ rest.take (k + 1)) (front ++ x' :: rest.take k) := by
  have cut : rest.take (k + 1) = rest.take k ++ [rest[k]] := List.take_succ_eq_append_getElem inside
  rw [cut]
  apply Promoted.entered named
  intro c hc
  rw [← cut, List.mem_append] at hc
  exact h c (List.mem_append.mpr (hc.imp_right List.mem_of_mem_take))

/-- A stop that moves ahead in a list does so in the front of it, or comes into the front. -/
theorem promoted_take {front mid back : List Candidate} {x x' : Candidate} (named : x.stop.id = id)
    (same : x'.stop = x.stop) (score : x.score.rank ≤ x'.score.rank)
    (h : ∀ c ∈ front ++ (mid ++ back), c.stop.id ≠ id) (n : Nat) :
    Promoted id ((front ++ (mid ++ x :: back)).take n) ((front ++ x' :: (mid ++ back)).take n) := by
  rcases Nat.lt_or_ge front.length n with behind | before
  · obtain ⟨k, rfl⟩ := Nat.exists_eq_add_of_lt behind
    rw [Nat.add_assoc, List.take_length_add_append, List.take_length_add_append,
      List.take_succ_cons]
    rcases Nat.lt_or_ge k mid.length with inside | beyond
    · rw [List.take_append_of_le_length inside, List.take_append_of_le_length inside.le]
      apply promoted_cut (same ▸ named) _ inside
      intro c hc
      exact h c (List.append_assoc front mid back ▸ List.mem_append_left back hc)
    · obtain ⟨j, rfl⟩ := Nat.exists_eq_add_of_le beyond
      rw [Nat.add_assoc, List.take_length_add_append, List.take_length_add_append,
        List.take_succ_cons]
      apply Promoted.moved named same score
      intro c hc
      apply h
      simp only [List.mem_append] at hc ⊢
      exact hc.imp_right (Or.imp_right List.mem_of_mem_take)
  · rw [List.take_append_of_le_length before, List.take_append_of_le_length before]
    apply Promoted.absent
    intro c hc
    exact h c (List.mem_append_left _ (List.mem_of_mem_take hc))

end Fronts

section Rankings

variable {pool : String} {overrides : List Override} {id : StopId} {v top : Float}
variable {eligible : Stop → Prop} {order order' : List Candidate}

theorem place_le_of_rank_le {x x' : Candidate} (same : x'.stop = x.stop)
    (score : x.score.rank ≤ x'.score.rank) : place x' ≤ place x := by
  rw [place, place, same, Prod.Lex.toLex_le_toLex]
  rcases Int.lt_or_eq_of_le score with greater | equal
  · exact Or.inl (Int.neg_lt_neg greater)
  · exact Or.inr ⟨congrArg Neg.neg equal.symm, le_refl _⟩

theorem filter_others {front back : List Candidate} {x : Candidate} (named : x.stop.id = id)
    (distinct : ((front ++ x :: back).map (·.stop.id)).Nodup) :
    (∀ c ∈ front ++ back, c.stop.id ≠ id) ∧
      (front ++ x :: back).filter (·.stop.id ≠ id) = front ++ back := by
  have apart : ∀ c ∈ front ++ back, c.stop.id ≠ id := by
    rw [(List.perm_middle.map _).nodup_iff, List.map_cons, List.nodup_cons] at distinct
    intro c hc again
    exact distinct.1 (named.trans again.symm ▸ List.mem_map_of_mem hc)
  refine ⟨apart, ?_⟩
  have dropped : (x :: back).filter (·.stop.id ≠ id) = back.filter (·.stop.id ≠ id) :=
    List.filter_cons_of_neg (by simpa using named)
  rw [List.filter_append, dropped, ← List.filter_append, List.filter_eq_self]
  simpa using apart

theorem promoted_take_of_mem {x x' : Candidate} (hx : x ∈ order) (hx' : x' ∈ order')
    (named : x.stop.id = id) (same : x'.stop = x.stop) (score : x.score.rank ≤ x'.score.rank)
    (distinct : (order.map (·.stop.id)).Nodup) (distinct' : (order'.map (·.stop.id)).Nodup)
    (ordered : order.Pairwise Before) (ordered' : order'.Pairwise Before)
    (others : order.filter (·.stop.id ≠ id) = order'.filter (·.stop.id ≠ id)) (n : Nat) :
    Promoted id (order.take n) (order'.take n) := by
  obtain ⟨front, back, rfl⟩ := List.append_of_mem hx
  obtain ⟨front', back', rfl⟩ := List.append_of_mem hx'
  obtain ⟨apart, left⟩ := filter_others named distinct
  obtain ⟨apart', left'⟩ := filter_others (same ▸ named) distinct'
  rw [left, left'] at others
  rcases List.append_eq_append_iff.mp others.symm with ⟨mid, rfl, rfl⟩ | ⟨mid, rfl, rfl⟩
  · rw [List.append_assoc]
    exact promoted_take named same score apart' n
  · cases mid with
    | nil =>
      rw [List.append_nil]
      have still : ∀ c ∈ front ++ ([] ++ back'), c.stop.id ≠ id := apart
      exact promoted_take named same score still n
    | cons c mid =>
      -- No candidate from behind the stop comes ahead of it.
      have behind := (List.pairwise_cons.mp (List.pairwise_append.mp ordered).2.1).1 c (by simp)
      have ahead := (List.pairwise_append.mp ordered').2.2 c (by simp) _ List.mem_cons_self
      rw [before_iff] at behind ahead
      exact absurd (place_le_of_rank_le same score) (not_le_of_gt (behind.trans ahead))

/-- The other stops keep their scores, so they keep their order. -/
theorem others_eq (h : IsRanking pool overrides eligible order)
    (h' : IsRanking pool (withBump pool overrides id v) eligible order') :
    order.filter (·.stop.id ≠ id) = order'.filter (·.stop.id ≠ id) := by
  obtain ⟨top, greatest, -⟩ := h.scored
  apply (h.ordered.filter _).eq_of_mem_iff (h'.ordered.filter _)
  intro c
  rw [List.mem_filter, List.mem_filter, h.mem_iff greatest, h'.mem_iff greatest]
  by_cases other : c.stop.id = id
  · simp [other]
  · rw [scoreOf_withBump_of_ne other]

theorem promoted_take_of_isRanking (h : IsRanking pool overrides eligible order)
    (h' : IsRanking pool (withBump pool overrides id v) eligible order')
    (risks : ∀ s, eligible s → s.scores.combined.isFinite = true) (finite : v.isFinite = true)
    (positive : 0 ≤ v) (n : Nat) : Promoted id (order.take n) (order'.take n) := by
  have others := others_eq h h'
  obtain ⟨top, greatest, -⟩ := h.scored
  by_cases listed : ∃ s, eligible s ∧ s.id = id
  · obtain ⟨s, hs, named⟩ := listed
    have ranked : ⟨s, scoreOf pool overrides top s⟩ ∈ order :=
      (h.mem_iff greatest).mpr ⟨hs, rfl⟩
    have ranked' : ⟨s, scoreOf pool (withBump pool overrides id v) top s⟩ ∈ order' :=
      (h'.mem_iff greatest).mpr ⟨hs, rfl⟩
    have score : (scoreOf pool overrides top s).rank ≤
        (scoreOf pool (withBump pool overrides id v) top s).rank :=
      rank_scoreOf_le_withBump (risks s hs) (isFinite_bonus greatest risks) finite positive named
    exact promoted_take_of_mem ranked ranked' named rfl score h.distinct h'.distinct h.ordered
      h'.ordered others n
  · have unlisted : ∀ {os xs}, IsRanking pool os eligible xs → ∀ c ∈ xs, c.stop.id ≠ id := by
      intro os xs ranking c hc same
      exact listed ⟨c.stop, (ranking.complete _).mp (List.mem_map_of_mem hc), same⟩
    have whole : ∀ {os xs}, IsRanking pool os eligible xs →
        xs.filter (·.stop.id ≠ id) = xs := by
      intro os xs ranking
      rw [List.filter_eq_self]
      simpa using unlisted ranking
    rw [whole h, whole h'] at others
    rw [← others]
    exact .absent fun c hc => unlisted h c (List.mem_of_mem_take hc)

end Rankings

theorem length_ranked (set : OverrideSet) (stops : List Stop) :
    (ranked set stops).length = stops.length := by
  rw [ranked, List.length_mergeSort, scored, List.length_map]

theorem best_alike {options : SelectionOptions} {id : StopId} {order order' : List Candidate}
    (length : order.length = order'.length)
    (promoted : Promoted id (order.take options.limit) (order'.take options.limit)) :
    AnswerAlike (Promoted id) (best options order) (best options order') := by
  unfold best
  rw [length]
  dsimp only
  split_ifs
  · exact .error _
  · exact .ok promoted

/-- One more bump that is not negative, in a pool where all risks are finite, never hurts its stop
and leaves the others as they are. The catalog is asked the same, and too few stops stay too few.
Otherwise the other selected stops keep their order and their scores. The stop itself stays
selected, no further back than before, or it takes a place in the selection and only the last of
the others leaves, or it is not selected and nothing changes. -/
theorem candidates_withBump {σ : Type} {catalog : RiskCatalog σ} {pool : String}
    {overrides : List Override} {options : SelectionOptions} {world world' world'' : σ}
    {top found : List Stop}
    (fetched : (catalog.topStops pool (max options.rawLimit options.limit)).outcome world =
      (.ok top, world'))
    (lookedUp : (lookUp catalog pool (wanted pool overrides top)).outcome world' =
      (.ok found, world''))
    (risks : ∀ s, Eligible pool overrides top found s → s.scores.combined.isFinite = true)
    (id : StopId) {v : Float} (finite : v.isFinite = true) (positive : 0 ≤ v) :
    AnswerAlike (Promoted id) ((candidates catalog pool overrides options).outcome world).1
        ((candidates catalog pool (withBump pool overrides id v) options).outcome world).1 ∧
      ((candidates catalog pool (withBump pool overrides id v) options).outcome world).2 =
        ((candidates catalog pool overrides options).outcome world).2 := by
  have lookedUp' : (lookUp catalog pool
      (wanted pool (withBump pool overrides id v) top)).outcome world' = (.ok found, world'') := by
    rw [wanted_withBump, lookedUp]
  rw [outcome_candidates_of_answers fetched lookedUp,
    outcome_candidates_of_answers fetched lookedUp', pooled_withBump]
  refine ⟨?_, rfl⟩
  have distinct := nodup_ids_pooled pool overrides top found
  have complete : ∀ s, s ∈ pooled pool overrides top found ↔ Eligible pool overrides top found s :=
    fun s => mem_pooled pool overrides
  apply best_alike
  · rw [length_ranked, length_ranked]
  · exact promoted_take_of_isRanking (isRanking_ranked distinct complete)
      (isRanking_ranked distinct complete) risks finite positive _

/-! The third stop of a pool is bumped before the second. -/

namespace Favourite

theorem ranked_unaltered : ranked (.forPool "north" []) bumpedRows =
    [⟨Pool.row "A" 10, .ofFloat 10⟩, ⟨Pool.row "C" 8, .ofFloat 8⟩,
      ⟨Pool.row "B" 5, .ofFloat 5⟩] := by
  have scores : scored (.forPool "north" []) bumpedRows =
      [⟨Pool.row "A" 10, .ofFloat 10⟩, ⟨Pool.row "C" 8, .ofFloat 8⟩,
        ⟨Pool.row "B" 5, .ofFloat 5⟩] := by
    decide +kernel
  rw [ranked, scores]
  exact List.mergeSort_of_pairwise (by decide)

theorem forPool_bumpB : OverrideSet.forPool "north" (withBump "north" [] "B" 4) =
    ⟨[], [], [("B", .ofFloat 4)]⟩ := by
  have named : ∀ kind, OverrideSet.stopsOf kind ((withBump "north" [] "B" 4).filter
      (·.pool = "north")) = if kind = .priorityBump then ["B"] else [] := by
    intro kind
    cases kind <;> exact List.mergeSort_of_pairwise (by decide)
  rw [OverrideSet.forPool, named, named, named]
  decide +kernel

theorem ranked_bumpB : ranked (.forPool "north" (withBump "north" [] "B" 4)) bumpedRows =
    [⟨Pool.row "A" 10, .ofFloat 10⟩, ⟨Pool.row "B" 5, .ofFloat 9⟩,
      ⟨Pool.row "C" 8, .ofFloat 8⟩] := by
  have scores : scored (.forPool "north" (withBump "north" [] "B" 4)) bumpedRows =
      [⟨Pool.row "A" 10, .ofFloat 10⟩, ⟨Pool.row "C" 8, .ofFloat 8⟩,
        ⟨Pool.row "B" 5, .ofFloat 9⟩] := by
    rw [forPool_bumpB]
    decide +kernel
  have infront : (compareCandidates ⟨Pool.row "A" 10, .ofFloat 10⟩
      ⟨Pool.row "C" 8, .ofFloat 8⟩).isLE = true := by
    decide
  have ahead : (compareCandidates ⟨Pool.row "A" 10, .ofFloat 10⟩
      ⟨Pool.row "B" 5, .ofFloat 9⟩).isLE = true := by
    decide
  have behind : (compareCandidates ⟨Pool.row "C" 8, .ofFloat 8⟩
      ⟨Pool.row "B" 5, .ofFloat 9⟩).isLE = false := by
    decide
  rw [ranked, scores]
  simp [List.mergeSort, List.MergeSort.Internal.splitInTwo, infront, ahead, behind]

end Favourite

/-- The bumped stop comes in, and the second one leaves. -/
theorem candidates_withBump_favourite :
    ((candidates (Favourite.catalog Favourite.bumpedRows) "north" [] Favourite.options).outcome
        ()).1 = .ok [⟨Pool.row "A" 10, .ofFloat 10⟩, ⟨Pool.row "C" 8, .ofFloat 8⟩] ∧
      ((candidates (Favourite.catalog Favourite.bumpedRows) "north" (withBump "north" [] "B" 4)
        Favourite.options).outcome ()).1 =
          .ok [⟨Pool.row "A" 10, .ofFloat 10⟩, ⟨Pool.row "B" 5, .ofFloat 9⟩] ∧
      AnswerAlike (Promoted "B")
        ((candidates (Favourite.catalog Favourite.bumpedRows) "north" []
          Favourite.options).outcome ()).1
        ((candidates (Favourite.catalog Favourite.bumpedRows) "north" (withBump "north" [] "B" 4)
          Favourite.options).outcome ()).1 := by
  have fetched : ((Favourite.catalog Favourite.bumpedRows).topStops "north"
      (max Favourite.options.rawLimit Favourite.options.limit)).outcome () =
        (.ok Favourite.bumpedRows, ()) := rfl
  have wanted_rows : wanted "north" [] Favourite.bumpedRows = [] := by
    decide +kernel
  have pooled_rows : pooled "north" [] Favourite.bumpedRows [] = Favourite.bumpedRows := by
    decide +kernel
  have lookedUp : (lookUp (Favourite.catalog Favourite.bumpedRows) "north"
      (wanted "north" [] Favourite.bumpedRows)).outcome () = (.ok [], ()) := by
    rw [wanted_rows]
    rfl
  have lookedUp' : (lookUp (Favourite.catalog Favourite.bumpedRows) "north"
      (wanted "north" (withBump "north" [] "B" 4) Favourite.bumpedRows)).outcome () =
        (.ok [], ()) := by
    rw [wanted_withBump, lookedUp]
  have risks : ∀ s, Eligible "north" [] Favourite.bumpedRows [] s →
      s.scores.combined.isFinite = true := by
    intro s hs
    rw [← mem_pooled, pooled_rows] at hs
    revert s
    decide
  have promoted := candidates_withBump fetched lookedUp risks "B"
    (by decide : (4 : Float).isFinite = true) (by decide)
  refine ⟨?_, ?_, promoted.1⟩
  · rw [outcome_candidates_of_answers fetched lookedUp, pooled_rows, Favourite.ranked_unaltered]
    rfl
  · rw [outcome_candidates_of_answers fetched lookedUp', pooled_withBump, pooled_rows,
      Favourite.ranked_bumpB]
    rfl

end ServiceRoute.Selection
