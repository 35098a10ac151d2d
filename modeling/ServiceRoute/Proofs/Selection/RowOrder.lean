import ServiceRoute.Proofs.Planning.InStep
import ServiceRoute.Proofs.Selection.Candidates

/-!
# Selection and the order of rows

A catalog may answer with its rows in any order. As long as no id occurs twice among them, what
is chosen does not depend on that order: the same stops are eligible, the same ones are looked up,
and a set of stops has one ranking.
-/

namespace ServiceRoute.Selection

open Planning

variable {σ τ : Type}

/-- The same rows, in whatever order, with no id twice among them. -/
structure SameRows (rows rows' : List Stop) : Prop where
  distinct : (rows.map (·.id)).Nodup
  perm : rows.Perm rows'

section Eligible

variable {pool : String} {overrides : List Override} {top top' found found' : List Stop}

theorem SameRows.firstRow_iff (h : SameRows found found') {s : Stop} :
    FirstRow found s ↔ FirstRow found' s := by
  unfold FirstRow
  rw [find?_perm h.distinct h.perm]

theorem SameRows.missing_iff (h : SameRows top top') {id : StopId} :
    Missing pool overrides top id ↔ Missing pool overrides top' id := by
  simp only [Missing, Organic, h.firstRow_iff]

theorem eligible_iff_of_sameRows (tops : SameRows top top') (founds : SameRows found found')
    {s : Stop} : Eligible pool overrides top found s ↔ Eligible pool overrides top' found' s := by
  rw [Eligible, Eligible, Organic, Organic, tops.firstRow_iff, tops.missing_iff,
    founds.firstRow_iff]

/-- The ids to be looked up come in their own order. -/
theorem wanted_eq_of_sameRows (h : SameRows top top') :
    wanted pool overrides top = wanted pool overrides top' := by
  apply wanted_pairwise.eq_of_mem_iff wanted_pairwise
  intro id
  rw [mem_wanted, mem_wanted, h.missing_iff]

theorem ranked_eq_of_sameRows (tops : SameRows top top') (founds : SameRows found found') :
    ranked (.forPool pool overrides) (pooled pool overrides top found) =
      ranked (.forPool pool overrides) (pooled pool overrides top' found') := by
  have ranking : IsRanking pool overrides (Eligible pool overrides top found)
      (ranked (.forPool pool overrides) (pooled pool overrides top found)) :=
    isRanking_ranked (nodup_ids_pooled ..) fun s => mem_pooled ..
  refine ranking.unique (isRanking_ranked (nodup_ids_pooled ..) fun s => ?_)
  rw [mem_pooled, eligible_iff_of_sameRows tops founds]

end Eligible

/-! Selection puts at most two questions: for the top stops, and for those it wants besides. It
is enough that these are answered with the same rows. -/

section Answers

variable {catalog : RiskCatalog σ} {catalog' : RiskCatalog τ} {pool : String}
variable {overrides : List Override} {options : SelectionOptions}

theorem answer_candidates_of_sameRows {world : σ} {world' : τ}
    (tops : AnswerAlike SameRows
      ((catalog.topStops pool (max options.rawLimit options.limit)).outcome world).1
      ((catalog'.topStops pool (max options.rawLimit options.limit)).outcome world').1)
    (founds : ∀ top top' left left',
      (catalog.topStops pool (max options.rawLimit options.limit)).outcome world =
        (.ok top, left) →
      (catalog'.topStops pool (max options.rawLimit options.limit)).outcome world' =
        (.ok top', left') →
      wanted pool overrides top ≠ [] →
      AnswerAlike SameRows ((catalog.stopsById pool (wanted pool overrides top)).outcome left).1
        ((catalog'.stopsById pool (wanted pool overrides top)).outcome left').1) :
    ((candidates catalog pool overrides options).outcome world).1 =
      ((candidates catalog' pool overrides options).outcome world').1 := by
  rw [candidates_eq, candidates_eq]
  refine tops.bind_eq fun top top' left left' fetched fetched' rows => ?_
  -- Both look up the same ids.
  have lookedUp : AnswerAlike SameRows
      ((lookUp catalog pool (wanted pool overrides top)).outcome left).1
      ((lookUp catalog' pool (wanted pool overrides top')).outcome left').1 := by
    rw [← wanted_eq_of_sameRows rows]
    unfold lookUp
    split_ifs with none
    · exact .ok ⟨List.nodup_nil, .refl _⟩
    · exact founds top top' left left' fetched fetched' none
  unfold selectFrom
  refine lookedUp.bind_eq fun found found' _ _ _ _ added => ?_
  rw [ranked_eq_of_sameRows rows added]
  rfl

theorem candidates_inStep_of_sameRows {R : σ → τ → Prop}
    (tops : InStepUpTo SameRows R
      (catalog.topStops pool (max options.rawLimit options.limit))
      (catalog'.topStops pool (max options.rawLimit options.limit)))
    (founds : ∀ top, wanted pool overrides top ≠ [] →
      InStepUpTo SameRows R (catalog.stopsById pool (wanted pool overrides top))
        (catalog'.stopsById pool (wanted pool overrides top))) :
    InStep R (candidates catalog pool overrides options)
      (candidates catalog' pool overrides options) := by
  rw [candidates_eq, candidates_eq]
  refine tops.bind fun top top' rows => ?_
  have lookedUp : InStepUpTo SameRows R (lookUp catalog pool (wanted pool overrides top))
      (lookUp catalog' pool (wanted pool overrides top')) := by
    rw [← wanted_eq_of_sameRows rows]
    unfold lookUp
    split_ifs with none
    · exact inStepUpTo_pure ⟨List.nodup_nil, .refl _⟩
    · exact founds top none
  unfold selectFrom
  refine lookedUp.bind fun found found' added => ?_
  rw [ranked_eq_of_sameRows rows added]
  exact inStep_liftM _

end Answers

end ServiceRoute.Selection
