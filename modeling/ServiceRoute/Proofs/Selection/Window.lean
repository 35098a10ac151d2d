import ServiceRoute.Proofs.Selection.Candidates
import ServiceRoute.Proofs.Store.CatalogRows

/-!
# The window of selection

Selection over a store fetches the riskiest stops of the pool and ranks only those. In a pool
without overrides a stop is ranked by its risk first, as it is fetched. So what the window hides
can only be stops with the same risk as the last one in it, and the weights that would have ranked
such a stop higher are not seen.
-/

namespace ServiceRoute.Selection

open Number Planning Store

section Unaltered

variable (pool : String) (overrides : List Override)

/-- No override is for the pool. -/
def Unaltered : Prop :=
  ∀ o ∈ overrides, o.pool ≠ pool

variable {pool overrides}

theorem Unaltered.not_named (h : Unaltered pool overrides) (kind : OverrideKind) (id : StopId) :
    ¬ Named pool overrides kind id := by
  rintro ⟨o, ho, own, _⟩
  exact h o ho own

theorem ofFloat_add_zero {x : Float} (h : ReadsBack x) :
    Score.ofFloat x + .ofFloat 0 = .ofFloat x := by
  have number := h.isNaN
  have zero : (0 : Float).isNaN = false := by decide
  show Score.mk (x + 0) (if x.isNaN then false else if (0 : Float).isNaN then false
    else (x + 0).isNaN) = _
  rw [h.add_zero, number, zero]
  rfl

theorem Unaltered.scoreOf_eq (h : Unaltered pool overrides) {s : Stop}
    (stored : ReadsBack s.scores.combined) (top : Float) :
    scoreOf pool overrides top s = .ofFloat s.scores.combined := by
  rw [scoreOf, OverrideSet.bumped_of_not_named (h.not_named _ _), ofFloat_add_zero stored]
  exact if_neg (h.not_named _ _)

theorem Unaltered.admitted_eq (h : Unaltered pool overrides) {top : List Stop}
    (distinct : (top.map (·.id)).Nodup) : admitted (.forPool pool overrides) top = top := by
  rw [admitted, firstPer_of_nodup distinct, List.filter_eq_self]
  intro s _
  rw [decide_eq_true_eq, OverrideSet.mem_excluded]
  exact h.not_named _ _

theorem Unaltered.wanted_eq (h : Unaltered pool overrides) (top : List Stop) :
    wanted pool overrides top = [] := by
  rw [List.eq_nil_iff_forall_not_mem]
  intro id hid
  exact h.not_named _ _ (mem_wanted.mp hid).1

def window (s : Store) (pool : String) (options : SelectionOptions) : List Stop :=
  s.catalog.top pool (max options.rawLimit options.limit)

theorem nodup_window {s : Store} (kept : s.catalog.WellKept) (pool : String)
    (options : SelectionOptions) : ((window s pool options).map (·.id)).Nodup :=
  kept.nodup_top pool _

theorem Unaltered.outcome_candidates (h : Unaltered pool overrides) {s : Store}
    (kept : s.catalog.WellKept) (options : SelectionOptions) :
    (candidates riskCatalog pool overrides options).outcome s =
      (best options (ranked (.forPool pool overrides) (window s pool options)), s) := by
  have fetched : (riskCatalog.topStops pool (max options.rawLimit options.limit)).outcome s =
      (.ok (window s pool options), s) := rfl
  have pooled_eq : pooled pool overrides (window s pool options) [] = window s pool options := by
    rw [pooled, h.admitted_eq (nodup_window kept pool options), h.wanted_eq]
    simp [answering, firstPer]
  have lookedUp : (lookUp riskCatalog pool (wanted pool overrides (window s pool options))).outcome
      s = (.ok [], s) := by
    rw [h.wanted_eq]
    rfl
  rw [outcome_candidates_of_answers fetched lookedUp, pooled_eq]

end Unaltered

section ByRisk

variable {pool : String} {overrides : List Override} {stops : List Stop} {order : List Candidate}

/-- A ranking of stored stops, told from their risks alone. -/
theorem Unaltered.mem_iff (h : Unaltered pool overrides)
    (stored : ∀ s ∈ stops, ReadsBack s.scores.combined)
    (ranking : IsRanking pool overrides (· ∈ stops) order) {c : Candidate} :
    c ∈ order ↔ c.stop ∈ stops ∧ c.score = .ofFloat c.stop.scores.combined := by
  obtain ⟨top, greatest, _⟩ := ranking.scored
  rw [ranking.mem_iff greatest]
  constructor
  · rintro ⟨hc, score⟩
    exact ⟨hc, score.trans (h.scoreOf_eq (stored _ hc) top)⟩
  · rintro ⟨hc, score⟩
    exact ⟨hc, score.trans (h.scoreOf_eq (stored _ hc) top).symm⟩

theorem rank_score_of_eq {c : Candidate} (h : c.score = .ofFloat c.stop.scores.combined) :
    c.score.rank = rank c.stop.scores.combined := by
  rw [h]
  rfl

theorem Unaltered.map_score (h : Unaltered pool overrides)
    (stored : ∀ s ∈ stops, ReadsBack s.scores.combined)
    (ranking : IsRanking pool overrides (· ∈ stops) order) :
    order.map (·.score) = (order.map (·.stop.scores.combined)).map .ofFloat := by
  rw [List.map_map]
  apply List.map_congr_left
  intro c hc
  exact ((h.mem_iff stored ranking).mp hc).2

theorem Unaltered.map_combined (h : Unaltered pool overrides)
    (stored : ∀ s ∈ stops, ReadsBack s.scores.combined) (distinct : (stops.map (·.id)).Nodup)
    (falling : stops.Pairwise fun a b => rank b.scores.combined ≤ rank a.scores.combined)
    (ranking : IsRanking pool overrides (· ∈ stops) order) :
    order.map (·.stop.scores.combined) = stops.map (·.scores.combined) := by
  have same : (order.map (·.stop)).Perm stops := by
    apply (List.perm_ext_iff_of_nodup _ (.of_map _ distinct)).mpr ranking.complete
    apply List.Nodup.of_map (·.id)
    rw [List.map_map]
    exact ranking.distinct
  have perm := same.map (·.scores.combined)
  rw [List.map_map] at perm
  have ordered : (order.map (·.stop.scores.combined)).Pairwise fun x y => rank y ≤ rank x := by
    rw [List.pairwise_map]
    apply ranking.ordered.imp_of_mem
    intro a b ha hb before
    have score_a := rank_score_of_eq ((h.mem_iff stored ranking).mp ha).2
    have score_b := rank_score_of_eq ((h.mem_iff stored ranking).mp hb).2
    rw [Before, score_a, score_b] at before
    rcases before with less | ⟨equal, _⟩
    · exact Int.le_of_lt less
    · exact Int.le_of_eq equal
  apply perm.eq_of_pairwise _ ordered (List.pairwise_map.mpr falling)
  intro x y _ _ xy yx
  exact rank_injective (le_antisymm yx xy)

end ByRisk

section Cut

/-- What passes a test is the front of a list as long as the whole front passes it. -/
theorem take_filter_eq_iff {α : Type} {p : α → Bool} {xs : List α} {n : Nat} :
    (xs.filter p).take n = xs.take n ↔ ∀ x ∈ xs.take n, p x = true := by
  induction xs generalizing n with
  | nil => simp
  | cons x rest ih =>
    cases n with
    | zero => simp
    | succ n =>
      by_cases passes : p x = true
      · simp [passes, ih]
      · constructor
        · intro same
          have front : x ∈ (rest.filter p).take (n + 1) := by
            rw [List.filter_cons_of_neg passes] at same
            simp [same]
          exact absurd (List.mem_filter.mp (List.mem_of_mem_take front)).2 passes
        · intro all
          exact absurd (all x (by simp)) passes

theorem best_congr {options : SelectionOptions} {order order' : List Candidate}
    (h : order.take options.limit = order'.take options.limit) :
    best options order = best options order' := by
  have count : min options.limit order.length = min options.limit order'.length := by
    rw [← List.length_take, ← List.length_take, h]
  unfold best
  rw [count, h]

theorem best_eq_error_congr {options : SelectionOptions} {order order' : List Candidate}
    (count : min options.limit order.length = min options.limit order'.length) (e : PlanError) :
    best options order = .error e ↔ best options order' = .error e := by
  unfold best
  rw [count]
  dsimp only
  split <;> simp

def wholeRanking (s : Store) (pool : String) (overrides : List Override) : List Candidate :=
  ranked (.forPool pool overrides) (s.catalog.ofPool pool)

variable {pool : String} {overrides : List Override} {s : Store}

theorem readsBack_ofPool (kept : s.catalog.WellKept) (pool : String) :
    ∀ t ∈ s.catalog.ofPool pool, ReadsBack t.scores.combined := by
  intro t ht
  exact (kept.riskReadsBack_scores ht).combined

theorem readsBack_window (kept : s.catalog.WellKept) (pool : String) (options : SelectionOptions) :
    ∀ t ∈ window s pool options, ReadsBack t.scores.combined := by
  intro t ht
  exact readsBack_ofPool kept pool t (Catalog.mem_ofPool_of_mem_top ht)

theorem isRanking_wholeRanking (kept : s.catalog.WellKept) (pool : String)
    (overrides : List Override) :
    IsRanking pool overrides (· ∈ s.catalog.ofPool pool) (wholeRanking s pool overrides) :=
  isRanking_ranked (kept.nodup_ofPool pool) fun _ => Iff.rfl

theorem isRanking_window (kept : s.catalog.WellKept) (pool : String) (overrides : List Override)
    (options : SelectionOptions) :
    IsRanking pool overrides (· ∈ window s pool options)
      (ranked (.forPool pool overrides) (window s pool options)) :=
  isRanking_ranked (nodup_window kept pool options) fun _ => Iff.rfl

/-- Ranking the window is ranking the pool and leaving out what the window hides. -/
theorem Unaltered.ranked_window (h : Unaltered pool overrides) (kept : s.catalog.WellKept)
    (options : SelectionOptions) :
    ranked (.forPool pool overrides) (window s pool options) =
      (wholeRanking s pool overrides).filter (·.stop ∈ window s pool options) := by
  have whole := isRanking_wholeRanking kept pool overrides
  have part := isRanking_window kept pool overrides options
  have stored := readsBack_ofPool kept pool
  have same : (ranked (.forPool pool overrides) (window s pool options)).Perm
      ((wholeRanking s pool overrides).filter (·.stop ∈ window s pool options)) := by
    apply (List.perm_ext_iff_of_nodup (.of_map _ part.distinct)
      ((List.Nodup.of_map _ whole.distinct).filter _)).mpr
    intro c
    rw [List.mem_filter, h.mem_iff stored whole, decide_eq_true_eq,
      h.mem_iff (readsBack_window kept pool options) part]
    constructor
    · rintro ⟨inside, score⟩
      exact ⟨⟨Catalog.mem_ofPool_of_mem_top inside, score⟩, inside⟩
    · rintro ⟨⟨_, score⟩, inside⟩
      exact ⟨inside, score⟩
  apply same.eq_of_pairwise _ part.ordered (whole.ordered.filter _)
  intro a b _ _ ab ba
  exact absurd ba ab.asymm

theorem Unaltered.map_combined_window (h : Unaltered pool overrides)
    (kept : s.catalog.WellKept) (options : SelectionOptions) :
    (ranked (.forPool pool overrides) (window s pool options)).map (·.stop.scores.combined) =
      ((wholeRanking s pool overrides).map (·.stop.scores.combined)).take
        (max options.rawLimit options.limit) := by
  have stored : ∀ t ∈ s.catalog.byRisk pool, ReadsBack t.scores.combined := by
    intro t ht
    exact readsBack_ofPool kept pool t ((s.catalog.byRisk_perm pool).mem_iff.mp ht)
  have whole : IsRanking pool overrides (· ∈ s.catalog.byRisk pool)
      (wholeRanking s pool overrides) := by
    apply isRanking_ranked (kept.nodup_ofPool pool)
    intro t
    exact (s.catalog.byRisk_perm pool).mem_iff.symm
  have falling := s.catalog.byRisk_pairwise pool
  rw [h.map_combined stored (kept.nodup_byRisk pool) falling whole,
    h.map_combined (readsBack_window kept pool options) (nodup_window kept pool options)
      (falling.sublist (List.take_sublist _ _)) (isRanking_window kept pool overrides options)]
  exact List.map_take

theorem Unaltered.wholeRanking_eq_append (h : Unaltered pool overrides)
    (kept : s.catalog.WellKept) {options : SelectionOptions}
    (apart : ∀ hidden ∈ s.catalog.ofPool pool, hidden ∉ window s pool options →
      ∀ seen ∈ window s pool options, hidden.scores.combined ≠ seen.scores.combined) :
    wholeRanking s pool overrides =
      (wholeRanking s pool overrides).filter (·.stop ∈ window s pool options) ++
        (wholeRanking s pool overrides).filter fun c =>
          !decide (c.stop ∈ window s pool options) := by
  have whole := isRanking_wholeRanking kept pool overrides
  have stored := readsBack_ofPool kept pool
  have perm := List.filter_append_perm
    (fun c : Candidate => decide (c.stop ∈ window s pool options)) (wholeRanking s pool overrides)
  apply perm.symm.eq_of_pairwise _ whole.ordered
  · rw [List.pairwise_append]
    refine ⟨whole.ordered.filter _, whole.ordered.filter _, ?_⟩
    intro a ha b hb
    simp only [List.mem_filter, decide_eq_true_eq, Bool.not_eq_true', decide_eq_false_iff_not,
      h.mem_iff stored whole] at ha hb
    obtain ⟨⟨_, score_a⟩, seen⟩ := ha
    obtain ⟨⟨listed, score_b⟩, hidden⟩ := hb
    left
    rw [rank_score_of_eq score_a, rank_score_of_eq score_b]
    apply lt_of_le_of_ne (Catalog.rank_le_of_not_mem_top seen listed hidden)
    intro same
    exact apart _ listed hidden _ seen (rank_injective same)
  · intro a b _ _ ab ba
    exact absurd ba ab.asymm

end Cut

/-- Selection from a pool without overrides answers what ranking the whole pool would, except that
it leaves out what the window hides: the same error, and otherwise as many stops with the same
scores. They are the same stops exactly if the window holds the best of the pool, as it does when
no stop outside the window has the same risk as one in it. -/
theorem candidates_of_window {s : Store} (reachable : Reachable s) {pool : String}
    {overrides : List Override} (unaltered : Unaltered pool overrides)
    (options : SelectionOptions) :
    ∃ answer, (candidates riskCatalog pool overrides options).outcome s = (answer, s) ∧
      answer = best options
        ((wholeRanking s pool overrides).filter (·.stop ∈ window s pool options)) ∧
      (∀ e, answer = .error e ↔ best options (wholeRanking s pool overrides) = .error e) ∧
      (∀ chosen, answer = .ok chosen →
        chosen.map (·.score) =
          ((wholeRanking s pool overrides).take options.limit).map (·.score) ∧
        (chosen = (wholeRanking s pool overrides).take options.limit ↔
          ∀ c ∈ (wholeRanking s pool overrides).take options.limit,
            c.stop ∈ window s pool options)) ∧
      ((∀ hidden ∈ s.catalog.ofPool pool, hidden ∉ window s pool options →
          ∀ seen ∈ window s pool options, hidden.scores.combined ≠ seen.scores.combined) →
        answer = best options (wholeRanking s pool overrides)) := by
  have kept := reachable.wellKept
  have stored := readsBack_ofPool kept pool
  have outcome := unaltered.outcome_candidates kept options
  have risks := unaltered.map_combined_window kept options
  have scores := unaltered.map_score (readsBack_window kept pool options)
    (isRanking_window kept pool overrides options)
  have wholeScores : ((wholeRanking s pool overrides).take options.limit).map (·.score) =
      (((wholeRanking s pool overrides).map (·.stop.scores.combined)).map .ofFloat).take
        options.limit := by
    rw [List.map_take, unaltered.map_score stored (isRanking_wholeRanking kept pool overrides)]
  rw [unaltered.ranked_window kept options] at outcome risks scores
  have count := congrArg List.length risks
  rw [List.length_take, List.length_map, List.length_map] at count
  refine ⟨_, outcome, rfl, best_eq_error_congr (by omega), ?_, ?_⟩
  · intro chosen answer
    have chosen_eq := best_eq_ok answer
    constructor
    · rw [wholeScores, chosen_eq, List.map_take, scores, risks, List.map_take, List.take_take,
        Nat.min_eq_left (Nat.le_max_right _ _)]
    · rw [chosen_eq, take_filter_eq_iff]
      simp
  · intro apart
    apply best_congr
    rw [take_filter_eq_iff]
    intro c hc
    rw [unaltered.wholeRanking_eq_append kept apart, List.take_append, List.mem_append] at hc
    rcases hc with inside | outside
    · exact (List.mem_filter.mp (List.mem_of_mem_take inside)).2
    · -- The window is full, or it holds the whole pool.
      have sum := congrArg List.length (unaltered.wholeRanking_eq_append kept apart)
      have some_left := List.length_pos_of_mem outside
      rw [List.length_append] at sum
      rw [List.length_take] at some_left
      omega

/-! Three stops with the same risk, of which the last one in the order of ids weighs more. -/

namespace Tie

def stop (id : StopId) (hotspot : Float) : Stop :=
  ⟨id, ⟨0, 0⟩, none, none, some ⟨5, hotspot, 0⟩⟩

def store : Store :=
  Store.empty.afterAll [.upsertStop "north" (stop "A" 0), .upsertStop "north" (stop "B" 0),
    .upsertStop "north" (stop "C" 9)]

def candidate (id : StopId) (hotspot : Float) : Candidate :=
  ⟨stop id hotspot, .ofFloat 5⟩

theorem ofPool_store : store.catalog.ofPool "north" = [stop "A" 0, stop "B" 0, stop "C" 9] := by
  decide

theorem byRisk_store : store.catalog.byRisk "north" = [stop "A" 0, stop "B" 0, stop "C" 9] := by
  rw [Catalog.byRisk, ofPool_store]
  exact List.mergeSort_of_pairwise (by decide)

theorem wholeRanking_store : wholeRanking store "north" [] =
    [candidate "C" 9, candidate "A" 0, candidate "B" 0] := by
  have scores : scored (.forPool "north" []) [stop "A" 0, stop "B" 0, stop "C" 9] =
      [candidate "A" 0, candidate "B" 0, candidate "C" 9] := by
    decide +kernel
  have infront : (compareCandidates (candidate "A" 0) (candidate "B" 0)).isLE = true := by
    decide
  have behind : ∀ id ∈ ["A", "B"],
      (compareCandidates (candidate id 0) (candidate "C" 9)).isLE = false := by
    decide
  rw [wholeRanking, ofPool_store, ranked, scores]
  simp [List.mergeSort, List.MergeSort.Internal.splitInTwo, infront, behind]

end Tie

/-- A window of three stops hides none. -/
theorem candidates_of_window_tie :
    Reachable Tie.store ∧ Unaltered "north" [] ∧
      (candidates riskCatalog "north" [] ⟨2, 3⟩).outcome Tie.store =
        (.ok [Tie.candidate "C" 9, Tie.candidate "A" 0], Tie.store) := by
  have reachable : Reachable Tie.store := Reachable.empty.afterAll _
  have unaltered : Unaltered "north" [] := by
    intro o ho
    cases ho
  obtain ⟨answer, outcome, -, -, -, whole⟩ := candidates_of_window reachable unaltered ⟨2, 3⟩
  have answer_eq : answer = .ok [Tie.candidate "C" 9, Tie.candidate "A" 0] := by
    rw [whole, Tie.wholeRanking_store]
    · rfl
    · intro hidden listed outside
      rw [Tie.ofPool_store] at listed
      rw [window, Catalog.top_eq_take, Tie.byRisk_store] at outside
      exact absurd listed outside
  exact ⟨reachable, unaltered, answer_eq ▸ outcome⟩

/-- A window of two stops hides the third, which is the best of all three. -/
theorem window_hides_best :
    Reachable Tie.store ∧ Unaltered "north" [] ∧
      ((candidates riskCatalog "north" [] ⟨2, 2⟩).outcome Tie.store).1 =
        .ok [Tie.candidate "A" 0, Tie.candidate "B" 0] ∧
      best ⟨2, 2⟩ (wholeRanking Tie.store "north" []) =
        .ok [Tie.candidate "C" 9, Tie.candidate "A" 0] ∧
      ((candidates riskCatalog "north" [] ⟨2, 2⟩).outcome Tie.store).1 ≠
        best ⟨2, 2⟩ (wholeRanking Tie.store "north" []) := by
  have reachable : Reachable Tie.store := Reachable.empty.afterAll _
  have unaltered : Unaltered "north" [] := by
    intro o ho
    cases ho
  have seen : window Tie.store "north" ⟨2, 2⟩ = [Tie.stop "A" 0, Tie.stop "B" 0] := by
    rw [window, Catalog.top_eq_take, Tie.byRisk_store]
    rfl
  have answer : ((candidates riskCatalog "north" [] ⟨2, 2⟩).outcome Tie.store).1 =
      .ok [Tie.candidate "A" 0, Tie.candidate "B" 0] := by
    rw [unaltered.outcome_candidates reachable.wellKept, unaltered.ranked_window reachable.wellKept,
      Tie.wholeRanking_store, seen]
    decide
  have whole : best ⟨2, 2⟩ (wholeRanking Tie.store "north" []) =
      .ok [Tie.candidate "C" 9, Tie.candidate "A" 0] := by
    rw [Tie.wholeRanking_store]
    rfl
  refine ⟨reachable, unaltered, answer, whole, ?_⟩
  rw [answer, whole]
  decide

end ServiceRoute.Selection
