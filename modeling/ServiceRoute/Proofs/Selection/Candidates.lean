import ServiceRoute.Proofs.Planning.Outcome
import ServiceRoute.Proofs.Selection.Ranking
import ServiceRoute.Selection.Candidates

/-!
# The selected candidates

Which stops are eligible is said row by row: a stop is, when its row is the first with its id
among the fetched ones and it is not excluded, or when it is included, no such row has its id,
and its row is the first with its id among those looked up. Selection ranks the eligible stops
and keeps the best of them.
-/

namespace ServiceRoute.Selection

open Planning

variable {σ : Type}

/-- No earlier row has the id of the stop. -/
def FirstRow (rows : List Stop) (s : Stop) : Prop :=
  rows.find? (·.id = s.id) = some s

section Eligible

variable (pool : String) (overrides : List Override)

/-- Fetched and not excluded. -/
def Organic (top : List Stop) (s : Stop) : Prop :=
  FirstRow top s ∧ ¬ Named pool overrides .forceExclude s.id

/-- Included, but not among the organic stops. -/
def Missing (top : List Stop) (id : StopId) : Prop :=
  Named pool overrides .forceInclude id ∧ ∀ t, Organic pool overrides top t → t.id ≠ id

def Eligible (top found : List Stop) (s : Stop) : Prop :=
  Organic pool overrides top s ∨ Missing pool overrides top s.id ∧ FirstRow found s

variable {pool overrides} {top found : List Stop}

theorem mem_admitted {s : Stop} :
    s ∈ admitted (.forPool pool overrides) top ↔ Organic pool overrides top s := by
  rw [admitted, List.mem_filter, mem_firstPer, decide_eq_true_eq, OverrideSet.mem_excluded]
  rfl

variable (pool overrides top) in
/-- The ids that selection looks up. -/
def wanted : List StopId :=
  missing (.forPool pool overrides) (admitted (.forPool pool overrides) top)

theorem mem_wanted {id : StopId} :
    id ∈ wanted pool overrides top ↔ Missing pool overrides top id := by
  rw [wanted, missing, List.mem_filter, OverrideSet.mem_included]
  simp [Missing, mem_admitted]

theorem wanted_pairwise : (wanted pool overrides top).Pairwise (· < ·) :=
  (OverrideSet.stopsOf_pairwise _ _).filter _

theorem nodup_wanted : (wanted pool overrides top).Nodup :=
  wanted_pairwise.imp fun less => ne_of_lt less

theorem mem_answering {ids : List StopId} {s : Stop} :
    s ∈ answering ids found ↔ s.id ∈ ids ∧ FirstRow found s := by
  rw [answering, mem_firstPer, List.find?_filter, FirstRow]
  by_cases asked : s.id ∈ ids
  · have same : ∀ row : Stop,
        decide (decide (row.id ∈ ids) = true ∧ decide (row.id = s.id) = true) =
          decide (row.id = s.id) := by
      intro row
      by_cases hid : row.id = s.id <;> simp [hid, asked]
    simp only [same, asked, true_and]
  · refine ⟨fun kept => ?_, fun answer => absurd answer.1 asked⟩
    have holds := List.find?_some kept
    simp [asked] at holds

/-- A stop that is excluded only comes back through its inclusion. -/
theorem eligible_of_excluded {s : Stop} (excluded : Named pool overrides .forceExclude s.id) :
    Eligible pool overrides top found s ↔
      Named pool overrides .forceInclude s.id ∧ FirstRow found s := by
  have no_organic : ∀ t, Organic pool overrides top t → t.id ≠ s.id := by
    rintro t ⟨_, admitted⟩ same
    exact admitted (same ▸ excluded)
  constructor
  · rintro (organic | ⟨⟨included, _⟩, first⟩)
    · exact absurd rfl (no_organic s organic)
    · exact ⟨included, first⟩
  · rintro ⟨included, first⟩
    exact Or.inr ⟨⟨included, no_organic⟩, first⟩

end Eligible

section Outcome

variable (catalog : RiskCatalog σ) (pool : String) (overrides : List Override)
variable (options : SelectionOptions)

/-- The rows the catalog has for these ids. It is not asked for none. -/
def lookUp (ids : List StopId) : Planning σ (List Stop) :=
  if ids = [] then pure [] else catalog.stopsById pool ids

theorem fetchMissing_eq (ids : List StopId) :
    fetchMissing catalog pool ids = answering ids <$> lookUp catalog pool ids := by
  cases ids with
  | nil => simp [fetchMissing, lookUp, answering, firstPer]
  | cons id ids => rfl

/-- The stops to be ranked: the organic ones and those looked up. -/
def pooled (top found : List Stop) : List Stop :=
  admitted (.forPool pool overrides) top ++ answering (wanted pool overrides top) found

theorem mem_pooled {top found : List Stop} {s : Stop} :
    s ∈ pooled pool overrides top found ↔ Eligible pool overrides top found s := by
  rw [pooled, List.mem_append, mem_admitted, mem_answering, mem_wanted, Eligible]

theorem nodup_ids_pooled (top found : List Stop) :
    ((pooled pool overrides top found).map (·.id)).Nodup := by
  rw [pooled, List.map_append]
  refine List.nodup_append'.mpr ⟨?_, nodup_map_firstPer _ _, ?_⟩
  · exact (nodup_map_firstPer _ _).sublist (List.filter_sublist.map _)
  · intro id horganic hfound
    obtain ⟨s, hs, rfl⟩ := List.mem_map.mp horganic
    obtain ⟨t, ht, same⟩ := List.mem_map.mp hfound
    have absent := (mem_wanted.mp (mem_answering.mp ht).1).2
    exact absent s (mem_admitted.mp hs) same.symm

/-- The best of a ranking, when they are enough to plan with. -/
def best (order : List Candidate) : Except PlanError (List Candidate) :=
  let count := min options.limit order.length
  if count < 2 then .error (.insufficientCandidates count) else .ok (order.take options.limit)

/-- Selection after its first question. -/
def selectFrom (top : List Stop) : Planning σ (List Candidate) := do
  let found ← lookUp catalog pool (wanted pool overrides top)
  liftM (best options (ranked (.forPool pool overrides) (pooled pool overrides top found)))

theorem candidates_eq : candidates catalog pool overrides options =
    catalog.topStops pool (max options.rawLimit options.limit) >>=
      selectFrom catalog pool overrides options := by
  unfold candidates
  refine bind_congr fun top => ?_
  unfold selectFrom
  dsimp only
  rw [fetchMissing_eq, bind_map_left]
  refine bind_congr fun found => ?_
  rw [best, List.length_take]
  unfold pooled wanted
  split_ifs <;> rfl

variable {catalog pool overrides options} in
theorem outcome_candidates_of_answers {top found : List Stop} {world world' world'' : σ}
    (fetched : (catalog.topStops pool (max options.rawLimit options.limit)).outcome world =
      (.ok top, world'))
    (lookedUp : (lookUp catalog pool (wanted pool overrides top)).outcome world' =
      (.ok found, world'')) :
    (candidates catalog pool overrides options).outcome world =
      (best options (ranked (.forPool pool overrides) (pooled pool overrides top found)),
        world'') := by
  rw [candidates_eq, outcome_bind_of_ok fetched, selectFrom, outcome_bind_of_ok lookedUp,
    outcome_liftM]

variable {options} in
theorem best_eq_ok {order chosen : List Candidate} (h : best options order = .ok chosen) :
    chosen = order.take options.limit := by
  unfold best at h
  dsimp only at h
  split at h
  · cases h
  · exact (Except.ok.inj h).symm

theorem best_eq_error {order : List Candidate} {n : Nat} :
    best options order = .error (.insufficientCandidates n) ↔
      min options.limit order.length = n ∧ n < 2 := by
  unfold best
  dsimp only
  split_ifs with few
  · simp only [Except.error.injEq, PlanError.insufficientCandidates.injEq]
    exact ⟨fun same => ⟨same, same ▸ few⟩, fun answer => answer.1⟩
  · simp only [false_iff]
    rintro ⟨rfl, enough⟩
    exact few enough

end Outcome

/-- Selection asks for the top stops, then for the missing ones if there are any, and passes the
first failure on. When the catalog answers, it ranks the eligible stops, in the only possible way,
and answers the best of them, or that they are too few. A stop that is excluded is ranked only
where it is included and looked up. -/
theorem candidates_selects (catalog : RiskCatalog σ) (pool : String) (overrides : List Override)
    (options : SelectionOptions) (world : σ) :
    (∀ e world',
      (catalog.topStops pool (max options.rawLimit options.limit)).outcome world =
        (.error e, world') →
      (candidates catalog pool overrides options).outcome world = (.error e, world')) ∧
    ∀ top world',
      (catalog.topStops pool (max options.rawLimit options.limit)).outcome world =
        (.ok top, world') →
      (wanted pool overrides top).Pairwise (· < ·) ∧
      (∀ id, id ∈ wanted pool overrides top ↔ Missing pool overrides top id) ∧
      (∀ e world'',
        (lookUp catalog pool (wanted pool overrides top)).outcome world' = (.error e, world'') →
        (candidates catalog pool overrides options).outcome world = (.error e, world'')) ∧
      ∀ found world'',
        (lookUp catalog pool (wanted pool overrides top)).outcome world' = (.ok found, world'') →
        ∃ order, IsRanking pool overrides (Eligible pool overrides top found) order ∧
          (∀ other, IsRanking pool overrides (Eligible pool overrides top found) other →
            other = order) ∧
          (candidates catalog pool overrides options).outcome world =
            (best options order, world'') ∧
          (∀ n, best options order = .error (.insufficientCandidates n) ↔
            min options.limit order.length = n ∧ n < 2) ∧
          ∀ s, Named pool overrides .forceExclude s.id →
            (s ∈ order.map (·.stop) ↔
              Named pool overrides .forceInclude s.id ∧ FirstRow found s) := by
  rw [candidates_eq]
  refine ⟨fun e world' failed => outcome_bind_of_error failed, fun top world' fetched => ?_⟩
  rw [outcome_bind_of_ok fetched]
  refine ⟨wanted_pairwise, fun id => mem_wanted, fun e world'' failed =>
    outcome_bind_of_error failed, fun found world'' lookedUp => ?_⟩
  have ranking : IsRanking pool overrides (Eligible pool overrides top found) _ :=
    isRanking_ranked (nodup_ids_pooled pool overrides top found) fun s => mem_pooled pool overrides
  refine ⟨_, ranking, fun other h => h.unique ranking, ?_, fun n => best_eq_error options,
    fun s excluded => ?_⟩
  · rw [selectFrom, outcome_bind_of_ok lookedUp, outcome_liftM]
  · rw [ranking.complete, eligible_of_excluded excluded]

/-! A pool with a duplicate row, and a stop that is both excluded and included. -/

namespace Pool

def row (id : StopId) (risk : Float) : Stop :=
  ⟨id, ⟨0, 0⟩, none, none, some ⟨risk, 0, 0⟩⟩

def rows : List Stop :=
  [row "B" 10, row "C" 5, row "A" 3, row "A" 50, row "D" 1]

def found : List Stop :=
  [row "B" 10, row "C" 5, row "C" 70]

def catalog : RiskCatalog Unit where
  topStops _ limit := pure (rows.take limit)
  stopsById _ _ := pure found

def overrides : List Override :=
  [⟨"north", "B", .forceExclude, none⟩, ⟨"north", "C", .forceExclude, none⟩,
    ⟨"north", "C", .forceInclude, none⟩, ⟨"north", "D", .priorityBump, some 2.5⟩,
    ⟨"south", "A", .priorityBump, some 9⟩, ⟨"north", "D", .priorityBump, some 1.5⟩]

def options : SelectionOptions :=
  ⟨2, 9⟩

def selected : List Candidate :=
  [⟨row "C" 5, .ofFloat 1010⟩, ⟨row "D" 1, .ofFloat 5⟩]

theorem stopsOf_overrides (kind : OverrideKind) :
    OverrideSet.stopsOf kind (overrides.filter (·.pool = "north")) =
      match kind with
      | .forceInclude => ["C"]
      | .forceExclude => ["B", "C"]
      | .priorityBump => ["D"] := by
  cases kind <;> exact List.mergeSort_of_pairwise (by decide)

theorem forPool_overrides :
    OverrideSet.forPool "north" overrides = ⟨["C"], ["B", "C"], [("D", .ofFloat 4)]⟩ := by
  rw [OverrideSet.forPool, stopsOf_overrides, stopsOf_overrides, stopsOf_overrides]
  decide +kernel

theorem wanted_rows : wanted "north" overrides rows = ["C"] := by
  rw [wanted, forPool_overrides]
  decide

theorem pooled_rows : pooled "north" overrides rows found = [row "A" 3, row "D" 1, row "C" 5] := by
  rw [pooled, wanted_rows, forPool_overrides]
  decide

theorem ranked_rows : ranked (.forPool "north" overrides) [row "A" 3, row "D" 1, row "C" 5] =
    selected ++ [⟨row "A" 3, .ofFloat 3⟩] := by
  have scores : scored (.forPool "north" overrides) [row "A" 3, row "D" 1, row "C" 5] =
      [⟨row "A" 3, .ofFloat 3⟩, ⟨row "D" 1, .ofFloat 5⟩, ⟨row "C" 5, .ofFloat 1010⟩] := by
    rw [forPool_overrides]
    decide +kernel
  have behindD : (compareCandidates ⟨row "A" 3, .ofFloat 3⟩ ⟨row "D" 1, .ofFloat 5⟩).isLE =
      false := by
    decide
  have behindC : (compareCandidates ⟨row "D" 1, .ofFloat 5⟩ ⟨row "C" 5, .ofFloat 1010⟩).isLE =
      false := by
    decide
  rw [ranked, scores]
  simp [List.mergeSort, List.MergeSort.Internal.splitInTwo, behindD, behindC, selected]

theorem ranking_eq {order : List Candidate}
    (h : IsRanking "north" overrides (Eligible "north" overrides rows found) order) :
    order = selected ++ [⟨row "A" 3, .ofFloat 3⟩] := by
  rw [← ranked_rows, ← pooled_rows]
  exact h.unique (isRanking_ranked (nodup_ids_pooled _ _ _ _) fun _ => mem_pooled _ _)

end Pool

theorem candidates_selects_pool :
    (Pool.catalog.topStops "north" 9).outcome () = (.ok Pool.rows, ()) ∧
      (lookUp Pool.catalog "north" (wanted "north" Pool.overrides Pool.rows)).outcome () =
        (.ok Pool.found, ()) ∧
      (candidates Pool.catalog "north" Pool.overrides Pool.options).outcome () =
        (.ok Pool.selected, ()) ∧
      Named "north" Pool.overrides .forceExclude "C" ∧
      Named "north" Pool.overrides .forceInclude "C" ∧ FirstRow Pool.found (Pool.row "C" 5) := by
  have fetched : (Pool.catalog.topStops "north" 9).outcome () = (.ok Pool.rows, ()) := rfl
  have lookedUp : (lookUp Pool.catalog "north" (wanted "north" Pool.overrides Pool.rows)).outcome
      () = (.ok Pool.found, ()) := by
    rw [Pool.wanted_rows]
    rfl
  have selects := (candidates_selects Pool.catalog "north" Pool.overrides Pool.options ()).2
  obtain ⟨-, -, -, answers⟩ := selects Pool.rows () fetched
  obtain ⟨order, ranking, -, outcome, -, excluded⟩ := answers Pool.found () lookedUp
  obtain rfl := Pool.ranking_eq ranking
  have twice : Named "north" Pool.overrides .forceExclude "C" := by decide +kernel
  have listed := (excluded (Pool.row "C" 5) twice).mp (by simp [Pool.selected])
  exact ⟨fetched, lookedUp, outcome, twice, listed⟩

end ServiceRoute.Selection
