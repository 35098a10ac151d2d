import ServiceRoute.Proofs.RoutePlanner.Trace
import ServiceRoute.Proofs.Selection.RowOrder

/-!
# Selection and the order of its inputs

Selection reads three lists: the overrides, the fetched stops and the stops looked up. It uses the
overrides only through what they say about its pool, where an inclusion or an exclusion said twice
is said once, and it uses the stops only as sets. So neither what it asks of the catalog nor what
it answers depends on how these lists are arranged.
-/

namespace ServiceRoute

open Planning

variable {σ τ : Type}

inductive CatalogCall where
  | topStops (pool : String) (limit : Nat)
  | stopsById (pool : String) (ids : List StopId)
deriving DecidableEq

def Consultation.catalogCall? : Consultation → Option CatalogCall
  | topStops pool limit _ => some (.topStops pool limit)
  | stopsById pool ids _ => some (.stopsById pool ids)
  | _ => none

def catalogCalls (log : List Consultation) : List CatalogCall :=
  log.filterMap Consultation.catalogCall?

open Consultation

/-- The catalog with every question noted in a log beside its world. -/
def RiskCatalog.traced (catalog : RiskCatalog σ) : RiskCatalog (List Consultation × σ) where
  topStops pool limit := note (.topStops pool limit) (catalog.topStops pool limit)
  stopsById pool ids := note (.stopsById pool ids) (catalog.stopsById pool ids)

theorem outcome_traced_topStops {catalog : RiskCatalog σ} {pool : String} {limit : Nat}
    {world left : σ} {answer : Except PlanError (List Stop)}
    (asked : (catalog.topStops pool limit).outcome world = (answer, left)) :
    (catalog.traced.topStops pool limit).outcome ([], world) =
      (answer, ([.topStops pool limit answer], left)) := by
  rw [RiskCatalog.traced, outcome_note, asked]
  rfl

namespace Selection

/-- The questions that selection puts to the catalog. -/
def calls (catalog : RiskCatalog σ) (pool : String) (overrides : List Override)
    (options : SelectionOptions) (world : σ) : List CatalogCall :=
  catalogCalls (logOf (candidates catalog.traced pool overrides options) world)

section Calls

variable {catalog : RiskCatalog σ} {pool : String} {overrides : List Override}
variable {options : SelectionOptions} {world left : σ}

theorem calls_of_error {e : PlanError}
    (failed : (catalog.topStops pool (max options.rawLimit options.limit)).outcome world =
      (.error e, left)) :
    calls catalog pool overrides options world =
      [.topStops pool (max options.rawLimit options.limit)] := by
  rw [calls, logOf, candidates_eq, outcome_bind_of_error (outcome_traced_topStops failed)]
  rfl

/-- After the top stops, the stops that are wanted are asked for, if there are any. -/
theorem calls_of_ok {top : List Stop}
    (fetched : (catalog.topStops pool (max options.rawLimit options.limit)).outcome world =
      (.ok top, left)) :
    calls catalog pool overrides options world =
      .topStops pool (max options.rawLimit options.limit) ::
        if wanted pool overrides top = [] then [] else
          [.stopsById pool (wanted pool overrides top)] := by
  rw [calls, logOf, candidates_eq, outcome_bind_of_ok (outcome_traced_topStops fetched), selectFrom,
    lookUp]
  split_ifs
  · rfl
  · -- Whether they are found or not, nothing is asked after that.
    rw [outcome_bind]
    rw [RiskCatalog.traced, outcome_note]
    cases ((catalog.stopsById pool (wanted pool overrides top)).outcome left).1 <;> rfl

theorem calls_eq_of_sameRows {catalog' : RiskCatalog τ} {world' : τ}
    (tops : AnswerAlike SameRows
      ((catalog.topStops pool (max options.rawLimit options.limit)).outcome world).1
      ((catalog'.topStops pool (max options.rawLimit options.limit)).outcome world').1) :
    calls catalog pool overrides options world = calls catalog' pool overrides options world' := by
  cases fetched : (catalog.topStops pool (max options.rawLimit options.limit)).outcome world with
  | mk answer left =>
    cases fetched' : (catalog'.topStops pool (max options.rawLimit options.limit)).outcome
        world' with
    | mk answer' left' =>
      rw [fetched, fetched'] at tops
      cases tops with
      | ok rows => rw [calls_of_ok fetched, calls_of_ok fetched', wanted_eq_of_sameRows rows]
      | error e => rw [calls_of_error fetched, calls_of_error fetched']

end Calls

section Overrides

/-- The values of the bumps that overrides of the pool give the stop, in their order. -/
def bumpValues (pool : String) (overrides : List Override) (id : StopId) : List Float :=
  (overrides.filter fun o => o.pool = pool ∧ o.kind = .priorityBump ∧ o.stop = id).map
    (·.value.getD 0)

/-- The lists include and exclude the same stops of the pool, however often, and give each stop of
the pool the same bumps in the same order. -/
structure SameOverrides (pool : String) (overrides overrides' : List Override) : Prop where
  included : ∀ id, Named pool overrides .forceInclude id ↔ Named pool overrides' .forceInclude id
  excluded : ∀ id, Named pool overrides .forceExclude id ↔ Named pool overrides' .forceExclude id
  bumps : ∀ id, bumpValues pool overrides id = bumpValues pool overrides' id

variable {pool : String} {overrides overrides' : List Override}

theorem named_priorityBump_iff {id : StopId} :
    Named pool overrides .priorityBump id ↔ bumpValues pool overrides id ≠ [] := by
  simp [Named, bumpValues, List.filter_eq_nil_iff]

theorem SameOverrides.named_iff (h : SameOverrides pool overrides overrides') (kind : OverrideKind)
    (id : StopId) : Named pool overrides kind id ↔ Named pool overrides' kind id := by
  cases kind with
  | forceInclude => exact h.included id
  | forceExclude => exact h.excluded id
  | priorityBump => rw [named_priorityBump_iff, named_priorityBump_iff, h.bumps]

theorem bumped_eq_foldl (pool : String) (overrides : List Override) (id : StopId) :
    bumped pool overrides id =
      ((bumpValues pool overrides id).map Score.ofFloat).foldl (· + ·) (.ofFloat 0) := by
  rw [bumped, bumpValues, List.map_map]
  rfl

theorem SameOverrides.forPool_eq (h : SameOverrides pool overrides overrides') :
    OverrideSet.forPool pool overrides = OverrideSet.forPool pool overrides' := by
  have stops : ∀ kind, OverrideSet.stopsOf kind (overrides.filter (·.pool = pool)) =
      OverrideSet.stopsOf kind (overrides'.filter (·.pool = pool)) :=
    fun kind => OverrideSet.stopsOf_own_eq (h.named_iff kind)
  have sums : ∀ id, OverrideSet.bumpOf (overrides.filter (·.pool = pool)) id =
      OverrideSet.bumpOf (overrides'.filter (·.pool = pool)) id := by
    intro id
    rw [OverrideSet.bumpOf_own, OverrideSet.bumpOf_own, bumped_eq_foldl, bumped_eq_foldl, h.bumps]
  simp only [OverrideSet.forPool, stops, sums]

theorem SameOverrides.candidates_eq (h : SameOverrides pool overrides overrides')
    (catalog : RiskCatalog σ) (options : SelectionOptions) :
    candidates catalog pool overrides options = candidates catalog pool overrides' options := by
  unfold candidates
  rw [h.forPool_eq]

end Overrides

/-- Selection asks for the top stops and then for those that are missing. Where two catalogs answer
these questions with the same rows in whatever order, or fail for the same reason, and two lists of
overrides say the same about the pool, it asks the same and answers the same. -/
theorem candidates_ignores_order {catalog : RiskCatalog σ} {catalog' : RiskCatalog τ}
    {pool : String} {overrides overrides' : List Override} {options : SelectionOptions}
    {world : σ} {world' : τ} (same : SameOverrides pool overrides overrides')
    (tops : AnswerAlike SameRows
      ((catalog.topStops pool (max options.rawLimit options.limit)).outcome world).1
      ((catalog'.topStops pool (max options.rawLimit options.limit)).outcome world').1)
    (founds : ∀ top top' left left',
      (catalog.topStops pool (max options.rawLimit options.limit)).outcome world =
        (.ok top, left) →
      (catalog'.topStops pool (max options.rawLimit options.limit)).outcome world' =
        (.ok top', left') →
      wanted pool overrides top ≠ [] →
      AnswerAlike SameRows ((catalog.stopsById pool (wanted pool overrides top)).outcome left).1
        ((catalog'.stopsById pool (wanted pool overrides top)).outcome left').1) :
    calls catalog pool overrides options world = calls catalog' pool overrides' options world' ∧
      ((candidates catalog pool overrides options).outcome world).1 =
        ((candidates catalog' pool overrides' options).outcome world').1 := by
  have asked : calls catalog' pool overrides' options world' =
      calls catalog' pool overrides options world' := by
    rw [calls, ← same.candidates_eq]
    rfl
  rw [asked, ← same.candidates_eq]
  exact ⟨calls_eq_of_sameRows tops, answer_candidates_of_sameRows tops founds⟩

/-! The pool with every row once, and the same pool and overrides in another order. Each catalog
answers with the first of its rows, so that asked for fewer the two answer with different stops. -/

namespace Shuffled

def catalog (rows : List Stop) : RiskCatalog Unit where
  topStops _ limit := pure (rows.take limit)
  stopsById _ ids := pure (rows.filter (·.id ∈ ids))

def rows : List Stop :=
  [Pool.row "B" 10, Pool.row "C" 5, Pool.row "A" 3, Pool.row "D" 1]

def rows' : List Stop :=
  [Pool.row "D" 1, Pool.row "A" 3, Pool.row "B" 10, Pool.row "C" 5]

def overrides' : List Override :=
  [⟨"south", "D", .forceExclude, none⟩, ⟨"north", "D", .priorityBump, some 2.5⟩,
    ⟨"north", "C", .forceInclude, none⟩, ⟨"north", "D", .priorityBump, some 1.5⟩,
    ⟨"north", "C", .forceExclude, none⟩, ⟨"north", "B", .forceExclude, none⟩,
    ⟨"north", "C", .forceInclude, none⟩, ⟨"north", "C", .forceExclude, none⟩]

theorem sameOverrides : SameOverrides "north" Pool.overrides overrides' where
  included id := by simp [Named, Pool.overrides, overrides']
  excluded id := by
    simp [Named, Pool.overrides, overrides']
    tauto
  bumps id := by
    by_cases h : "D" = id
    · subst h
      rfl
    · simp [bumpValues, Pool.overrides, overrides', h]

theorem wanted_rows : wanted "north" Pool.overrides rows = ["C"] := by
  rw [wanted, Pool.forPool_overrides]
  decide

theorem outcome_candidates :
    (candidates (catalog rows) "north" Pool.overrides Pool.options).outcome () =
      (.ok Pool.selected, ()) := by
  have pooled_rows : pooled "north" Pool.overrides rows [Pool.row "C" 5] =
      [Pool.row "A" 3, Pool.row "D" 1, Pool.row "C" 5] := by
    rw [pooled, wanted_rows, Pool.forPool_overrides]
    decide
  have fetched : ((catalog rows).topStops "north" 9).outcome () = (.ok rows, ()) := rfl
  have lookedUp : (lookUp (catalog rows) "north" (wanted "north" Pool.overrides rows)).outcome
      () = (.ok [Pool.row "C" 5], ()) := by
    rw [wanted_rows]
    rfl
  rw [outcome_candidates_of_answers fetched lookedUp, pooled_rows, Pool.ranked_rows]
  rfl

end Shuffled

theorem candidates_ignores_order_shuffled :
    calls (Shuffled.catalog Shuffled.rows) "north" Pool.overrides Pool.options () =
        calls (Shuffled.catalog Shuffled.rows') "north" Shuffled.overrides' Pool.options () ∧
      ((candidates (Shuffled.catalog Shuffled.rows') "north" Shuffled.overrides'
        Pool.options).outcome ()).1 = .ok Pool.selected ∧
      ¬ AnswerAlike SameRows (((Shuffled.catalog Shuffled.rows).topStops "north" 2).outcome ()).1
        (((Shuffled.catalog Shuffled.rows').topStops "north" 2).outcome ()).1 := by
  have tops : AnswerAlike SameRows
      (((Shuffled.catalog Shuffled.rows).topStops "north"
        (max Pool.options.rawLimit Pool.options.limit)).outcome ()).1
      (((Shuffled.catalog Shuffled.rows').topStops "north"
        (max Pool.options.rawLimit Pool.options.limit)).outcome ()).1 :=
    .ok ⟨by decide, by decide⟩
  obtain ⟨asked, answers⟩ := candidates_ignores_order Shuffled.sameOverrides tops
    fun top top' _ _ fetched _ _ => by
      have first : Shuffled.rows = top := Except.ok.inj (congrArg Prod.fst fetched)
      rw [← first, Shuffled.wanted_rows]
      exact .ok ⟨by decide, by decide⟩
  rw [Shuffled.outcome_candidates] at answers
  refine ⟨asked, answers.symm, ?_⟩
  rintro ⟨_, cut⟩
  exact absurd cut (by decide)

end Selection

end ServiceRoute
