import ServiceRoute.Options
import ServiceRoute.Planning
import ServiceRoute.Selection.Ranking

/-! # Candidate selection

The candidates of a pool are the best ranked of its riskiest stops, without the
excluded ones and with the included ones fetched by id where they are missing. A
stop that is both included and excluded comes back through its inclusion.
-/

namespace ServiceRoute.Selection

variable {σ : Type}

/-- The fetched stops that remain: the first row of each id, unless excluded. -/
def admitted (set : OverrideSet) (fetched : List Stop) : List Stop :=
  (firstPer (·.id) fetched).filter (·.id ∉ set.excluded)

/-- The included stops that have to be fetched by id. -/
def missing (set : OverrideSet) (stops : List Stop) : List StopId :=
  set.included.filter (· ∉ stops.map (·.id))

/-- The first row of each id that was asked for. -/
def answering (ids : List StopId) (found : List Stop) : List Stop :=
  firstPer (·.id) (found.filter (·.id ∈ ids))

/-- The rows of the missing stops. Nothing is asked when none is missing. -/
def fetchMissing (catalog : RiskCatalog σ) (pool : String) (ids : List StopId) :
    Planning σ (List Stop) :=
  if ids.isEmpty then pure []
  else answering ids <$> catalog.stopsById pool ids

/-- The best candidates of a pool. Fewer than two are not enough to plan. -/
def candidates (catalog : RiskCatalog σ) (pool : String) (overrides : List Override)
    (options : SelectionOptions) : Planning σ (List Candidate) := do
  let set := OverrideSet.forPool pool overrides
  let fetched ← catalog.topStops pool (max options.rawLimit options.limit)
  let organic := admitted set fetched
  let forced ← fetchMissing catalog pool (missing set organic)
  let chosen := (ranked set (organic ++ forced)).take options.limit
  if chosen.length < 2 then throw (.insufficientCandidates chosen.length)
  else pure chosen

end ServiceRoute.Selection
