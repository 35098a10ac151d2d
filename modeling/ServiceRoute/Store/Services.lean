import ServiceRoute.Planning
import ServiceRoute.Store.Basic

/-! # Planning with a store

The store as catalog, override source and registry of a planning call, beside a
cost oracle that lives in a world of its own. A store failure is a persistence
failure.
-/

namespace ServiceRoute

variable {σ α : Type}

def Store.Action.plan (act : Store.Action α) : Planning Store α :=
  ExceptT.adapt (fun e => PlanError.persistenceFailed (.store e)) act

/-- An oracle whose world is the second half of a larger one. -/
def CostOracle.inner {τ : Type} (oracle : CostOracle σ) : CostOracle (τ × σ) where
  planTrip waypoints source := (oracle.planTrip waypoints source).inner
  legCost a b approach := (oracle.legCost a b approach).inner

namespace Store

def riskCatalog : RiskCatalog Store where
  topStops pool limit := return (← get).topStops pool limit
  stopsById pool ids := return (← get).stopsById pool ids

def registry : RunRegistry Store where
  activeBase base := return (← get).activeBase base
  insertRun header total entries := (insertRun header total entries).plan

/-- What a planning call over the store consults. -/
def services (oracle : CostOracle σ) (announce : Stage → List Waypoint → Planning σ Unit)
    (schedule : Schedule := fun _ => .inOrder) : Services (Store × σ) where
  oracle := oracle.inner
  catalog :=
    { topStops := fun pool limit => (riskCatalog.topStops pool limit).outer
      stopsById := fun pool ids => (riskCatalog.stopsById pool ids).outer }
  overrides pool := (overridesForPool pool).plan.outer
  registry :=
    { activeBase := fun base => (registry.activeBase base).outer
      insertRun := fun header total entries => (registry.insertRun header total entries).outer }
  announce stage stops := (announce stage stops).inner
  schedule := schedule

end Store

end ServiceRoute
