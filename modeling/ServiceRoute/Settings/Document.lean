import ServiceRoute.Json.Reader
import ServiceRoute.Json.Record
import ServiceRoute.Options

/-! # Options from a document

Planner options as JSON. Every field and every section may be missing and then
keeps its default; one that is given has to have the right type.
-/

namespace ServiceRoute

open Json

def ServerOptions.ofJson? (json : Json) : Option ServerOptions := do
  let d : ServerOptions := {}
  let [baseUrl, profile, timeout] ← fields? ["base_url", "profile", "timeout_secs"] 0 json
    | none
  return ⟨← defaulted d.baseUrl string? baseUrl, ← defaulted d.profile string? profile,
    ← defaulted d.timeoutSeconds word? timeout⟩

def SelectionOptions.ofJson? (json : Json) : Option SelectionOptions := do
  let d : SelectionOptions := {}
  let [limit, rawLimit] ← fields? ["limit", "raw_limit"] 0 json | none
  return ⟨← defaulted d.limit word? limit, ← defaulted d.rawLimit word? rawLimit⟩

def RelocationOptions.ofJson? (json : Json) : Option RelocationOptions := do
  let d : RelocationOptions := {}
  let [lookahead, maxMoves, minImprovement, maxStops] ←
    fields? ["lookahead", "max_moves", "min_improvement_seconds", "max_stops"] 0 json | none
  return ⟨← defaulted d.lookahead word? lookahead, ← defaulted d.maxMoves word? maxMoves,
    ← defaulted d.minImprovement float? minImprovement,
    ← defaulted d.maxStops word? maxStops⟩

def CorridorOptions.ofJson? (json : Json) : Option CorridorOptions := do
  let d : CorridorOptions := {}
  let [window, threshold] ← fields? ["window", "threshold"] 0 json | none
  return ⟨← defaulted d.window word? window, ← defaulted d.threshold float? threshold⟩

def PlannerOptions.ofJson? (json : Json) : Option PlannerOptions := do
  let [server, selection, relocation, corridor] ←
    fields? ["osrm", "selection", "post_optimize", "corridor"] 0 json | none
  return ⟨← defaulted {} ServerOptions.ofJson? server,
    ← defaulted {} SelectionOptions.ofJson? selection,
    ← defaulted {} RelocationOptions.ofJson? relocation,
    ← defaulted {} CorridorOptions.ofJson? corridor⟩

def PlannerOptions.ofDocument? (text : String) : Option PlannerOptions :=
  (Json.parse? text).bind ofJson?

end ServiceRoute
