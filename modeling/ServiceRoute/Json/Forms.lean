import ServiceRoute.Cost
import ServiceRoute.Json.Record
import ServiceRoute.Override
import ServiceRoute.RouteRun

/-! # JSON forms

How stops, waypoints, overrides, legs and statuses are exchanged as JSON. Every
form reads what it writes; reading is lenient about field order, about fields it
does not know and about optional fields that are missing.
-/

namespace ServiceRoute

open Json

namespace Coordinate

def toJson (c : Coordinate) : Json :=
  .record [("lon", .ofFloat c.lon), ("lat", .ofFloat c.lat)]

def ofJson? (json : Json) : Option Coordinate := do
  let [lon, lat] ← fields? ["lon", "lat"] 2 json | none
  return ⟨← required float? lon, ← required float? lat⟩

end Coordinate

namespace RiskScores

def fieldNames : List String :=
  ["combined_risk_score", "hotspot_weight", "l3_urgency_weight"]

def toJson (r : RiskScores) : Json :=
  .record (fieldNames.zip ([r.combined, r.hotspot, r.urgency].map .ofFloat))

def ofJson? (json : Json) : Option RiskScores := do
  let [combined, hotspot, urgency] ← fields? fieldNames 3 json | none
  return ⟨← required float? combined, ← required float? hotspot, ← required float? urgency⟩

end RiskScores

namespace Stop

def fieldNames : List String :=
  ["stop_id", "location", "on_street_name", "bearing_code", "risk"]

def toJson (s : Stop) : Json :=
  .record <| fieldNames.zip
    [.ofString s.id, s.location.toJson, .ofOptString s.street, .ofOptString s.bearing,
      (s.risk.map RiskScores.toJson).getD .null]

def ofJson? (json : Json) : Option Stop := do
  let [id, location, street, bearing, risk] ← fields? fieldNames 5 json | none
  return ⟨← required string? id, ← required Coordinate.ofJson? location,
    ← optional string? street, ← optional string? bearing,
    ← optional RiskScores.ofJson? risk⟩

end Stop

def OverrideKind.ofJson? : Json → Option OverrideKind :=
  named? OverrideKind.ofName?

def RunStatus.ofJson? : Json → Option RunStatus :=
  named? RunStatus.ofName?

def StopStatus.ofJson? : Json → Option StopStatus :=
  named? StopStatus.ofName?

namespace Override

def fieldNames : List String :=
  ["pool_id", "stop_id", "override_type", "value"]

def toJson (o : Override) : Json :=
  .record <| fieldNames.zip
    [.ofString o.pool, .ofString o.stop, .ofString o.kind.name,
      (o.value.map Json.ofFloat).getD .null]

def ofJson? (json : Json) : Option Override := do
  let [pool, stop, kind, value] ← fields? fieldNames 4 json | none
  return ⟨← required string? pool, ← required string? stop,
    ← required OverrideKind.ofJson? kind, ← optional float? value⟩

end Override

namespace WaypointKind

def toJson : WaypointKind → Json
  | .depot => .ofString "Depot"
  | .stop id => .record [("Stop", .ofString id)]
  | .location => .ofString "Location"

/-- The kinds that are named without a stop id. -/
def ofName? (name : String) : Option WaypointKind :=
  if name = "Depot" then some .depot
  else if name = "Location" then some .location
  else none

def ofJson? : Json → Option WaypointKind
  | .object [(some "Stop", id)] => .stop <$> string? id
  | json => named? ofName? json

end WaypointKind

namespace Waypoint

def fieldNames : List String :=
  ["location", "kind", "on_street_name", "bearing_code"]

def toJson (w : Waypoint) : Json :=
  .record <| fieldNames.zip
    [w.location.toJson, w.kind.toJson, .ofOptString w.street, .ofOptString w.bearing]

def ofJson? (json : Json) : Option Waypoint := do
  let [location, kind, street, bearing] ← fields? fieldNames 4 json | none
  return ⟨← required Coordinate.ofJson? location, ← required WaypointKind.ofJson? kind,
    ← optional string? street, ← optional string? bearing⟩

end Waypoint

namespace Cost

def toJson (c : Cost) : Json :=
  .record [("distance_m", .ofFloat c.distance), ("duration_s", .ofFloat c.duration)]

def ofJson? (json : Json) : Option Cost := do
  let [distance, duration] ← fields? ["distance_m", "duration_s"] 2 json | none
  return ⟨← required float? distance, ← required float? duration⟩

end Cost

namespace Leg

def toJson (leg : Leg) : Json :=
  .record [("from_index", .ofNat leg.fromIndex), ("to_index", .ofNat leg.toIndex),
    ("cost", leg.cost.toJson)]

def ofJson? (json : Json) : Option Leg := do
  let [start, stop, cost] ← fields? ["from_index", "to_index", "cost"] 3 json | none
  return ⟨← required word? start, ← required word? stop, ← required Cost.ofJson? cost⟩

end Leg

end ServiceRoute
