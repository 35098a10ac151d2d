import ServiceRoute.Failure
import ServiceRoute.Json.Reader
import ServiceRoute.Json.Record
import ServiceRoute.Cost

/-! # Answers

The answers of the routing server to trip and route requests, and what they say
about the waypoints that were asked for. A trip answer lists its waypoints in the
order of the request, each with its place in the trip, so the trip is had by
sorting the inputs by those places.
-/

namespace ServiceRoute.RoutingServer

open Json

/-- One route of an answer, with the costs of its legs. -/
structure AnswerRoute where
  cost : Cost
  legs : List Cost
deriving DecidableEq, Inhabited

/-- The place of an input in the trip, and where it was snapped to. -/
structure AnswerWaypoint where
  index : Nat
  location : Coordinate
deriving DecidableEq, Inhabited

structure TripAnswer where
  code : String
  message : Option String
  trips : Option (List AnswerRoute)
  waypoints : Option (List AnswerWaypoint)
deriving DecidableEq, Inhabited

structure RouteAnswer where
  code : String
  message : Option String
  routes : Option (List AnswerRoute)
deriving DecidableEq, Inhabited

section Reading

def answerLeg? (json : Json) : Option Cost := do
  let [distance, duration] ← fields? ["distance", "duration"] 2 json | none
  return ⟨← required float? distance, ← required float? duration⟩

def AnswerRoute.ofJson? (json : Json) : Option AnswerRoute := do
  let [distance, duration, legs] ← fields? ["distance", "duration", "legs"] 2 json | none
  return ⟨⟨← required float? distance, ← required float? duration⟩,
    ← defaulted [] (list? answerLeg?) legs⟩

def position? (json : Json) : Option Coordinate := do
  let [lon, lat] ← list? float? json | none
  return ⟨lon, lat⟩

def AnswerWaypoint.ofJson? (json : Json) : Option AnswerWaypoint := do
  let [index, location] ← fields? ["waypoint_index", "location"] 2 json | none
  return ⟨← required word? index, ← required position? location⟩

def TripAnswer.ofJson? (json : Json) : Option TripAnswer := do
  let [code, message, trips, waypoints] ←
    fields? ["code", "message", "trips", "waypoints"] 4 json | none
  return ⟨← required string? code, ← optional string? message,
    ← optional (list? AnswerRoute.ofJson?) trips,
    ← optional (list? AnswerWaypoint.ofJson?) waypoints⟩

def RouteAnswer.ofJson? (json : Json) : Option RouteAnswer := do
  let [code, message, routes] ← fields? ["code", "message", "routes"] 3 json | none
  return ⟨← required string? code, ← optional string? message,
    ← optional (list? AnswerRoute.ofJson?) routes⟩

end Reading

/-- Only the code `Ok` is an answer to the question. -/
def checkCode (code : String) (message : Option String) : Except PlanError Unit :=
  if code = "Ok" then .ok ()
  else .error (.planningFailed (.responded code (message.getD "")))

/-- The inputs at their returned positions, in the order of their places in the
trip; inputs at one place stay in the order of the request. -/
def orderedInputs (inputs : List Waypoint) (returned : List AnswerWaypoint) : List Waypoint :=
  ((inputs.zip returned).mergeSort fun a b => a.2.index ≤ b.2.index).map fun (w, r) =>
    { w.withoutStreet with location := r.location }

def TripAnswer.plan (inputs : List Waypoint) (answer : TripAnswer) :
    Except PlanError TripPlan := do
  checkCode answer.code answer.message
  match answer.trips.getD [] with
  | [] => throw (.planningFailed .noTrips)
  | [trip] =>
    let returned := answer.waypoints.getD []
    if returned.length ≠ inputs.length then
      throw (.planningFailed (.waypointCount returned.length inputs.length))
    else
      pure { total := trip.cost
             ordered := orderedInputs inputs returned
             legs := Leg.chain trip.legs }
  | trips => throw (.planningFailed (.splitTrips trips.length))

def RouteAnswer.cost (answer : RouteAnswer) : Except PlanError Cost := do
  checkCode answer.code answer.message
  match answer.routes.getD [] with
  | [] => throw (.planningFailed .noRoute)
  | route :: _ => pure route.cost

end ServiceRoute.RoutingServer
