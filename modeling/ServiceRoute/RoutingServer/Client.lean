import ServiceRoute.Planning
import ServiceRoute.RoutingServer.Address
import ServiceRoute.RoutingServer.Answer
import ServiceRoute.RoutingServer.Reply
import ServiceRoute.Web.Request

/-! # The routing client

A cost oracle that asks a routing server. How a request travels is left to a
transport, which may remember what it was asked. What is no web address never
gets to the transport.
-/

namespace ServiceRoute.RoutingServer

variable {σ α : Type}

abbrev Transport (σ : Type) : Type :=
  Web.Request → StateM σ Reply

def send (transport : Transport σ) (url : String) : StateM σ Reply :=
  match Web.Request.ofUrl? url with
  | some request => transport request
  | none => pure .unreachable

/-- What a reply says, read by `read`. Whatever is not a readable success is a
planning failure. -/
def interpret (options : ServerOptions) (read : Json → Option α) (url : String) :
    Reply → Except PlanError α
  | .timedOut => .error (.planningFailed (.timedOut url options.timeoutSeconds))
  | .unreachable => .error (.planningFailed (.unreachable url))
  | .answered status body =>
    if isSuccess status then
      match (Json.parse? body).bind read with
      | some answer => .ok answer
      | none => .error (.planningFailed (.undecodable url))
    else .error (.planningFailed (.refused (statusText status) url body))

def fetch (transport : Transport σ) (options : ServerOptions) (read : Json → Option α)
    (url : String) : Planning σ α := do
  let reply ← liftM (send transport url)
  liftM (interpret options read url reply)

def client (transport : Transport σ) (options : ServerOptions) : CostOracle σ where
  planTrip waypoints source := do
    if waypoints.length < 2 then throw (.planningFailed .tooFewWaypoints)
    else
      let answer ← fetch transport options TripAnswer.ofJson? (tripUrl options waypoints source)
      liftM (answer.plan waypoints)
  legCost a b approach := do
    let answer ← fetch transport options RouteAnswer.ofJson? (routeUrl options a b approach)
    liftM answer.cost

end ServiceRoute.RoutingServer
