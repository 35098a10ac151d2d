import ServiceRoute.Cost
import ServiceRoute.Options

/-! # Addresses of requests

A trip or a leg is asked for by an address that names the positions of its
waypoints to six decimals. Slashes at the end of the base address do not count.
-/

namespace ServiceRoute.RoutingServer

def base (options : ServerOptions) : String :=
  String.ofList (options.baseUrl.toList.reverse.dropWhile (· == '/')).reverse

def positions (waypoints : List Waypoint) : String :=
  ";".intercalate (waypoints.map (·.location.text))

/-- An open trip needs a fixed start. -/
def tripQuery : TripSource → String
  | .first => "source=first&destination=any&roundtrip=false&overview=false"
  | .any => "overview=false"

def tripUrl (options : ServerOptions) (waypoints : List Waypoint) (source : TripSource) :
    String :=
  base options ++ "/trip/v1/" ++ options.profile ++ "/" ++ positions waypoints ++ "?" ++
    tripQuery source

/-- The side of the road is given once per position. -/
def routeQuery : Approach → String
  | .curb => "overview=false&approaches=curb;curb"
  | .unrestricted => "overview=false"

def routeUrl (options : ServerOptions) (a b : Waypoint) (approach : Approach) : String :=
  base options ++ "/route/v1/" ++ options.profile ++ "/" ++ positions [a, b] ++ "?" ++
    routeQuery approach

end ServiceRoute.RoutingServer
