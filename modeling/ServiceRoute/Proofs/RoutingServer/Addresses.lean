import Mathlib.Data.List.Forall2
import ServiceRoute.Proofs.LegCache.FirstAnswers
import ServiceRoute.RoutingServer.Client

/-!
# Addresses and the keys of legs

The text of a place has no semicolon, so an address gives the texts of its places back when it is
cut at the semicolons between them. Two addresses are therefore equal only if they name places with
the same texts, one by one. A bare location is known to the cache by that text as well: looking legs
between bare locations up by their keys is looking them up by their addresses.
-/

namespace ServiceRoute.RoutingServer

open LegCache Planning Selection

variable {σ : Type}

section Texts

variable {vs ws : List Waypoint}

/-- Two waypoints are at the same place, to six decimals. -/
def SamePlace (v w : Waypoint) : Prop :=
  Number.fixed 6 v.location.lon = Number.fixed 6 w.location.lon ∧
    Number.fixed 6 v.location.lat = Number.fixed 6 w.location.lat

theorem splitOn_positions (nonempty : ws ≠ []) :
    (positions ws).toList.splitOn ';' = ws.map (·.location.text.toList) := by
  have texts : (positions ws).toList = [';'].intercalate (ws.map (·.location.text.toList)) := by
    simp [positions, Function.comp_def]
  rw [texts, List.splitOn_intercalate]
  · intro text htext
    obtain ⟨w, -, rfl⟩ := List.mem_map.mp htext
    exact w.location.semicolon_notMem_text
  · simpa using nonempty

theorem positions_eq_empty (h : positions ws = positions []) : ws = [] := by
  by_contra nonempty
  have cut := splitOn_positions nonempty
  rw [h] at cut
  cases ws with
  | nil => exact nonempty rfl
  | cons w rest =>
    obtain ⟨first, -⟩ := List.cons.inj cut
    exact w.location.toList_text_ne_nil first.symm

theorem map_text_of_positions_eq (h : positions vs = positions ws) :
    vs.map (·.location.text.toList) = ws.map (·.location.text.toList) := by
  by_cases nonempty : vs ≠ [] ∧ ws ≠ []
  · rw [← splitOn_positions nonempty.1, ← splitOn_positions nonempty.2, h]
  · rcases not_and_or.mp nonempty with empty | empty <;> obtain rfl := not_not.mp empty
    · rw [positions_eq_empty h.symm]
    · rw [positions_eq_empty h]

theorem positions_eq_iff : positions vs = positions ws ↔ List.Forall₂ SamePlace vs ws := by
  constructor
  · intro h
    have texts := map_text_of_positions_eq h
    rw [← List.forall₂_eq_eq_eq, List.forall₂_map_left_iff, List.forall₂_map_right_iff] at texts
    exact texts.imp fun v w same => Coordinate.text_eq_iff.mp (String.toList_inj.mp same)
  · intro h
    have texts : vs.map (·.location.text) = ws.map (·.location.text) := by
      rw [← List.forall₂_eq_eq_eq, List.forall₂_map_left_iff, List.forall₂_map_right_iff]
      exact h.imp fun v w same => Coordinate.text_eq_iff.mpr same
    rw [positions, positions, texts]

end Texts

section Addresses

variable {options : ServerOptions} {approach : Approach} {a b c d : Waypoint}

theorem tripUrl_eq_iff {vs ws : List Waypoint} {source : TripSource} :
    tripUrl options vs source = tripUrl options ws source ↔ List.Forall₂ SamePlace vs ws := by
  rw [tripUrl, tripUrl, String.append_left_inj, String.append_left_inj, String.append_right_inj,
    positions_eq_iff]

theorem routeUrl_eq_iff : routeUrl options a b approach = routeUrl options c d approach ↔
    SamePlace a c ∧ SamePlace b d := by
  rw [routeUrl, routeUrl, String.append_left_inj, String.append_left_inj, String.append_right_inj,
    positions_eq_iff]
  simp

/-- The hop is from one bare location to another. -/
structure BetweenPlaces (hop : Hop) : Prop where
  start : hop.1.kind = .location
  stop : hop.2.kind = .location

theorem sameEnd_iff (bare : a.kind = .location) (bare' : c.kind = .location) :
    SameEnd a c ↔ SamePlace a c := by
  unfold SameEnd
  rw [bare, bare']
  rfl

def addressOf (options : ServerOptions) (approach : Approach) (hop : Hop) : String :=
  routeUrl options hop.1 hop.2 approach

theorem keyOf_eq_iff_addressOf_eq {hop hop' : Hop} (bare : BetweenPlaces hop)
    (bare' : BetweenPlaces hop') :
    keyOf hop = keyOf hop' ↔ addressOf options approach hop = addressOf options approach hop' := by
  rw [keyOf_eq_iff, addressOf, addressOf, routeUrl_eq_iff, sameEnd_iff bare.start bare'.start,
    sameEnd_iff bare.stop bare'.stop]

end Addresses

section Requests

variable (transport : Transport σ) (options : ServerOptions) (approach : Approach)

def noting : Transport (List Web.Request × σ) := fun request =>
  modifyGet fun (requests, world) =>
    let (reply, world) := (transport request).run world
    (reply, (requests ++ [request], world))

theorem send_noting (url : String) (requests : List Web.Request) (world : σ) :
    (send (noting transport) url).run (requests, world) =
      (((send transport url).run world).1,
        (requests ++ (Web.Request.ofUrl? url).toList, ((send transport url).run world).2)) := by
  unfold send
  cases Web.Request.ofUrl? url with
  | none =>
    rw [Option.toList_none, List.append_nil]
    rfl
  | some request => rfl

theorem outcome_fetch {α : Type} (read : Json → Option α) (url : String) (world : σ) :
    (fetch transport options read url).outcome world =
      (interpret options read url ((send transport url).run world).1,
        ((send transport url).run world).2) := by
  rw [fetch, outcome_bind_of_ok (outcome_lift _ world), outcome_liftM]

theorem records_noting :
    Records (fun asked => (Web.Request.ofUrl? (addressOf options approach asked.1)).toList)
      (fun a b => (client (noting transport) options).legCost a b approach)
      (fun a b => (client transport options).legCost a b approach) := by
  intro a b requests world
  simp only [client, outcome_bind, outcome_fetch, send_noting, addressOf]
  cases interpret options RouteAnswer.ofJson? (routeUrl options a b approach)
    ((send transport (routeUrl options a b approach)).run world).1 <;> simp

variable {options approach} {hops : List Hop}

theorem firstPer_keyOf (bare : ∀ hop ∈ hops, BetweenPlaces hop) :
    firstPer keyOf hops = firstPer (addressOf options approach) hops :=
  firstPer_congr fun _ ha _ hb => keyOf_eq_iff_addressOf_eq (bare _ ha) (bare _ hb)

theorem requests_lookUpEach (bare : ∀ hop ∈ hops, BetweenPlaces hop) (world : σ) :
    (lookUpEach (fun a b => (client (noting transport) options).legCost a b approach) hops
        ([], world)).2.2.1 =
      (distinct (hops.map (addressOf options approach))).filterMap Web.Request.ofUrl? := by
  obtain ⟨-, left⟩ := lookUpEach_of_records (records_noting transport options approach) hops world
  have asked : (askFirsts (fun a b => (client transport options).legCost a b approach) hops
      world).1.map (·.1) = firstPer (addressOf options approach) hops := by
    rw [askFirsts, hops_askEach, firstPer_keyOf bare]
  rw [left, ← map_firstPer, ← asked, List.map_map, List.filterMap_map,
    List.filterMap_eq_flatMap_toList]
  rfl

theorem answered_lookUpEach (bare : ∀ hop ∈ hops, BetweenPlaces hop) (world : σ) :
    let ask a b := (client transport options).legCost a b approach
    ∀ given ∈ (lookUpEach ask hops world).1,
      ∃ asked ∈ (askEach ask (firstPer (addressOf options approach) hops) world).1,
        addressOf options approach asked.1 = addressOf options approach given.1 ∧
          asked.2 = given.2 := by
  intro ask given hgiven
  have answered := answerTo_of_mem_lookUpEach hops world given hgiven
  obtain ⟨asked, found, same⟩ := Option.map_eq_some_iff.mp answered
  have among := List.mem_of_find?_eq_some found
  have alike : keyOf asked.1 = keyOf given.1 := by simpa using List.find?_some found
  rw [askFirsts, firstPer_keyOf bare] at among
  have first : asked.1 ∈ firstPer (addressOf options approach) hops := by
    rw [← hops_askEach ask (firstPer (addressOf options approach) hops) world]
    exact List.mem_map_of_mem among
  have lookedUp : given.1 ∈ hops := by
    rw [← hops_askEach (cost ask) hops (empty, world)]
    exact List.mem_map_of_mem hgiven
  have kept := (firstPer_sublist _ _).subset first
  exact ⟨asked, among, (keyOf_eq_iff_addressOf_eq (bare _ kept) (bare _ lookedUp)).mp alike, same⟩

end Requests

/-- Legs between bare locations have the same key exactly if they have the same address, and trips
have the same address exactly if they lead through the same places, to six decimals. So of legs
between bare locations that are looked up one after the other, the server is asked for each address
once, and every lookup is answered by what it says there. -/
theorem keys_as_fine_as_addresses (options : ServerOptions) :
    (∀ (approach : Approach) (a b c d : Waypoint), a.kind = .location → b.kind = .location →
      c.kind = .location → d.kind = .location →
      (LegKey.between a b = LegKey.between c d ↔
        routeUrl options a b approach = routeUrl options c d approach)) ∧
    (∀ (source : TripSource) (vs ws : List Waypoint),
      tripUrl options vs source = tripUrl options ws source ↔ List.Forall₂ SamePlace vs ws) ∧
    ∀ {σ : Type} (transport : Transport σ) (approach : Approach) (hops : List Hop) (world : σ),
      (∀ hop ∈ hops, BetweenPlaces hop) →
      let address := addressOf options approach
      let ask a b := (client transport options).legCost a b approach
      let noted a b := (client (noting transport) options).legCost a b approach
      (lookUpEach noted hops ([], world)).1 = (lookUpEach ask hops world).1 ∧
      (lookUpEach noted hops ([], world)).2.2.1 =
        (distinct (hops.map address)).filterMap Web.Request.ofUrl? ∧
      ∀ given ∈ (lookUpEach ask hops world).1,
        ∃ asked ∈ (askEach ask (firstPer address hops) world).1,
          address asked.1 = address given.1 ∧ asked.2 = given.2 := by
  refine ⟨fun approach a b c d ha hb hc hd => ?_, fun _ _ _ => tripUrl_eq_iff, ?_⟩
  · have there : BetweenPlaces (a, b) := ⟨ha, hb⟩
    have here : BetweenPlaces (c, d) := ⟨hc, hd⟩
    exact keyOf_eq_iff_addressOf_eq there here
  · intro σ transport approach hops world bare
    obtain ⟨alike, -⟩ :=
      lookUpEach_of_records (records_noting transport options approach) hops world
    exact ⟨alike, requests_lookUpEach transport bare world,
      answered_lookUpEach transport bare world⟩

/-! A place, another one a centimetre away, which has the same text, and two that are nowhere and
differ by a sign. -/

namespace Nearby

def options : ServerOptions :=
  { baseUrl := "http://localhost:5000/" }

def place (lon lat : Float) : Waypoint :=
  ⟨⟨lon, lat⟩, .location, none, none⟩

def home : Waypoint :=
  place 7 1

def near : Waypoint :=
  place 7.0000001 1

def nowhere : Waypoint :=
  place (0 / 0) (1 / 0)

def elsewhere : Waypoint :=
  place (0 / 0) (-1 / 0)

def hops : List Hop :=
  [(home, nowhere), (near, nowhere), (home, elsewhere)]

/-- The answers to the legs do not matter here. -/
def transport : Transport Unit :=
  fun _ => pure .timedOut

theorem bare : ∀ hop ∈ hops, BetweenPlaces hop := by
  intro hop hhop
  simp only [hops, List.mem_cons, List.not_mem_nil, or_false] at hhop
  rcases hhop with rfl | rfl | rfl <;> exact ⟨rfl, rfl⟩

theorem sameKey : LegKey.between home nowhere = LegKey.between near nowhere := by
  decide

theorem otherKey : LegKey.between home nowhere ≠ LegKey.between home elsewhere := by
  decide

theorem length_distinct : (distinct (hops.map (addressOf options .curb))).length = 2 := by
  rw [← map_firstPer, List.length_map, ← firstPer_keyOf bare]
  decide

end Nearby

theorem keys_as_fine_as_addresses_nearby :
    routeUrl Nearby.options Nearby.home Nearby.nowhere .curb =
        routeUrl Nearby.options Nearby.near Nearby.nowhere .curb ∧
      routeUrl Nearby.options Nearby.home Nearby.nowhere .curb ≠
        routeUrl Nearby.options Nearby.home Nearby.elsewhere .curb ∧
      tripUrl Nearby.options [Nearby.home] .first ≠
        tripUrl Nearby.options [Nearby.home, Nearby.home] .first ∧
      (lookUpEach (fun a b => (client (noting Nearby.transport) Nearby.options).legCost a b .curb)
        Nearby.hops ([], ())).2.2.1.length ≤ 2 := by
  obtain ⟨keys, trips, lookups⟩ := keys_as_fine_as_addresses Nearby.options
  obtain ⟨-, requests, -⟩ := lookups Nearby.transport .curb Nearby.hops () Nearby.bare
  refine ⟨(keys .curb _ _ _ _ rfl rfl rfl rfl).mp Nearby.sameKey, fun same => ?_,
    fun same => ?_, ?_⟩
  · exact Nearby.otherKey ((keys .curb _ _ _ _ rfl rfl rfl rfl).mpr same)
  · exact absurd ((trips .first _ _).mp same).length_eq (by decide)
  · rw [requests, ← Nearby.length_distinct]
    exact List.length_filterMap_le _ _

end ServiceRoute.RoutingServer
