import Mathlib.Data.List.Forall2
import Mathlib.Data.List.Nodup
import ServiceRoute.Proofs.Planning.Outcome
import ServiceRoute.RoutingServer.Client

/-!
# Inputs and their places

The server answers about the inputs in the order of the request and says of each at which place of
the trip it stands. The trip goes the other way, from places to inputs: its order is the inverse of
the row of places. Places that are given twice or that lie beyond the trip still lose no input and
repeat none.
-/

namespace ServiceRoute.RoutingServer

open Planning

variable {σ : Type} {inputs : List Waypoint} {returned : List AnswerWaypoint}

section Order

/-- The input at position `j` is visited before the one at position `k`: it has the lower place, or
the same place and was asked for earlier. -/
def VisitedBefore (returned : List AnswerWaypoint) (j k : Nat) : Prop :=
  ∃ a b, returned[j]? = some a ∧ returned[k]? = some b ∧
    (a.index < b.index ∨ a.index = b.index ∧ j < k)

theorem VisitedBefore.asymm {j k : Nat} (h : VisitedBefore returned j k) :
    ¬ VisitedBefore returned k j := by
  obtain ⟨a, b, ha, hb, before⟩ := h
  rintro ⟨b', a', hb', ha', behind⟩
  obtain rfl : b = b' := Option.some.inj (hb.symm.trans hb')
  obtain rfl : a = a' := Option.some.inj (ha.symm.trans ha')
  omega

/-- The positions of the inputs in the order of the trip, each of them once. -/
structure VisitOrder (returned : List AnswerWaypoint) (order : List Nat) : Prop where
  each : order.Perm (List.range returned.length)
  ordered : order.Pairwise (VisitedBefore returned)

theorem VisitOrder.unique {order order' : List Nat} (h : VisitOrder returned order)
    (h' : VisitOrder returned order') : order = order' := by
  apply (h.each.trans h'.each.symm).eq_of_pairwise _ h.ordered h'.ordered
  intro j k _ _ before behind
  exact absurd behind before.asymm

/-- The waypoint is the input at position `k`: of its kind, where the server found it, and without
street and bearing. -/
def Visits (inputs : List Waypoint) (returned : List AnswerWaypoint) (k : Nat) (w : Waypoint) :
    Prop :=
  ∃ input found, inputs[k]? = some input ∧ returned[k]? = some found ∧
    w = ⟨found.location, input.kind, none, none⟩

end Order

section Sorting

/-- Whether the first input does not have the higher place. -/
def byPlace (a b : Waypoint × AnswerWaypoint) : Bool :=
  a.2.index ≤ b.2.index

theorem byPlace_trans (a b c : Waypoint × AnswerWaypoint) (ab : byPlace a b = true)
    (bc : byPlace b c = true) : byPlace a c = true := by
  simp only [byPlace, decide_eq_true_eq] at ab bc ⊢
  exact Nat.le_trans ab bc

theorem byPlace_total (a b : Waypoint × AnswerWaypoint) :
    (byPlace a b || byPlace b a) = true := by
  simpa [byPlace] using Nat.le_total a.2.index b.2.index

/-- The inputs with what was returned about them, by place. -/
def placed (inputs : List Waypoint) (returned : List AnswerWaypoint) :
    List (Waypoint × AnswerWaypoint) :=
  (inputs.zip returned).mergeSort byPlace

theorem orderedInputs_eq (inputs : List Waypoint) (returned : List AnswerWaypoint) :
    orderedInputs inputs returned =
      (placed inputs returned).map fun p => ⟨p.2.location, p.1.kind, none, none⟩ := rfl

/-- The same with the positions of the inputs in the request, which decide between equal places. -/
def numbered (inputs : List Waypoint) (returned : List AnswerWaypoint) :
    List ((Waypoint × AnswerWaypoint) × Nat) :=
  (inputs.zip returned).zipIdx.mergeSort (List.zipIdxLE byPlace)

theorem map_fst_numbered (inputs : List Waypoint) (returned : List AnswerWaypoint) :
    (numbered inputs returned).map (·.1) = placed inputs returned :=
  List.mergeSort_zipIdx

theorem mem_numbered {p : (Waypoint × AnswerWaypoint) × Nat} (h : p ∈ numbered inputs returned) :
    inputs[p.2]? = some p.1.1 ∧ returned[p.2]? = some p.1.2 := by
  rw [numbered, List.mem_mergeSort] at h
  exact List.getElem?_zip_eq_some.mp (List.mk_mem_zipIdx_iff_getElem?.mp h)

theorem positions_numbered (count : returned.length = inputs.length) :
    ((numbered inputs returned).map (·.2)).Perm (List.range returned.length) := by
  have all : (inputs.zip returned).length = returned.length := by
    rw [List.length_zip, count, Nat.min_self]
  have sorted := (List.mergeSort_perm (inputs.zip returned).zipIdx
    (List.zipIdxLE byPlace)).map Prod.snd
  rwa [List.zipIdx_map_snd, all, ← List.range_eq_range'] at sorted

theorem numbered_pairwise (count : returned.length = inputs.length) :
    (numbered inputs returned).Pairwise fun p q => VisitedBefore returned p.2 q.2 := by
  have sorted : (numbered inputs returned).Pairwise fun p q => List.zipIdxLE byPlace p q = true :=
    List.pairwise_mergeSort (List.zipIdxLE_trans byPlace_trans)
      (List.zipIdxLE_total byPlace_total) _
  have distinct : (numbered inputs returned).Pairwise fun p q => p.2 ≠ q.2 :=
    List.pairwise_map.mp ((positions_numbered count).nodup_iff.mpr List.nodup_range)
  apply (sorted.and distinct).imp_of_mem
  rintro p q hp hq ⟨le, apart⟩
  refine ⟨p.1.2, q.1.2, (mem_numbered hp).2, (mem_numbered hq).2, ?_⟩
  simp only [List.zipIdxLE, byPlace, decide_eq_true_eq] at le
  split_ifs at le with lower level
  · rw [decide_eq_true_eq] at le
    omega
  · omega

/-- The ordered inputs follow the visiting order. -/
theorem exists_visitOrder (count : returned.length = inputs.length) :
    ∃ order, VisitOrder returned order ∧
      List.Forall₂ (Visits inputs returned) order (orderedInputs inputs returned) := by
  refine ⟨(numbered inputs returned).map (·.2), ⟨positions_numbered count, ?_⟩, ?_⟩
  · exact List.pairwise_map.mpr (numbered_pairwise count)
  · rw [orderedInputs_eq, ← map_fst_numbered, List.map_map, List.forall₂_map_left_iff,
      List.forall₂_map_right_iff, List.forall₂_same]
    intro p hp
    obtain ⟨asked, found⟩ := mem_numbered hp
    exact ⟨p.1.1, p.1.2, asked, found, rfl⟩

/-- Places that number the inputs leave the sorting no choice. -/
theorem places_placed (count : returned.length = inputs.length)
    (numbers : (returned.map (·.index)).Perm (List.range inputs.length)) :
    (placed inputs returned).map (·.2.index) = List.range inputs.length := by
  have sorted : (placed inputs returned).Pairwise fun a b => a.2.index ≤ b.2.index :=
    (List.pairwise_mergeSort byPlace_trans byPlace_total _).imp of_decide_eq_true
  have all : (inputs.zip returned).map (·.2.index) = returned.map (·.index) := by
    have seconds := congrArg (List.map AnswerWaypoint.index)
      (List.map_snd_zip (Nat.le_of_eq count))
    rwa [List.map_map] at seconds
  have same := (List.mergeSort_perm (inputs.zip returned) byPlace).map (·.2.index)
  rw [all] at same
  apply (same.trans numbers).eq_of_pairwise fun _ _ _ _ => Nat.le_antisymm
  · exact List.pairwise_map.mpr sorted
  · exact List.pairwise_le_range

theorem getElem?_orderedInputs (count : returned.length = inputs.length)
    (numbers : (returned.map (·.index)).Perm (List.range inputs.length)) {k : Nat}
    {input : Waypoint} {found : AnswerWaypoint} (asked : inputs[k]? = some input)
    (answered : returned[k]? = some found) :
    (orderedInputs inputs returned)[found.index]? =
      some ⟨found.location, input.kind, none, none⟩ := by
  have inside : (input, found) ∈ placed inputs returned :=
    List.mem_mergeSort.mpr (List.mem_of_getElem? (List.getElem?_zip_eq_some.mpr ⟨asked, answered⟩))
  obtain ⟨place, here⟩ := List.getElem?_of_mem inside
  have stands : some found.index = (List.range inputs.length)[place]? := by
    rw [← places_placed count numbers, List.getElem?_map, here, Option.map_some]
  obtain ⟨_, same⟩ := List.getElem?_eq_some_iff.mp stands.symm
  rw [List.getElem_range] at same
  rw [orderedInputs_eq, List.getElem?_map, ← same, here, Option.map_some]

end Sorting

section Plan

variable {answer : TripAnswer}

/-- An answer that can be used describes one trip, through as many waypoints as there are inputs. -/
theorem plan_eq_ok {plan : TripPlan} : answer.plan inputs = .ok plan ↔
    answer.code = "Ok" ∧ ∃ trip, answer.trips.getD [] = [trip] ∧
      (answer.waypoints.getD []).length = inputs.length ∧
      plan = ⟨trip.cost, orderedInputs inputs (answer.waypoints.getD []), Leg.chain trip.legs⟩ := by
  unfold TripAnswer.plan checkCode
  by_cases accepted : answer.code = "Ok"
  · rw [if_pos accepted]
    rcases answer.trips.getD [] with - | ⟨trip, - | ⟨second, others⟩⟩
    · simp [bind, Except.bind, throw, throwThe, MonadExceptOf.throw]
    · by_cases count : (answer.waypoints.getD []).length = inputs.length
      · simp [bind, Except.bind, pure, Except.pure, accepted, count, eq_comm]
      · simp [bind, Except.bind, throw, throwThe, MonadExceptOf.throw, count]
    · simp [bind, Except.bind, throw, throwThe, MonadExceptOf.throw]
  · rw [if_neg accepted]
    simp [bind, Except.bind, accepted]

theorem plan_eq_error {e : PlanError} (h : answer.plan inputs = .error e) :
    ∃ fault, e = .planningFailed fault := by
  unfold TripAnswer.plan checkCode at h
  split_ifs at h
  · dsimp only [bind, Except.bind] at h
    split at h
    · cases h
      exact ⟨_, rfl⟩
    · split_ifs at h <;> cases h
      exact ⟨_, rfl⟩
    · cases h
      exact ⟨_, rfl⟩
  · cases h
    exact ⟨_, rfl⟩

theorem outcome_planTrip {transport : Transport σ} {options : ServerOptions} {source : TripSource}
    {world world' : σ} (enough : 2 ≤ inputs.length)
    (answered : (fetch transport options TripAnswer.ofJson?
      (tripUrl options inputs source)).outcome world = (.ok answer, world')) :
    ((client transport options).planTrip inputs source).outcome world =
      (answer.plan inputs, world') := by
  have planned : (client transport options).planTrip inputs source =
      fetch transport options TripAnswer.ofJson? (tripUrl options inputs source) >>= fun answer =>
        liftM (answer.plan inputs) :=
    if_neg (Nat.not_lt.mpr enough)
  rw [planned, outcome_bind_of_ok answered, outcome_liftM]

end Plan

/-- A request for a trip through two or more inputs is planned by its answer: if that describes one
trip through as many waypoints as there are inputs, and not otherwise. The plan visits each input
once, in the only order by places in which ties follow the request. Where the places number the
inputs, every input stands at its place. All costs are those of the trip. -/
theorem plan_places_inputs (enough : 2 ≤ inputs.length) (answer : TripAnswer) :
    let returned := answer.waypoints.getD []
    (∀ {σ : Type} (transport : Transport σ) (options : ServerOptions) (source : TripSource)
        (world world' : σ),
      (fetch transport options TripAnswer.ofJson? (tripUrl options inputs source)).outcome world =
        (.ok answer, world') →
      ((client transport options).planTrip inputs source).outcome world =
        (answer.plan inputs, world')) ∧
    ((∃ plan, answer.plan inputs = .ok plan) ↔ answer.code = "Ok" ∧
      (answer.trips.getD []).length = 1 ∧ returned.length = inputs.length) ∧
    (∀ e, answer.plan inputs = .error e → ∃ fault, e = .planningFailed fault) ∧
    ∀ plan, answer.plan inputs = .ok plan → ∃ trip order, answer.trips = some [trip] ∧
      plan.total = trip.cost ∧
      (∀ k : Nat, plan.legs[k]? = trip.legs[k]?.map fun cost => ⟨k, k + 1, cost⟩) ∧
      (∀ other, VisitOrder returned other ↔ other = order) ∧
      List.Forall₂ (Visits inputs returned) order plan.ordered ∧
      ((returned.map (·.index)).Perm (List.range inputs.length) →
        ∀ (k : Nat) input found, inputs[k]? = some input → returned[k]? = some found →
          plan.ordered[found.index]? = some ⟨found.location, input.kind, none, none⟩) := by
  refine ⟨fun _ _ _ _ _ answered => outcome_planTrip enough answered, ?_,
    fun _ failed => plan_eq_error failed, ?_⟩
  · constructor
    · rintro ⟨plan, planned⟩
      obtain ⟨accepted, trip, one, count, -⟩ := plan_eq_ok.mp planned
      exact ⟨accepted, by rw [one, List.length_singleton], count⟩
    · rintro ⟨accepted, one, count⟩
      obtain ⟨trip, one⟩ := List.length_eq_one_iff.mp one
      exact ⟨_, plan_eq_ok.mpr ⟨accepted, trip, one, count, rfl⟩⟩
  · intro plan planned
    obtain ⟨-, trip, one, count, rfl⟩ := plan_eq_ok.mp planned
    obtain ⟨order, visited, followed⟩ := exists_visitOrder count
    have given : answer.trips = some [trip] := by
      cases trips : answer.trips with
      | none => simp [trips] at one
      | some listed => simpa [trips] using one
    refine ⟨trip, order, given, rfl, Leg.getElem?_chain trip.legs, fun other => ?_, followed,
      fun numbers _ _ _ => getElem?_orderedInputs count numbers⟩
    constructor
    · exact fun h => h.unique visited
    · rintro rfl
      exact visited

/-! Three stops whose places are no involution: the last one comes first. -/

namespace Turned

def visit (id : StopId) : Waypoint :=
  ⟨⟨3, 4⟩, .stop id, some "Elm St", some "EB"⟩

def request : List Waypoint :=
  [.depot ⟨0, 0⟩, visit "A", visit "B", visit "C"]

def found : List AnswerWaypoint :=
  [⟨0, ⟨0, 1⟩⟩, ⟨2, ⟨3, 5⟩⟩, ⟨3, ⟨3, 6⟩⟩, ⟨1, ⟨3, 7⟩⟩]

def answer : TripAnswer :=
  ⟨"Ok", none, some [⟨⟨60, 6⟩, [⟨10, 1⟩, ⟨20, 2⟩, ⟨30, 3⟩]⟩], some found⟩

theorem numbers : (found.map (·.index)).Perm (List.range request.length) := by
  decide

end Turned

theorem plan_places_inputs_turned : 2 ≤ Turned.request.length ∧
    ∃ plan, Turned.answer.plan Turned.request = .ok plan ∧ plan.total = ⟨60, 6⟩ ∧
      plan.legs[2]? = some ⟨2, 3, ⟨30, 3⟩⟩ ∧
      plan.ordered[1]? = some ⟨⟨3, 7⟩, .stop "C", none, none⟩ ∧
      plan.ordered[2]? = some ⟨⟨3, 5⟩, .stop "A", none, none⟩ := by
  have enough : 2 ≤ Turned.request.length := by decide
  obtain ⟨-, usable, -, described⟩ := plan_places_inputs enough Turned.answer
  obtain ⟨plan, planned⟩ := usable.mpr ⟨rfl, rfl, rfl⟩
  obtain ⟨trip, order, given, total, legs, -, -, stands⟩ := described plan planned
  obtain rfl : trip = ⟨⟨60, 6⟩, [⟨10, 1⟩, ⟨20, 2⟩, ⟨30, 3⟩]⟩ := by
    simpa [Turned.answer, eq_comm] using given
  exact ⟨enough, plan, planned, total, legs 2, stands Turned.numbers 3 _ _ rfl rfl,
    stands Turned.numbers 1 _ _ rfl rfl⟩

end ServiceRoute.RoutingServer
