import ServiceRoute.Proofs.FinalRoute.Visitable
import ServiceRoute.Proofs.LegCache.FirstAnswers
import ServiceRoute.Proofs.Relocation.CostedLegs

/-!
# The first offence

The walk that costs a final route takes one position after the other. At each it first looks at the
waypoint and then asks for the leg that arrives there, so that the first position at which
something is wrong decides which failure is reported and which legs have been asked for by then.
-/

namespace ServiceRoute.FinalRoute

open Planning LegCache

variable {σ : Type}

section Offences

/-- The waypoint cannot come behind those in front of it. Whether it is a stop is looked at first,
then whether it has been visited, then whether its position can be written down. -/
inductive Refused (front : List Waypoint) (w : Waypoint) : PlanError → Prop
  | notAStop (foreign : w.stopId? = none) :
    Refused front w (.invalidRequest (.notAStop w.display front.length))
  | repeated {id : StopId} (stop : w.stopId? = some id)
    (visited : ∃ v ∈ front, v.stopId? = some id) :
    Refused front w (.invalidRequest (.repeatedStop id))
  | tooFar {id : StopId} (stop : w.stopId? = some id) (new : ∀ v ∈ front, v.stopId? ≠ some id)
    (far : 0x100000000 ≤ front.length) : Refused front w (.invalidRequest .tooManyStops)

/-- What is wrong with a position, and how many legs have been asked for when it is found out. The
leg that arrives there is asked for only if the waypoint is not refused. -/
inductive Offence (front : List Waypoint) (w : Waypoint) (answer : Except PlanError Cost) :
    PlanError → Nat → Prop
  | waypoint {e : PlanError} (refused : Refused front w e) : Offence front w answer e front.length
  | leg {e : PlanError} (admitted : ∀ fault, ¬ Refused front w fault) (failed : answer = .error e) :
    Offence front w answer e (front.length + 1)

def OffendsAt (stops : List Waypoint) (answers : List (Except PlanError Cost)) (k : Nat)
    (e : PlanError) (asked : Nat) : Prop :=
  ∃ w answer, stops[k]? = some w ∧ answers[k]? = some answer ∧
    Offence (stops.take k) w answer e asked

/-- There is something wrong with position `k` and with none before it. -/
structure FirstOffence (stops : List Waypoint) (answers : List (Except PlanError Cost)) (k : Nat)
    (e : PlanError) (asked : Nat) : Prop where
  here : OffendsAt stops answers k e asked
  first : ∀ j < k, ∀ fault count, ¬ OffendsAt stops answers j fault count

end Offences

section Step

variable {route : FinalRoute} {front back : List Waypoint} {previous w : Waypoint}
variable {cost : Waypoint → Waypoint → Planning σ Cost} {world world' : σ} {e : PlanError}

theorem Covers.mem_stops (h : route.Covers front) {id : StopId} :
    id ∈ route.entries.map (·.stop) ↔ ∃ v ∈ front, v.stopId? = some id := by
  have kinds : WaypointKind.stop id ∈ front.map (·.kind) ↔ id ∈ route.entries.map (·.stop) := by
    rw [h.kinds, map_kind_entries, List.mem_map_of_injective fun _ _ => WaypointKind.stop.inj]
  rw [← kinds, List.mem_map]
  simp only [Waypoint.stopId?_eq_some_iff]

theorem Covers.accept_of_refused (h : route.Covers front) (refused : Refused front w e) :
    accept (route.entries.map (·.stop)) route.entries.length w = .error e := by
  unfold accept
  rw [h.length_eq]
  cases refused with
  | notAStop foreign => rw [foreign]
  | repeated stop visited =>
    rw [stop]
    exact if_pos (h.mem_stops.mpr visited)
  | tooFar stop new far =>
    have unseen : ¬ _ ∈ route.entries.map (·.stop) := fun seen =>
      let ⟨v, hv, same⟩ := h.mem_stops.mp seen
      new v hv same
    rw [stop]
    exact (if_neg unseen).trans (if_neg (Nat.not_lt.mpr far))

theorem Covers.refused_of_accept (h : route.Covers front)
    (failed : accept (route.entries.map (·.stop)) route.entries.length w = .error e) :
    Refused front w e := by
  unfold accept at failed
  rw [h.length_eq] at failed
  cases stop : w.stopId? with
  | none =>
    rw [stop] at failed
    cases failed
    exact .notAStop stop
  | some id =>
    rw [stop] at failed
    dsimp only at failed
    split_ifs at failed with seen fits <;> cases failed
    · exact .repeated stop (h.mem_stops.mp seen)
    · refine .tooFar stop (fun v hv same => seen (h.mem_stops.mpr ⟨v, hv, same⟩)) ?_
      exact Nat.not_lt.mp fits

theorem extend_refused (h : route.Covers front) (refused : Refused front w e) :
    (extend cost route previous (w :: back)).outcome world = (.error e, world) := by
  unfold extend
  rw [outcome_bind, outcome_liftM, h.accept_of_refused refused]

theorem Covers.exists_accept (h : route.Covers front)
    (admitted : ∀ fault, ¬ Refused front w fault) :
    ∃ id, accept (route.entries.map (·.stop)) route.entries.length w = .ok id := by
  cases accepted : accept (route.entries.map (·.stop)) route.entries.length w with
  | ok id => exact ⟨id, rfl⟩
  | error e => exact absurd (h.refused_of_accept accepted) (admitted e)

theorem extend_uncosted (h : route.Covers front) (admitted : ∀ fault, ¬ Refused front w fault)
    (failed : (cost previous w).outcome world = (.error e, world')) :
    (extend cost route previous (w :: back)).outcome world = (.error e, world') := by
  obtain ⟨id, accepted⟩ := h.exists_accept admitted
  unfold extend
  rw [outcome_bind, outcome_liftM, accepted]
  exact outcome_bind_of_error failed

variable (back) in
theorem extend_onward (h : route.Covers front) (admitted : ∀ fault, ¬ Refused front w fault)
    {leg : Cost} (costed : (cost previous w).outcome world = (.ok leg, world')) :
    ∃ longer : FinalRoute, longer.Covers (front ++ [w]) ∧
      (extend cost route previous (w :: back)).outcome world =
        (extend cost longer w back).outcome world' := by
  obtain ⟨id, accepted⟩ := h.exists_accept admitted
  refine ⟨_, h.append leg accepted, ?_⟩
  rw [extend, outcome_bind, outcome_liftM, accepted]
  exact outcome_bind_of_ok costed

end Step

section Walk

variable {cost : Waypoint → Waypoint → Planning σ Cost} {depot : Coordinate} {world : σ}
variable {stops front back : List Waypoint} {w : Waypoint} {k : Nat} {e : PlanError} {asked : Nat}

/-- The answers to the legs of a walk, if they are all asked for one after the other. -/
def answersTo (cost : Waypoint → Waypoint → Planning σ Cost) (depot : Coordinate)
    (stops : List Waypoint) (world : σ) : List (Except PlanError Cost) :=
  (askEach cost (legs (.depot depot) stops) world).1.map (·.2)

theorem length_answersTo (cost : Waypoint → Waypoint → Planning σ Cost) (depot : Coordinate)
    (stops : List Waypoint) (world : σ) :
    (answersTo cost depot stops world).length = stops.length := by
  rw [answersTo, List.length_map, length_askEach, length_legs]

/-- The leg that arrives at `w`, asked for behind those in front of it. -/
theorem getElem?_answersTo (cost : Waypoint → Waypoint → Planning σ Cost) (depot : Coordinate)
    (front : List Waypoint) (w : Waypoint) (back : List Waypoint) (world : σ) :
    (answersTo cost depot (front ++ w :: back) world)[front.length]? =
      some ((cost (front.getLastD (.depot depot)) w).outcome
        (askEach cost (legs (.depot depot) front) world).2).1 := by
  have behind : ((askEach cost (legs (.depot depot) front) world).1.map (·.2)).length =
      front.length := by
    rw [List.length_map, length_askEach, length_legs]
  rw [answersTo, legs_append, askEach_append, List.map_append,
    List.getElem?_append_right (Nat.le_of_eq behind), behind, Nat.sub_self]
  rfl

theorem offendsAt_append :
    OffendsAt (front ++ w :: back) (answersTo cost depot (front ++ w :: back) world) front.length e
        asked ↔
      Offence front w ((cost (front.getLastD (.depot depot)) w).outcome
        (askEach cost (legs (.depot depot) front) world).2).1 e asked := by
  unfold OffendsAt
  rw [getElem?_answersTo, List.getElem?_append_right (Nat.le_refl _), Nat.sub_self,
    List.take_left]
  simp

theorem exists_reached (cost : Waypoint → Waypoint → Planning σ Cost) (depot : Coordinate)
    (world : σ) (front back : List Waypoint)
    (clear : ∀ k < front.length, ∀ e asked, ¬ OffendsAt (front ++ back)
      (answersTo cost depot (front ++ back) world) k e asked) :
    ∃ route : FinalRoute, route.Covers front ∧
      (compute cost depot (front ++ back)).outcome world =
        (extend cost route (front.getLastD (.depot depot)) back).outcome
          (askEach cost (legs (.depot depot) front) world).2 := by
  induction front using List.reverseRecOn generalizing back with
  | nil => exact ⟨_, covers_nil, rfl⟩
  | append_singleton front w ih =>
    rw [List.append_assoc, List.singleton_append] at clear ⊢
    rw [List.length_append, List.length_singleton] at clear
    obtain ⟨route, covers, reached⟩ := ih (w :: back) fun k before => clear k (by omega)
    have fine := clear front.length (Nat.lt_succ_self _)
    simp only [offendsAt_append] at fine
    have admitted : ∀ fault, ¬ Refused front w fault := fun fault refused =>
      fine _ _ (.waypoint refused)
    cases run : (cost (front.getLastD (.depot depot)) w).outcome
        (askEach cost (legs (.depot depot) front) world).2 with
    | mk answer world' =>
      rw [run] at fine
      cases answer with
      | error e => exact absurd (Offence.leg admitted rfl) (fine _ _)
      | ok leg =>
        obtain ⟨longer, covers', onward⟩ := extend_onward back covers admitted run
        have spent : (askEach cost (legs (.depot depot) (front ++ [w])) world).2 = world' := by
          rw [legs_append, legs_cons, legs_nil, askEach_concat]
          exact congrArg Prod.snd run
        exact ⟨longer, covers', by rw [reached, onward, spent, List.getLastD_concat]⟩

theorem exists_append_of_getElem? (here : stops[k]? = some w) :
    ∃ front back, stops = front ++ w :: back ∧ front.length = k := by
  obtain ⟨inside, rfl⟩ := List.getElem?_eq_some_iff.mp here
  refine ⟨stops.take k, stops.drop (k + 1), ?_, List.length_take_of_le (Nat.le_of_lt inside)⟩
  rw [← List.drop_eq_getElem_cons inside, List.take_append_drop]

/-- The walk fails for the first offence, with the legs asked for that it takes to find it. -/
theorem outcome_compute_of_first
    (h : FirstOffence stops (answersTo cost depot stops world) k e asked) :
    (compute cost depot stops).outcome world =
      (.error e, (askEach cost ((legs (.depot depot) stops).take asked) world).2) := by
  obtain ⟨w, _, here, -⟩ := h.here
  obtain ⟨front, back, rfl, rfl⟩ := exists_append_of_getElem? here
  obtain ⟨route, covers, reached⟩ := exists_reached cost depot world front (w :: back) h.first
  have behind := length_legs (.depot depot) front
  rw [reached]
  cases offendsAt_append.mp h.here with
  | waypoint refused =>
    rw [extend_refused covers refused, legs_append, List.take_left' behind]
  | leg admitted failed =>
    rw [extend_uncosted covers admitted (Prod.ext failed rfl), legs_append, legs_cons,
      ← behind, List.take_length_add_append, List.take_succ_cons, List.take_zero, askEach_concat]

theorem outcome_compute_of_clear
    (clear : ∀ k e asked, ¬ OffendsAt stops (answersTo cost depot stops world) k e asked) :
    ∃ route : FinalRoute, route.Covers stops ∧ (compute cost depot stops).outcome world =
      (.ok route, (askEach cost (legs (.depot depot) stops) world).2) := by
  rw [← List.append_nil stops] at clear
  obtain ⟨route, covers, reached⟩ :=
    exists_reached cost depot world stops [] fun k _ => clear k
  rw [List.append_nil] at reached
  exact ⟨route, covers, reached⟩

theorem exists_firstOffence {answers : List (Except PlanError Cost)}
    (h : OffendsAt stops answers k e asked) :
    ∃ k e asked, FirstOffence stops answers k e asked := by
  induction k using Nat.strong_induction_on generalizing e asked with
  | _ k ih =>
    by_cases earlier : ∃ j < k, ∃ fault count, OffendsAt stops answers j fault count
    · obtain ⟨j, before, fault, count, offends⟩ := earlier
      exact ih j before offends
    · refine ⟨k, e, asked, h, fun j before fault count offends => earlier ?_⟩
      exact ⟨j, before, fault, count, offends⟩

theorem new_of_visitable (visitable : Visitable (front ++ w :: back)) {id : StopId}
    (stop : w.stopId? = some id) : ∀ v ∈ front, v.stopId? ≠ some id := by
  intro v hv same
  rw [Waypoint.stopId?_eq_some_iff] at stop same
  have distinct := visitable.distinct
  rw [List.map_append, List.map_cons, List.nodup_append'] at distinct
  exact distinct.2.2 (List.mem_map_of_mem hv) (by simp [stop, same])

theorem not_offendsAt {answers : List (Except PlanError Cost)} (visitable : Visitable stops)
    (short : stops.length ≤ 0x100000000) (costed : ∀ given ∈ answers, ∃ leg, given = .ok leg) :
    ¬ OffendsAt stops answers k e asked := by
  rintro ⟨w, answer, here, answered, offence⟩
  obtain ⟨front, back, rfl, rfl⟩ := exists_append_of_getElem? here
  rw [List.take_left] at offence
  obtain ⟨id, kind⟩ := visitable.catalogued w (by simp)
  cases offence with
  | waypoint refused =>
    cases refused with
    | notAStop foreign =>
      rw [Waypoint.stopId?_eq_some_iff.mpr kind] at foreign
      cases foreign
    | repeated stop visited =>
      obtain ⟨v, hv, same⟩ := visited
      exact new_of_visitable visitable stop v hv same
    | tooFar stop new far =>
      rw [List.length_append, List.length_cons] at short
      omega
  | leg admitted failed =>
    obtain ⟨leg, rfl⟩ := costed answer (List.mem_of_getElem? answered)
    cases failed

theorem length_le_of_clear (visitable : Visitable stops)
    (clear : ∀ k e asked, ¬ OffendsAt stops (answersTo cost depot stops world) k e asked) :
    stops.length ≤ 0x100000000 := by
  by_contra long
  obtain ⟨w, here⟩ : ∃ w, stops[0x100000000]? = some w :=
    ⟨_, List.getElem?_eq_getElem (Nat.not_le.mp long)⟩
  obtain ⟨front, back, rfl, count⟩ := exists_append_of_getElem? here
  obtain ⟨id, kind⟩ := visitable.catalogued w (by simp)
  have stop := Waypoint.stopId?_eq_some_iff.mpr kind
  have refused := Refused.tooFar stop (new_of_visitable visitable stop) (Nat.le_of_eq count.symm)
  exact clear front.length _ _ (offendsAt_append.mpr (.waypoint refused))

theorem costed_of_clear
    (clear : ∀ k e asked, ¬ OffendsAt stops (answersTo cost depot stops world) k e asked) :
    ∀ given ∈ answersTo cost depot stops world, ∃ leg, given = .ok leg := by
  intro given hgiven
  obtain ⟨k, answered⟩ := List.getElem?_of_mem hgiven
  have inside : k < stops.length := by
    rw [← length_answersTo cost depot stops world]
    exact (List.getElem?_eq_some_iff.mp answered).1
  have here := List.getElem?_eq_getElem inside
  cases given with
  | ok leg => exact ⟨leg, rfl⟩
  | error e =>
    by_cases refused : ∃ fault, Refused (stops.take k) stops[k] fault
    · obtain ⟨fault, refused⟩ := refused
      exact absurd ⟨_, _, here, answered, .waypoint refused⟩ (clear k _ _)
    · exact absurd ⟨_, _, here, answered, .leg (not_exists.mp refused) rfl⟩ (clear k _ _)

theorem clear_iff : (∀ k e asked, ¬ OffendsAt stops (answersTo cost depot stops world) k e asked) ↔
    Visitable stops ∧ stops.length ≤ 0x100000000 ∧
      ∀ given ∈ answersTo cost depot stops world, ∃ leg, given = .ok leg := by
  constructor
  · intro clear
    obtain ⟨route, covers, -⟩ := outcome_compute_of_clear clear
    exact ⟨covers.visitable, length_le_of_clear covers.visitable clear, costed_of_clear clear⟩
  · rintro ⟨visitable, short, costed⟩ k e asked
    exact not_offendsAt visitable short costed

theorem askEach_logged (hops : List Hop) (world : σ) :
    askEach (Relocation.logged cost) hops ([], world) =
      ((askEach cost hops world).1, (hops, (askEach cost hops world).2)) := by
  have records : Records (fun asked => [asked.1]) (Relocation.logged cost) cost :=
    fun _ _ _ _ => rfl
  rw [askEach_of_records records, List.nil_append, ← List.map_eq_flatMap, hops_askEach]

theorem answersTo_logged : answersTo (Relocation.logged cost) depot stops ([], world) =
    answersTo cost depot stops world := by
  rw [answersTo, askEach_logged]
  rfl

theorem outcome_compute_logged {answer answer' : Except PlanError FinalRoute} {asked : List Hop}
    (run : (compute cost depot stops).outcome world = (answer, (askEach cost asked world).2))
    (logged : (compute (Relocation.logged cost) depot stops).outcome ([], world) =
      (answer', (askEach (Relocation.logged cost) asked ([], world)).2)) :
    (compute (Relocation.logged cost) depot stops).outcome ([], world) =
      (answer, (asked, (askEach cost asked world).2)) := by
  have step : InStep (fun p world => p.2 = world) (compute (Relocation.logged cost) depot stops)
      (compute cost depot stops) :=
    compute_inStep (fun a b (_ : True) (_ : True) => Relocation.logged_inStep cost a b) trivial
      fun _ _ => trivial
  obtain ⟨same, -⟩ := step (rfl : (([] : List Hop), world).2 = world)
  rw [logged, run] at same
  rw [logged, askEach_logged]
  exact congrArg (·, _) same

end Walk

/-- A final route is computed exactly if the stops are catalog stops, none of them twice, every
position can be written down, and every leg has a cost. All legs are then asked for in order.
Otherwise the first offence is reported, and the legs up to there are asked for in order. The leg
that arrives at the offending position is asked for only where it is the offence itself. -/
theorem compute_stops_at_first_offence (cost : Waypoint → Waypoint → Planning σ Cost)
    (depot : Coordinate) (stops : List Waypoint) (world : σ) :
    let hops := legs (.depot depot) stops
    let answers := answersTo cost depot stops world
    ∃ answer asked,
      (compute cost depot stops).outcome world = (answer, (askEach cost asked world).2) ∧
      (compute (Relocation.logged cost) depot stops).outcome ([], world) =
        (answer, (asked, (askEach cost asked world).2)) ∧
      ((∃ route, answer = .ok route) ↔ Visitable stops ∧ stops.length ≤ 0x100000000 ∧
        ∀ given ∈ answers, ∃ leg, given = .ok leg) ∧
      ((∃ route, answer = .ok route) → asked = hops) ∧
      (∀ e, answer = .error e ↔ ∃ k count, FirstOffence stops answers k e count) ∧
      ∀ k e count, FirstOffence stops answers k e count → asked = hops.take count := by
  dsimp only
  by_cases clear : ∀ k e asked, ¬ OffendsAt stops (answersTo cost depot stops world) k e asked
  · obtain ⟨route, -, run⟩ := outcome_compute_of_clear clear
    have clear' : ∀ k e asked, ¬ OffendsAt stops
        (answersTo (Relocation.logged cost) depot stops ([], world)) k e asked := by
      rwa [answersTo_logged]
    obtain ⟨_, -, logged⟩ := outcome_compute_of_clear clear'
    refine ⟨.ok route, _, run, outcome_compute_logged run logged, ?_, fun _ => rfl, ?_, ?_⟩
    · exact ⟨fun _ => clear_iff.mp clear, fun _ => ⟨route, rfl⟩⟩
    · exact fun e => ⟨nofun, fun ⟨k, count, offence⟩ => absurd offence.here (clear k e count)⟩
    · exact fun k e count offence => absurd offence.here (clear k e count)
  · simp only [not_forall, not_not] at clear
    obtain ⟨_, _, _, offends⟩ := clear
    obtain ⟨k, e, count, offence⟩ := exists_firstOffence offends
    have stopped : ∀ {k e count}, FirstOffence stops (answersTo cost depot stops world) k e count →
        (compute (Relocation.logged cost) depot stops).outcome ([], world) =
          (.error e, ((legs (.depot depot) stops).take count,
            (askEach cost ((legs (.depot depot) stops).take count) world).2)) := by
      intro k e count offence
      have logged : FirstOffence stops (answersTo (Relocation.logged cost) depot stops ([], world))
          k e count := by rwa [answersTo_logged]
      exact outcome_compute_logged (outcome_compute_of_first offence)
        (outcome_compute_of_first logged)
    refine ⟨.error e, _, outcome_compute_of_first offence, stopped offence, ?_, nofun, ?_, ?_⟩
    · exact ⟨nofun, fun fine => absurd offence.here (clear_iff.mpr fine k e count)⟩
    · intro e'
      constructor
      · rintro ⟨⟩
        exact ⟨k, count, offence⟩
      · rintro ⟨k', count', offence'⟩
        exact congrArg Prod.fst ((stopped offence).symm.trans (stopped offence'))
    · intro k' e' count' offence'
      exact congrArg (·.2.1) ((stopped offence).symm.trans (stopped offence'))

/-! A walk with a leg that has no cost, then a stop visited before, then a depot. -/

namespace Blocked

def visit (id : StopId) : Waypoint :=
  ⟨⟨8, 8⟩, .stop id, none, none⟩

def cost (_ b : Waypoint) : Planning Unit Cost :=
  if b.kind = .stop "C" then throw (.planningFailed .noRoute) else pure ⟨1000, 60⟩

def depot : Coordinate :=
  ⟨8, 0⟩

def stops : List Waypoint :=
  [visit "A", visit "B", visit "C", visit "A", .depot depot]

theorem visitable : Visitable [visit "A", visit "B"] where
  catalogued := by simp [visit]
  distinct := by decide

theorem first :
    FirstOffence stops (answersTo cost depot stops ()) 2 (.planningFailed .noRoute) 3 := by
  constructor
  · refine ⟨visit "C", .error (.planningFailed .noRoute), rfl, rfl, .leg ?_ rfl⟩
    rintro fault (foreign | ⟨stop, visited⟩ | ⟨-, -, far⟩)
    · cases foreign
    · cases stop
      exact absurd visited (by decide)
    · exact absurd far (by decide)
  · intro j before fault count
    have clear : ∀ j e asked, ¬ OffendsAt [visit "A", visit "B"]
        [.ok ⟨1000, 60⟩, .ok ⟨1000, 60⟩] j e asked :=
      fun j e asked => not_offendsAt visitable (by decide) (by simp)
    obtain rfl | rfl : j = 0 ∨ j = 1 := by omega
    · exact clear 0 fault count
    · exact clear 1 fault count

end Blocked

theorem compute_stops_at_first_offence_blocked :
    (compute (Relocation.logged Blocked.cost) Blocked.depot Blocked.stops).outcome ([], ()) =
      (.error (.planningFailed .noRoute),
        ([(.depot Blocked.depot, Blocked.visit "A"), (Blocked.visit "A", Blocked.visit "B"),
          (Blocked.visit "B", Blocked.visit "C")], ())) := by
  obtain ⟨answer, asked, -, logged, -, -, failed, spent⟩ :=
    compute_stops_at_first_offence Blocked.cost Blocked.depot Blocked.stops ()
  rw [logged, (failed _).mpr ⟨2, 3, Blocked.first⟩, spent _ _ _ Blocked.first]
  rfl

end ServiceRoute.FinalRoute
