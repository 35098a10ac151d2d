import ServiceRoute.Proofs.FinalRoute.Visitable
import ServiceRoute.Proofs.Relocation.CostedLegs

/-!
# Reused legs

A final route over the result of a relocation pass, with the cache that the pass has filled, looks
up legs that are all remembered, but for the one from the depot: no stop of a pass is the depot.
So it asks one question, and whatever the answer is, it is the only thing the cache learns.
-/

namespace ServiceRoute

open Planning

namespace LegCache

variable {σ : Type} {ask : Waypoint → Waypoint → Planning σ Cost} {cache : LegCache}

def Knows (cache : LegCache) (a b : Waypoint) : Prop :=
  (cache.answer? (.between a b)).isSome

theorem Knows.remember {a b : Waypoint} (h : cache.Knows a b) (key : LegKey)
    (answer : Except PlanError Cost) : (cache.remember key answer).Knows a b := by
  unfold Knows
  rw [answer?_remember]
  split_ifs
  · rfl
  · exact h

theorem knows_of_cost (ask : Waypoint → Waypoint → Planning σ Cost) (a b : Waypoint)
    (p : LegCache × σ) : ((cost ask a b).outcome p).2.1.Knows a b := by
  obtain ⟨cache, world⟩ := p
  unfold Knows
  cases hanswer : cache.answer? (.between a b) with
  | some given =>
    rw [outcome_cost_of_some world hanswer, hanswer]
    rfl
  | none =>
    rw [outcome_cost_of_none world hanswer, answer?_remember, if_pos rfl]
    rfl

theorem knows_stays (ask : Waypoint → Waypoint → Planning σ Cost) (a b x y : Waypoint) :
    Keeps (fun p => p.1.Knows x y) (cost ask a b) :=
  cost_keeps_cache (fun cache => cache.Knows x y)
    (fun _ answer known => Knows.remember known _ answer) ask

def durations (ask : Waypoint → Waypoint → Planning σ Cost) (a b : Waypoint) :
    Planning (LegCache × σ) Float :=
  Cost.duration <$> cost ask a b

theorem durations_marks (ask : Waypoint → Waypoint → Planning σ Cost) :
    Marks (durations ask) fun a b p => p.1.Knows a b where
  left := by
    intro a b p d p' run
    rw [durations, outcome_map] at run
    obtain rfl := congrArg Prod.snd run
    exact knows_of_cost ask a b p
  stays a b x y := (knows_stays ask a b x y).map _

def Faultless (cache : LegCache) : Prop :=
  ∀ key given, cache.answer? key = some given → ∃ leg, given = .ok leg

theorem faultless_empty : Faultless empty := by
  intro key given hgiven
  rw [answer?_empty] at hgiven
  cases hgiven

theorem Faultless.remember (h : cache.Faultless) (key : LegKey) (leg : Cost) :
    (cache.remember key (.ok leg)).Faultless := by
  intro other given hgiven
  rw [answer?_remember] at hgiven
  split_ifs at hgiven
  · exact ⟨leg, (Option.some.inj hgiven).symm⟩
  · exact h other given hgiven

theorem durations_succeed
    (answered : ∀ a b world, ∃ leg world', (ask a b).outcome world = (.ok leg, world'))
    (a b : Waypoint) : Succeeds (fun p => p.1.Faultless) (durations ask a b) := by
  refine Succeeds.map _ ?_
  rintro ⟨cache, world⟩ faultless
  cases hanswer : cache.answer? (.between a b) with
  | some given =>
    obtain ⟨leg, rfl⟩ := faultless _ _ hanswer
    exact ⟨leg, _, outcome_cost_of_some world hanswer, faultless⟩
  | none =>
    obtain ⟨leg, world', asked⟩ := answered a b world
    have looked : (cost ask a b).outcome (cache, world) = _ := outcome_cost_of_none world hanswer
    rw [asked] at looked
    exact ⟨leg, _, looked, faultless.remember _ leg⟩

/-- No leg from a depot has been looked up. -/
def Undeparted (cache : LegCache) : Prop :=
  ∀ key, key.start = .depot → cache.answer? key = none

theorem undeparted_empty : Undeparted empty :=
  fun key _ => answer?_empty key

theorem Undeparted.remember (h : cache.Undeparted) {key : LegKey} (departs : key.start ≠ .depot)
    (answer : Except PlanError Cost) : (cache.remember key answer).Undeparted := by
  intro other start
  rw [answer?_remember, if_neg fun same : key = other => departs (same ▸ start)]
  exact h other start

theorem start_between_of_stop {a : Waypoint} {id : StopId} (h : a.kind = .stop id) (b : Waypoint) :
    (LegKey.between a b).start = .stop id := by
  simp [LegKey.between, WaypointKey.ofWaypoint, h]

theorem durations_undeparted (ask : Waypoint → Waypoint → Planning σ Cost) {a : Waypoint}
    (stop : ∃ id, a.kind = .stop id) (b : Waypoint) :
    Keeps (fun p => p.1.Undeparted) (durations ask a b) := by
  obtain ⟨id, kind⟩ := stop
  have departs : (LegKey.between a b).start ≠ .depot := by
    rw [start_between_of_stop kind]
    exact WaypointKey.noConfusion
  have looked : Keeps (fun p => p.1.Undeparted) (cost ask a b) :=
    cost_keeps_cache Undeparted (fun _ answer h => h.remember departs answer) ask
  exact looked.map _

theorem relocateUnder_undeparted (ask : Waypoint → Waypoint → Planning σ Cost)
    (schedule : Schedule) (limits : Relocation.Limits Float) (maxMoves maxStops : Nat)
    {stops : List Waypoint} (catalogued : ∀ w ∈ stops, ∃ id, w.kind = .stop id) :
    Keeps (fun p => p.1.Undeparted)
      (Relocation.relocateUnder schedule (durations ask) limits maxMoves maxStops stops) := by
  have legs : ∀ a b, (∃ id, a.kind = .stop id) → (∃ id, b.kind = .stop id) →
      InStep (fun p q => p = q ∧ p.1.Undeparted) (durations ask a b) (durations ask a b) :=
    fun a b stop _ => keeps_iff_inStep.mp (durations_undeparted ask stop b)
  exact keeps_iff_inStep.mpr
    (Relocation.relocateUnder_inStep legs schedule limits maxMoves maxStops catalogued)

end LegCache

namespace FinalRoute

open LegCache

section Known

variable {σ : Type} {ask : Waypoint → Waypoint → Planning σ Cost} {cache : LegCache}

/-- A walk over known legs asks for nothing and remembers nothing new. -/
theorem extend_known {previous : Waypoint} {stops : List Waypoint}
    (known : (previous :: stops).IsChain cache.Knows) (route : FinalRoute) (world : σ) :
    ((extend (cost ask) route previous stops).outcome (cache, world)).2 = (cache, world) := by
  induction stops generalizing route previous with
  | nil => rfl
  | cons w rest ih =>
    obtain ⟨first, later⟩ := List.isChain_cons_cons.mp known
    obtain ⟨given, hgiven⟩ := Option.isSome_iff_exists.mp first
    unfold extend
    rw [outcome_bind, outcome_liftM]
    cases accept (route.entries.map (·.stop)) route.entries.length w with
    | error e => rfl
    | ok id =>
      dsimp only
      rw [outcome_bind, outcome_cost_of_some world hgiven]
      cases given with
      | error e => rfl
      | ok leg => exact ih later _

theorem compute_asks_once (ask : Waypoint → Waypoint → Planning σ Cost) (depot : Coordinate)
    {first : Waypoint} {rest : List Waypoint} (catalogued : ∃ id, first.kind = .stop id)
    (undeparted : cache.Undeparted) (known : (first :: rest).IsChain cache.Knows) (world : σ) :
    ((compute (cost ask) depot (first :: rest)).outcome (cache, world)).2 =
      (cache.remember (.between (.depot depot) first) ((ask (.depot depot) first).outcome world).1,
        ((ask (.depot depot) first).outcome world).2) := by
  obtain ⟨id, kind⟩ := catalogued
  have accepted : accept (([] : List RouteEntry).map (·.stop)) 0 first = .ok id := by
    rw [accept, Waypoint.stopId?_eq_some_iff.mpr kind]
    rfl
  have unknown : cache.answer? (.between (.depot depot) first) = none := undeparted _ rfl
  have remembered := known.imp fun a b h => Knows.remember h (.between (.depot depot) first)
    ((ask (.depot depot) first).outcome world).1
  unfold compute extend
  rw [outcome_bind, outcome_liftM]
  dsimp only [List.length_nil]
  rw [accepted]
  dsimp only
  rw [outcome_bind, outcome_cost_of_none world unknown]
  cases answer : ((ask (.depot depot) first).outcome world).1 with
  | error e => rfl
  | ok leg =>
    rw [answer] at remembered
    exact extend_known remembered _ _

end Known

/-- If every leg has a duration and a window has room for a candidate, relocation of at least three
stops succeeds under every schedule, and unless its relocations are used up it has asked for every
leg of its result. So over catalog stops, with a cache that was empty before, the final route over
the result asks one question more, which is for the leg from the depot to the first stop. -/
theorem compute_reuses_legs :
    (∀ {σ α δ : Type} [Add δ] [Sub δ] [Neg δ] [LE δ] [LT δ] [DecidableLE δ] [DecidableLT δ]
        (schedule : Schedule) (duration : α → α → Planning σ δ) (limits : Relocation.Limits δ)
        (maxMoves maxStops : Nat) (stops : List α),
      (∀ a b world, ∃ d world', (duration a b).outcome world = (.ok d, world')) →
      2 ≤ limits.lookahead → 3 ≤ stops.length → stops.length ≤ maxStops →
      ∀ world, ∃ result log world',
        (Relocation.relocateUnder schedule duration limits maxMoves maxStops stops).outcome world =
          (.ok result, world') ∧
        (Relocation.relocateUnder schedule (Relocation.logged duration) limits maxMoves maxStops
          stops).outcome ([], world) = (.ok result, (log, world')) ∧
        (result.moves < maxMoves → result.stops.IsChain fun a b => (a, b) ∈ log)) ∧
    ∀ {σ : Type} (schedule : Schedule) (ask : Waypoint → Waypoint → Planning σ Cost)
        (limits : Relocation.Limits Float) (maxMoves maxStops : Nat) (stops : List Waypoint),
      (∀ a b world, ∃ leg world', (ask a b).outcome world = (.ok leg, world')) →
      2 ≤ limits.lookahead → Visitable stops → 3 ≤ stops.length → stops.length ≤ maxStops →
      ∀ world, ∃ result cache world',
        (Relocation.relocateUnder schedule (durations ask) limits maxMoves maxStops stops).outcome
          (.empty, world) = (.ok result, (cache, world')) ∧
        (result.moves < maxMoves → ∀ depot : Coordinate, ∃ first rest leg world'' cache',
          result.stops = first :: rest ∧
          (ask (.depot depot) first).outcome world' = (.ok leg, world'') ∧
          cache' = cache.remember (.between (.depot depot) first) (.ok leg) ∧
          cache'.asked = cache.asked + 1 ∧
          ((compute (cost ask) depot result.stops).outcome (cache, world')).2 =
            (cache', world'')) := by
  refine ⟨?_, ?_⟩
  · intro σ α δ _ _ _ _ _ _ _ schedule duration limits maxMoves maxStops stops answered wide enough
      short world
    have succeeds : ∀ a b, Succeeds (fun _ => True) (duration a b) := by
      intro a b world _
      obtain ⟨d, world', run⟩ := answered a b world
      exact ⟨d, world', run, trivial⟩
    obtain ⟨result, world', run, -⟩ :=
      Relocation.relocateUnder_succeeds succeeds schedule limits maxMoves maxStops stops
        (trivial : True)
    obtain ⟨log, logged⟩ := Relocation.exists_log run
    have windows := Relocation.marksWindows (Relocation.logged_marks duration) schedule limits
    exact ⟨result, log, world', run, logged, windows.relocateBy_marked wide enough short logged⟩
  · intro σ schedule ask limits maxMoves maxStops stops answered wide visitable enough short world
    have begun : (LegCache.empty, world).1.Faultless := faultless_empty
    obtain ⟨result, ⟨cache, world'⟩, run, -⟩ :=
      Relocation.relocateUnder_succeeds (durations_succeed answered) schedule limits maxMoves
        maxStops stops begun
    refine ⟨result, cache, world', run, fun left depot => ?_⟩
    have windows := Relocation.marksWindows (durations_marks ask) schedule limits
    have known := windows.relocateBy_marked wide enough short run left
    have undeparted : cache.Undeparted := (relocateUnder_undeparted ask schedule limits maxMoves
      maxStops visitable.catalogued).left undeparted_empty run
    have rearranged :=
      Relocation.relocateUnder_ensures_perm schedule _ limits maxMoves maxStops stops run
    cases order : result.stops with
    | nil =>
      have counted := rearranged.length_eq
      rw [order, List.length_nil] at counted
      omega
    | cons first rest =>
      obtain ⟨leg, world'', asked⟩ := answered (.depot depot) first world'
      have catalogued := visitable.catalogued first (rearranged.mem_iff.mp (by simp [order]))
      rw [order] at known
      have once := compute_asks_once ask depot catalogued undeparted known world'
      rw [asked] at once
      exact ⟨first, rest, leg, world'', _, rfl, asked, rfl, rfl, once⟩

/-! Four stops along a road, listed in a zigzag. The questions are counted. -/

namespace Zigzag

def ask (a b : Waypoint) : Planning Nat Cost :=
  .ofOutcome fun count => (.ok ⟨1000, (a.location.lon - b.location.lon).abs⟩, count + 1)

def duration (a b : Waypoint) : Planning Nat Float :=
  Cost.duration <$> ask a b

def visit (id : StopId) (lon : Float) : Waypoint :=
  ⟨⟨lon, 7⟩, .stop id, none, none⟩

def stops : List Waypoint :=
  [visit "A" 1, visit "C" 90, visit "B" 10, visit "D" 95]

def limits : Relocation.Limits Float :=
  ⟨8, 5⟩

/-- The second candidate asks first, and then they take turns. -/
def schedule : Schedule :=
  fun _ => ⟨[1, 0, 1, 0, 0], 0⟩

theorem visitable : Visitable stops where
  catalogued := by simp [stops, visit]
  distinct := by decide

theorem answered (a b : Waypoint) (count : Nat) :
    ∃ leg count', (ask a b).outcome count = (.ok leg, count') :=
  ⟨_, _, rfl⟩

end Zigzag

theorem compute_reuses_legs_zigzag : Visitable Zigzag.stops ∧ 2 ≤ Zigzag.limits.lookahead ∧
    3 ≤ Zigzag.stops.length ∧ Zigzag.stops.length ≤ 150 ∧
    (∃ result log count,
      (Relocation.relocateUnder Zigzag.schedule (Relocation.logged Zigzag.duration) Zigzag.limits 30
        150 Zigzag.stops).outcome ([], 0) = (.ok result, (log, count)) ∧
      result.moves < 30 ∧ result.stops.IsChain fun a b => (a, b) ∈ log) ∧
    ∃ result cache count,
      (Relocation.relocateUnder Zigzag.schedule (durations Zigzag.ask) Zigzag.limits 30 150
        Zigzag.stops).outcome (.empty, 0) = (.ok result, (cache, count)) ∧ result.moves < 30 ∧
      ((compute (cost Zigzag.ask) ⟨0, 7⟩ result.stops).outcome (cache, count)).2.1.asked =
        cache.asked + 1 := by
  have wide : 2 ≤ Zigzag.limits.lookahead := by decide
  have enough : 3 ≤ Zigzag.stops.length := by decide
  have short : Zigzag.stops.length ≤ 150 := by decide
  obtain ⟨logs, reuses⟩ := compute_reuses_legs
  refine ⟨Zigzag.visitable, wide, enough, short, ?_, ?_⟩
  · obtain ⟨result, log, count, run, logged, asked⟩ :=
      logs Zigzag.schedule Zigzag.duration Zigzag.limits 30 150 Zigzag.stops
        (fun _ _ _ => ⟨_, _, rfl⟩) wide enough short 0
    have few := Relocation.relocateBy_ensures_moves_le _ _ _ _ run
    have left : result.moves < 30 := Nat.lt_of_le_of_lt few (by decide)
    exact ⟨result, log, count, logged, left, asked left⟩
  · obtain ⟨result, cache, count, run, reused⟩ :=
      reuses Zigzag.schedule Zigzag.ask Zigzag.limits 30 150 Zigzag.stops Zigzag.answered wide
        Zigzag.visitable enough short 0
    have few := Relocation.relocateBy_ensures_moves_le _ _ _ _ run
    have left : result.moves < 30 := Nat.lt_of_le_of_lt few (by decide)
    obtain ⟨first, rest, leg, count', cache', -, -, -, asked, once⟩ := reused left ⟨0, 7⟩
    refine ⟨result, cache, count, run, left, ?_⟩
    rw [once]
    exact asked

end FinalRoute

end ServiceRoute
