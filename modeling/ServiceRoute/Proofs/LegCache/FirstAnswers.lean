import Mathlib.Data.Finset.Card
import Mathlib.Data.List.Induction
import ServiceRoute.Proofs.LegCache.Lookup
import ServiceRoute.Proofs.Number.DecimalText
import ServiceRoute.Proofs.RoutePlanner.Trace
import ServiceRoute.Proofs.Selection.FirstOccurrence

/-!
# First answers

Looking legs up one after the other comes to asking for the first leg of every key and answering
the others from these. The oracle may change its mind from one question to the next, or fail: the
first answer to a key, a failure included, is the only one that is ever seen.
-/

namespace ServiceRoute.LegCache

open Planning Selection Consultation

variable {σ τ : Type}

abbrev Hop := Waypoint × Waypoint

def keyOf (hop : Hop) : LegKey :=
  .between hop.1 hop.2

def SameEnd (v w : Waypoint) : Prop :=
  match v.kind, w.kind with
  | .depot, .depot => True
  | .stop id, .stop id' => id = id'
  | .location, .location =>
    Number.fixed 6 v.location.lon = Number.fixed 6 w.location.lon ∧
      Number.fixed 6 v.location.lat = Number.fixed 6 w.location.lat
  | _, _ => False

theorem ofWaypoint_eq_iff {v w : Waypoint} :
    WaypointKey.ofWaypoint v = WaypointKey.ofWaypoint w ↔ SameEnd v w := by
  unfold WaypointKey.ofWaypoint SameEnd
  cases v.kind <;> cases w.kind <;> simp [Coordinate.text_eq_iff]

theorem keyOf_eq_iff {hop hop' : Hop} :
    keyOf hop = keyOf hop' ↔ SameEnd hop.1 hop'.1 ∧ SameEnd hop.2 hop'.2 := by
  rw [keyOf, keyOf, LegKey.between, LegKey.between, LegKey.mk.injEq, ofWaypoint_eq_iff,
    ofWaypoint_eq_iff]

section Asking

variable (ask : Waypoint → Waypoint → Planning σ Cost)

/-- The hops asked for one after the other, whether that succeeds or fails: each with its answer,
and the world after the last. -/
def askEach : List Hop → σ → List (Hop × Except PlanError Cost) × σ
  | [], world => ([], world)
  | hop :: rest, world =>
    let (answer, world) := (ask hop.1 hop.2).outcome world
    let (answers, world) := askEach rest world
    ((hop, answer) :: answers, world)

theorem askEach_append (hops later : List Hop) (world : σ) :
    askEach ask (hops ++ later) world =
      let (answers, world) := askEach ask hops world
      let (more, world) := askEach ask later world
      (answers ++ more, world) := by
  induction hops generalizing world with
  | nil => rfl
  | cons first rest ih => simp [askEach, ih]

theorem askEach_concat (hops : List Hop) (hop : Hop) (world : σ) :
    askEach ask (hops ++ [hop]) world =
      let (answers, world) := askEach ask hops world
      let (answer, world) := (ask hop.1 hop.2).outcome world
      (answers ++ [(hop, answer)], world) :=
  askEach_append ask hops [hop] world

theorem hops_askEach (hops : List Hop) (world : σ) :
    (askEach ask hops world).1.map (·.1) = hops := by
  induction hops generalizing world with
  | nil => rfl
  | cons first rest ih => simp [askEach, ih]

theorem length_askEach (hops : List Hop) (world : σ) :
    (askEach ask hops world).1.length = hops.length := by
  simpa using congrArg List.length (hops_askEach ask hops world)

/-- The hops looked up one after the other, nothing being remembered before. -/
def lookUpEach (hops : List Hop) (world : σ) :
    List (Hop × Except PlanError Cost) × (LegCache × σ) :=
  askEach (cost ask) hops (empty, world)

/-- The first hops of their keys, asked for without a cache. -/
def askFirsts (hops : List Hop) (world : σ) : List (Hop × Except PlanError Cost) × σ :=
  askEach ask (firstPer keyOf hops) world

end Asking

section Invariant

variable {ask : Waypoint → Waypoint → Planning σ Cost}

/-- The answer among these to a hop with the key. -/
def answerTo (answers : List (Hop × Except PlanError Cost)) (key : LegKey) :
    Option (Except PlanError Cost) :=
  (answers.find? (keyOf ·.1 = key)).map (·.2)

theorem answerTo_eq_none {answers : List (Hop × Except PlanError Cost)} {key : LegKey} :
    answerTo answers key = none ↔ key ∉ (answers.map (·.1)).map keyOf := by
  simp [answerTo]

theorem answerTo_concat (answers : List (Hop × Except PlanError Cost)) (hop : Hop)
    (answer : Except PlanError Cost) (key : LegKey) :
    answerTo (answers ++ [(hop, answer)]) key =
      (answerTo answers key).or (if keyOf hop = key then some answer else none) := by
  unfold answerTo
  rw [List.find?_append]
  cases answers.find? (keyOf ·.1 = key) with
  | some found => rfl
  | none => by_cases same : keyOf hop = key <;> simp [same]

/-- The state after looking the hops up: their first answers are remembered, each was asked for
once, and the world is the one that asking for them leaves. -/
structure Remembers (ask : Waypoint → Waypoint → Planning σ Cost) (hops : List Hop) (world : σ)
    (state : LegCache × σ) : Prop where
  answers : ∀ key, state.1.answer? key = answerTo (askFirsts ask hops world).1 key
  size : state.1.size = (firstPer keyOf hops).length
  asked : state.1.asked = (firstPer keyOf hops).length
  world : state.2 = (askFirsts ask hops world).2

theorem remembers_empty (world : σ) : Remembers ask [] world (empty, world) where
  answers key := answer?_empty key
  size := Std.HashMap.size_empty
  asked := rfl
  world := rfl

theorem Remembers.answer?_eq_none {hops : List Hop} {world : σ} {state : LegCache × σ}
    (h : Remembers ask hops world state) {key : LegKey} :
    state.1.answer? key = none ↔ key ∉ hops.map keyOf := by
  rw [h.answers, answerTo_eq_none, askFirsts, hops_askEach, mem_map_firstPer]

theorem askFirsts_of_known {hops : List Hop} {hop : Hop} (known : keyOf hop ∈ hops.map keyOf)
    (world : σ) : askFirsts ask (hops ++ [hop]) world = askFirsts ask hops world := by
  rw [askFirsts, firstPer_concat, if_pos known]
  rfl

theorem askFirsts_of_new {hops : List Hop} {hop : Hop} (new : keyOf hop ∉ hops.map keyOf)
    (world : σ) : askFirsts ask (hops ++ [hop]) world =
      let (answers, world) := askFirsts ask hops world
      let (answer, world) := (ask hop.1 hop.2).outcome world
      (answers ++ [(hop, answer)], world) := by
  rw [askFirsts, firstPer_concat, if_neg new, askEach_concat]
  rfl

theorem size_remember {cache : LegCache} {key : LegKey} (new : cache.answer? key = none)
    (answer : Except PlanError Cost) : (cache.remember key answer).size = cache.size + 1 := by
  have absent : key ∉ cache.answers := by simpa [answer?] using new
  simp [remember, size, Std.HashMap.size_insert, absent]

theorem Remembers.lookUp_known {hops : List Hop} {world : σ} {state : LegCache × σ}
    (h : Remembers ask hops world state) {hop : Hop} (known : keyOf hop ∈ hops.map keyOf) :
    Remembers ask (hops ++ [hop]) world ((cost ask hop.1 hop.2).outcome state).2 ∧
      answerTo (askFirsts ask (hops ++ [hop]) world).1 (keyOf hop) =
        some ((cost ask hop.1 hop.2).outcome state).1 := by
  obtain ⟨cache, left⟩ := state
  have remembered : (cache.answer? (keyOf hop)).isSome = true :=
    Option.isSome_iff_ne_none.mpr fun absent => h.answer?_eq_none.mp absent known
  obtain ⟨answer, found⟩ := Option.isSome_iff_exists.mp remembered
  rw [outcome_cost_of_some left found, askFirsts_of_known known]
  refine ⟨⟨?_, ?_, ?_, ?_⟩, (h.answers _).symm.trans found⟩
  · simpa only [askFirsts_of_known known] using h.answers
  · simpa only [firstPer_concat, if_pos known] using h.size
  · simpa only [firstPer_concat, if_pos known] using h.asked
  · simpa only [askFirsts_of_known known] using h.world

theorem Remembers.lookUp_new {hops : List Hop} {world : σ} {state : LegCache × σ}
    (h : Remembers ask hops world state) {hop : Hop} (new : keyOf hop ∉ hops.map keyOf) :
    Remembers ask (hops ++ [hop]) world ((cost ask hop.1 hop.2).outcome state).2 ∧
      answerTo (askFirsts ask (hops ++ [hop]) world).1 (keyOf hop) =
        some ((cost ask hop.1 hop.2).outcome state).1 := by
  obtain ⟨cache, left⟩ := state
  have absent : cache.answer? (keyOf hop) = none := h.answer?_eq_none.mpr new
  have unanswered := (h.answers (keyOf hop)).symm.trans absent
  obtain rfl : left = _ := h.world
  have asked : (cost ask hop.1 hop.2).outcome (cache, (askFirsts ask hops world).2) =
      (_, (cache.remember (keyOf hop) _, _)) := outcome_cost_of_none _ absent
  rw [asked, askFirsts_of_new new]
  refine ⟨⟨fun key => ?_, ?_, ?_, ?_⟩, ?_⟩
  · rw [askFirsts_of_new new, answer?_remember, answerTo_concat, h.answers key]
    by_cases same : keyOf hop = key
    · subst same
      rw [unanswered, if_pos rfl, Option.none_or]
    · rw [if_neg same, if_neg same, Option.or_none]
  · rw [firstPer_concat, if_neg new, List.length_append, size_remember absent]
    exact congrArg (· + 1) h.size
  · rw [firstPer_concat, if_neg new, List.length_append]
    exact congrArg (· + 1) h.asked
  · rw [askFirsts_of_new new]
  · rw [answerTo_concat, unanswered, if_pos rfl, Option.none_or]

/-- One more lookup keeps the state in order and gives the first answer to its key. -/
theorem Remembers.lookUp {hops : List Hop} {world : σ} {state : LegCache × σ}
    (h : Remembers ask hops world state) (hop : Hop) :
    Remembers ask (hops ++ [hop]) world ((cost ask hop.1 hop.2).outcome state).2 ∧
      answerTo (askFirsts ask (hops ++ [hop]) world).1 (keyOf hop) =
        some ((cost ask hop.1 hop.2).outcome state).1 := by
  by_cases known : keyOf hop ∈ hops.map keyOf
  · exact h.lookUp_known known
  · exact h.lookUp_new known

variable (ask) in
theorem remembers_lookUpEach (hops : List Hop) (world : σ) :
    Remembers ask hops world (lookUpEach ask hops world).2 := by
  induction hops using List.reverseRecOn with
  | nil => exact remembers_empty world
  | append_singleton hops hop ih =>
    rw [lookUpEach, askEach_concat]
    exact (ih.lookUp hop).1

theorem answerTo_of_mem_lookUpEach (hops : List Hop) (world : σ) :
    ∀ given ∈ (lookUpEach ask hops world).1,
      answerTo (askFirsts ask hops world).1 (keyOf given.1) = some given.2 := by
  induction hops using List.reverseRecOn with
  | nil =>
    intro given hgiven
    cases hgiven
  | append_singleton hops hop ih =>
    intro given hgiven
    rw [lookUpEach, askEach_concat] at hgiven
    rcases List.mem_append.mp hgiven with earlier | last
    · have first := ih given earlier
      by_cases known : keyOf hop ∈ hops.map keyOf
      · rw [askFirsts_of_known known]
        exact first
      · rw [askFirsts_of_new known, answerTo_concat, first, Option.some_or]
    · obtain rfl := List.mem_singleton.mp last
      exact ((remembers_lookUpEach ask hops world).lookUp hop).2

theorem length_firstPer_keyOf (hops : List Hop) :
    (firstPer keyOf hops).length = (hops.map keyOf).toFinset.card := by
  have same : (hops.map keyOf).toFinset = ((firstPer keyOf hops).map keyOf).toFinset := by
    ext key
    rw [List.mem_toFinset, List.mem_toFinset, mem_map_firstPer]
  rw [same, List.toFinset_card_of_nodup (nodup_map_firstPer keyOf hops), List.length_map]

end Invariant

section Recorded

/-- The questions `ask'` are the questions `ask`, with a log beside the world to which every
question adds what `record` makes of it and its answer. -/
def Records {ε : Type} (record : Hop × Except PlanError Cost → List ε)
    (ask' : Waypoint → Waypoint → Planning (List ε × σ) Cost)
    (ask : Waypoint → Waypoint → Planning σ Cost) : Prop :=
  ∀ a b log world, (ask' a b).outcome (log, world) =
    (((ask a b).outcome world).1,
      (log ++ record ((a, b), ((ask a b).outcome world).1), ((ask a b).outcome world).2))

theorem askEach_inStep {R : σ → τ → Prop} {ask : Waypoint → Waypoint → Planning σ Cost}
    {ask' : Waypoint → Waypoint → Planning τ Cost} (h : ∀ a b, InStep R (ask a b) (ask' a b))
    (hops : List Hop) (world : σ) (world' : τ) (related : R world world') :
    (askEach ask hops world).1 = (askEach ask' hops world').1 ∧
      R (askEach ask hops world).2 (askEach ask' hops world').2 := by
  induction hops generalizing world world' with
  | nil => exact ⟨rfl, related⟩
  | cons hop rest ih =>
    obtain ⟨same, left⟩ := h hop.1 hop.2 related
    obtain ⟨others, last⟩ := ih _ _ left
    refine ⟨?_, last⟩
    simp only [askEach]
    rw [same, others]

variable {ε : Type} {record : Hop × Except PlanError Cost → List ε}
variable {ask' : Waypoint → Waypoint → Planning (List ε × σ) Cost}
variable {ask : Waypoint → Waypoint → Planning σ Cost}

theorem askEach_of_records (h : Records record ask' ask) (hops : List Hop) (log : List ε)
    (world : σ) : askEach ask' hops (log, world) =
      ((askEach ask hops world).1,
        (log ++ (askEach ask hops world).1.flatMap record, (askEach ask hops world).2)) := by
  induction hops generalizing log world with
  | nil => simp [askEach]
  | cons hop rest ih => simp [askEach, h hop.1 hop.2, ih]

/-- The log changes no lookup, and it has the records of the first hops. -/
theorem lookUpEach_of_records (h : Records record ask' ask) (hops : List Hop) (world : σ) :
    (lookUpEach ask' hops ([], world)).1 = (lookUpEach ask hops world).1 ∧
      (lookUpEach ask' hops ([], world)).2.2 =
        ((askFirsts ask hops world).1.flatMap record, (askFirsts ask hops world).2) := by
  have asked : ∀ a b, InStep (fun p world => p.2 = world) (ask' a b) (ask a b) := by
    rintro a b ⟨log, world⟩ _ rfl
    rw [h a b log world]
    exact ⟨rfl, rfl⟩
  have lookedUp : ∀ a b, InStep (fun p q => p.1 = q.1 ∧ p.2.2 = q.2) (cost ask' a b)
      (cost ask a b) := fun a b => cost_inStep (asked a b)
  obtain ⟨answers, _⟩ :=
    askEach_inStep lookedUp hops (empty, ([], world)) (empty, world) ⟨rfl, rfl⟩
  have left := (remembers_lookUpEach ask' hops ([], world)).world
  rw [askFirsts, askEach_of_records h] at left
  exact ⟨answers, left⟩

end Recorded

section Noted

variable (oracle : CostOracle σ) (approach : Approach)

def noted (a b : Waypoint) : Planning (List Consultation × σ) Cost :=
  note (.legCost a b approach) (oracle.legCost a b approach)

def entryOf (asked : Hop × Except PlanError Cost) : Consultation :=
  .legCost asked.1.1 asked.1.2 approach asked.2

theorem records_noted : Records (fun asked => [entryOf approach asked]) (noted oracle approach)
    (fun a b => oracle.legCost a b approach) :=
  fun _ _ _ _ => rfl

theorem lookUpEach_noted (hops : List Hop) (world : σ) :
    (lookUpEach (noted oracle approach) hops ([], world)).1 =
        (lookUpEach (fun a b => oracle.legCost a b approach) hops world).1 ∧
      (lookUpEach (noted oracle approach) hops ([], world)).2.2 =
        ((askFirsts (fun a b => oracle.legCost a b approach) hops world).1.map (entryOf approach),
          (askFirsts (fun a b => oracle.legCost a b approach) hops world).2) := by
  rw [List.map_eq_flatMap]
  exact lookUpEach_of_records (records_noted oracle approach) hops world

end Noted

/-- Every lookup is answered as the first one with its key, whatever the oracle would say by now.
The oracle is asked for these first lookups only, in their order and with their own waypoints. At
every step the cache has one entry for each key, and has asked as often. Keys are equal if both
ends match, whatever the ends are called. -/
theorem lookUpEach_first_answers (oracle : CostOracle σ) (approach : Approach) (hops : List Hop)
    (world : σ) :
    let ask a b := oracle.legCost a b approach
    let answers := (lookUpEach ask hops world).1
    let firsts := (askFirsts ask hops world).1
    answers.map (·.1) = hops ∧ firsts.map (·.1) = firstPer keyOf hops ∧
      (∀ given ∈ answers, ∃ first, hops.find? (keyOf · = keyOf given.1) = some first ∧
        (first, given.2) ∈ firsts) ∧
      (lookUpEach (noted oracle approach) hops ([], world)).1 = answers ∧
      (lookUpEach (noted oracle approach) hops ([], world)).2.2 =
        (firsts.map (entryOf approach), (askFirsts ask hops world).2) ∧
      (∀ n, let cache := (lookUpEach ask (hops.take n) world).2.1
        cache.size = ((hops.take n).map keyOf).toFinset.card ∧ cache.asked = cache.size) ∧
      ∀ hop hop', keyOf hop = keyOf hop' ↔ SameEnd hop.1 hop'.1 ∧ SameEnd hop.2 hop'.2 := by
  obtain ⟨alike, log⟩ := lookUpEach_noted oracle approach hops world
  refine ⟨hops_askEach _ _ _, hops_askEach _ _ _, fun given hgiven => ?_, alike, log, fun n => ?_,
    fun _ _ => keyOf_eq_iff⟩
  · have answered := answerTo_of_mem_lookUpEach hops world given hgiven
    obtain ⟨⟨first, answer⟩, found, rfl⟩ := Option.map_eq_some_iff.mp answered
    have among := List.mem_of_find?_eq_some found
    have same : keyOf first = keyOf given.1 := by simpa using List.find?_some found
    have kept : first ∈ firstPer keyOf hops := by
      rw [← hops_askEach (fun a b => oracle.legCost a b approach) (firstPer keyOf hops) world]
      exact List.mem_map_of_mem among
    rw [← same]
    exact ⟨first, mem_firstPer.mp kept, among⟩
  · have remembers := remembers_lookUpEach (fun a b => oracle.legCost a b approach) (hops.take n)
      world
    dsimp only
    rw [remembers.size, remembers.asked, length_firstPer_keyOf]
    exact ⟨rfl, rfl⟩

/-! A fickle oracle fails once and then answers with the number of the question. The stops have
names that read like a depot and like a place. -/

namespace Fickle

def oracle : CostOracle Nat where
  planTrip _ _ := throw (.planningFailed .noTrips)
  legCost _ _ _ := .ofOutcome fun count =>
    (if count = 0 then .error (.planningFailed .noRoute) else .ok ⟨count.toFloat, 0⟩, count + 1)

def ask (a b : Waypoint) : Planning Nat Cost :=
  oracle.legCost a b .curb

def visit (id : StopId) : Waypoint :=
  ⟨⟨1, 2⟩, .stop id, none, none⟩

def place : Waypoint :=
  ⟨⟨1, 2⟩, .location, none, none⟩

/-- From a depot that has moved to the stop. -/
def last : Hop :=
  (.depot ⟨5, 6⟩, visit "A")

def hops : List Hop :=
  [(.depot ⟨1, 2⟩, visit "A"), (visit "depot", visit "A"), (place, visit "A"),
    (visit "1.000000,2.000000", visit "A"), last]

theorem askFirsts_hops : (askFirsts ask hops 0).1 =
    [((.depot ⟨1, 2⟩, visit "A"), .error (.planningFailed .noRoute)),
      ((visit "depot", visit "A"), .ok ⟨1, 0⟩), ((place, visit "A"), .ok ⟨2, 0⟩),
      ((visit "1.000000,2.000000", visit "A"), .ok ⟨3, 0⟩)] := by
  decide

theorem find?_hops : hops.find? (keyOf · = keyOf last) = some (.depot ⟨1, 2⟩, visit "A") := by
  decide

end Fickle

theorem lookUpEach_first_answers_fickle :
    (Fickle.last, .error (.planningFailed .noRoute)) ∈ (lookUpEach Fickle.ask Fickle.hops 0).1 ∧
      (lookUpEach Fickle.ask Fickle.hops 0).2.1.size = 4 ∧
      keyOf (Fickle.place, Fickle.visit "A") ≠
        keyOf (Fickle.visit "1.000000,2.000000", Fickle.visit "A") := by
  obtain ⟨listed, _, answered, _, _, steps, keys⟩ :=
    lookUpEach_first_answers Fickle.oracle .curb Fickle.hops 0
  refine ⟨?_, (steps 5).1, fun same => ((keys _ _).mp same).1⟩
  have asked : Fickle.last ∈ (lookUpEach Fickle.ask Fickle.hops 0).1.map (·.1) :=
    listed ▸ List.getLast_mem (by decide)
  obtain ⟨⟨hop, answer⟩, given, rfl⟩ := List.mem_map.mp asked
  obtain ⟨first, found, among⟩ := answered _ given
  rw [Fickle.find?_hops] at found
  obtain rfl := Option.some.inj found
  have question : (_, answer) ∈ (askFirsts Fickle.ask Fickle.hops 0).1 := among
  rw [Fickle.askFirsts_hops] at question
  have failed : answer = .error (.planningFailed .noRoute) := by
    simpa [Fickle.visit, Fickle.place, Waypoint.depot] using question
  exact failed ▸ given

end ServiceRoute.LegCache
