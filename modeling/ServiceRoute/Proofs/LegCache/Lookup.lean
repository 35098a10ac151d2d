import Mathlib.Tactic.SplitIfs
import ServiceRoute.LegCache
import ServiceRoute.Proofs.Planning.InStep

/-!
# Looking legs up

A lookup answers from the cache or asks, and remembers what it asked. Caches over
questions in step stay equal. Among places with different keys an answer is only
ever given for the leg it was asked for, so what vouched for it then still does
when it is looked up. Over questions that depend on nothing but their leg, lookups
are therefore in step with the questions themselves.
-/

namespace ServiceRoute.LegCache

open Planning

variable {σ τ α : Type}

theorem answer?_empty (key : LegKey) : empty.answer? key = none := by
  simp [empty, answer?]

theorem answer?_remember (cache : LegCache) (key key' : LegKey) (answer : Except PlanError Cost) :
    (cache.remember key answer).answer? key' =
      if key = key' then some answer else cache.answer? key' := by
  simp [remember, answer?, Std.HashMap.getElem?_insert]

section Lookup

variable {ask : Waypoint → Waypoint → Planning σ Cost} {a b : Waypoint}

theorem outcome_cost_of_some {cache : LegCache} {answer : Except PlanError Cost} (world : σ)
    (h : cache.answer? (.between a b) = some answer) :
    (cost ask a b).outcome (cache, world) = (answer, (cache, world)) := by
  simp [cost, h]

theorem outcome_cost_of_none {cache : LegCache} (world : σ)
    (h : cache.answer? (.between a b) = none) :
    (cost ask a b).outcome (cache, world) =
      (((ask a b).outcome world).1,
        (cache.remember (.between a b) ((ask a b).outcome world).1,
          ((ask a b).outcome world).2)) := by
  simp [cost, h]

end Lookup

theorem cost_inStep {R : σ → τ → Prop} {ask : Waypoint → Waypoint → Planning σ Cost}
    {ask' : Waypoint → Waypoint → Planning τ Cost} {a b : Waypoint}
    (h : InStep R (ask a b) (ask' a b)) :
    InStep (fun p q => p.1 = q.1 ∧ R p.2 q.2) (cost ask a b) (cost ask' a b) := by
  rintro ⟨cache, world⟩ ⟨cache', world'⟩ ⟨hcache, related⟩
  obtain rfl : cache = cache' := hcache
  cases hanswer : cache.answer? (.between a b) with
  | some answer =>
    rw [outcome_cost_of_some world hanswer, outcome_cost_of_some world' hanswer]
    exact ⟨rfl, rfl, related⟩
  | none =>
    rw [outcome_cost_of_none world hanswer, outcome_cost_of_none world' hanswer]
    obtain ⟨same, left⟩ := h related
    exact ⟨same, congrArg (cache.remember (.between a b)) same, left⟩

section Places

variable {place : Waypoint → Prop}

/-- No two places have the same key. -/
def Apart (place : Waypoint → Prop) : Prop :=
  ∀ ⦃a b⦄, place a → place b → WaypointKey.ofWaypoint a = WaypointKey.ofWaypoint b → a = b

theorem Apart.of_between_eq (apart : Apart place) {a b a' b' : Waypoint} (ha : place a)
    (hb : place b) (ha' : place a') (hb' : place b')
    (h : LegKey.between a b = LegKey.between a' b') : a = a' ∧ b = b' := by
  obtain ⟨hstart, hstop⟩ := LegKey.mk.inj h
  exact ⟨apart ha ha' hstart, apart hb hb' hstop⟩

/-- Every remembered answer to a leg between two places is vouched for by `V`. -/
def Vouched (place : Waypoint → Prop) (V : Waypoint → Waypoint → Except PlanError Cost → Prop)
    (cache : LegCache) : Prop :=
  ∀ ⦃a b⦄, place a → place b → ∀ ⦃given⦄, cache.answer? (.between a b) = some given → V a b given

variable {V V' : Waypoint → Waypoint → Except PlanError Cost → Prop}

theorem vouched_empty (place : Waypoint → Prop)
    (V : Waypoint → Waypoint → Except PlanError Cost → Prop) : Vouched place V empty := by
  intro a b _ _ given h
  rw [answer?_empty] at h
  cases h

theorem Vouched.mono {cache : LegCache} (h : cache.Vouched place V)
    (weaker : ∀ a b given, V a b given → V' a b given) : cache.Vouched place V' :=
  fun _ _ ha hb _ hgiven => weaker _ _ _ (h ha hb hgiven)

theorem Vouched.remember (apart : Apart place) {cache : LegCache} (h : cache.Vouched place V)
    {a b : Waypoint} (ha : place a) (hb : place b) {answer : Except PlanError Cost}
    (new : V a b answer) : (cache.remember (.between a b) answer).Vouched place V := by
  intro a' b' ha' hb' given hgiven
  rw [answer?_remember] at hgiven
  split_ifs at hgiven with hkey
  · obtain ⟨rfl, rfl⟩ := apart.of_between_eq ha hb ha' hb' hkey
    obtain rfl := Option.some.inj hgiven
    exact new
  · exact h ha' hb' hgiven

/-- If every question leaves a voucher for its answer that no question takes back, then so does
every lookup between places apart, and the cache stays vouched for. -/
theorem cost_vouched (apart : Apart place) {ask : Waypoint → Waypoint → Planning σ Cost}
    {V : σ → Waypoint → Waypoint → Except PlanError Cost → Prop}
    (asked : ∀ a b world, V ((ask a b).outcome world).2 a b ((ask a b).outcome world).1)
    (lasts : ∀ a b x y given, Keeps (fun world => V world x y given) (ask a b))
    {a b : Waypoint} (ha : place a) (hb : place b) {cache : LegCache} {world : σ}
    (h : cache.Vouched place (V world)) {answer : Except PlanError Cost} {cache' : LegCache}
    {world' : σ} (run : (cost ask a b).outcome (cache, world) = (answer, (cache', world'))) :
    cache'.Vouched place (V world') ∧ V world' a b answer := by
  cases hanswer : cache.answer? (.between a b) with
  | some given =>
    rw [outcome_cost_of_some world hanswer] at run
    cases run
    exact ⟨h, h ha hb hanswer⟩
  | none =>
    rw [outcome_cost_of_none world hanswer] at run
    cases run
    have kept := h.mono fun x y given hgiven => lasts a b x y given hgiven
    exact ⟨kept.remember apart ha hb (asked a b world), asked a b world⟩

theorem cost_keeps {I : σ → Prop} {ask : Waypoint → Waypoint → Planning σ Cost} {a b : Waypoint}
    (h : Keeps I (ask a b)) : Keeps (fun p => I p.2) (cost ask a b) := by
  rintro ⟨cache, world⟩ hI
  cases hanswer : cache.answer? (.between a b) with
  | some given =>
    rw [outcome_cost_of_some world hanswer]
    exact hI
  | none =>
    rw [outcome_cost_of_none world hanswer]
    exact h hI

theorem cost_keeps_cache (I : LegCache → Prop) {a b : Waypoint}
    (learns : ∀ cache answer, I cache → I (cache.remember (.between a b) answer))
    (ask : Waypoint → Waypoint → Planning σ Cost) : Keeps (fun p => I p.1) (cost ask a b) := by
  rintro ⟨cache, world⟩ hI
  cases hanswer : cache.answer? (.between a b) with
  | some given =>
    rw [outcome_cost_of_some world hanswer]
    exact hI
  | none =>
    rw [outcome_cost_of_none world hanswer]
    exact learns cache _ hI

/-- Between places apart, a lookup is in step with a question that changes nothing. -/
theorem cost_inStep_ask (apart : Apart place) {ask : Waypoint → Waypoint → Planning σ Cost}
    {answer : Waypoint → Waypoint → Except PlanError Cost}
    (asked : ∀ a b world, (ask a b).outcome world = (answer a b, world)) {a b : Waypoint}
    (ha : place a) (hb : place b) :
    InStep (fun p world => p.1.Vouched place (fun a b given => given = answer a b) ∧ p.2 = world)
      (cost ask a b) (ask a b) := by
  rintro ⟨cache, world⟩ world' ⟨vouched, hworld⟩
  obtain rfl : world = world' := hworld
  cases hanswer : cache.answer? (.between a b) with
  | some given =>
    rw [outcome_cost_of_some world hanswer, asked]
    exact ⟨vouched ha hb hanswer, vouched, rfl⟩
  | none =>
    rw [outcome_cost_of_none world hanswer, asked]
    exact ⟨rfl, vouched.remember apart ha hb rfl, rfl⟩

end Places

theorem outcome_withFresh (act : Planning (LegCache × σ) α) (world : σ) :
    (withFresh act).outcome world =
      ((act.outcome (empty, world)).1, (act.outcome (empty, world)).2.2) := rfl

theorem withFresh_ensures {P : α → Prop} {act : Planning (LegCache × σ) α}
    (h : Ensures P act) : Ensures P (withFresh act) := by
  intro world a world' run
  rw [outcome_withFresh] at run
  have answered := congrArg Prod.fst run
  exact h (Prod.ext answered rfl)

theorem withFresh_inStep {R : σ → τ → Prop} {R' : LegCache × σ → τ → Prop}
    {act : Planning (LegCache × σ) α} {act' : Planning τ α} (h : InStep R' act act')
    (begins : ∀ world world', R world world' → R' (empty, world) world')
    (ends : ∀ p world', R' p world' → R p.2 world') : InStep R (withFresh act) act' := by
  intro world world' related
  obtain ⟨same, left⟩ := h (begins world world' related)
  exact ⟨same, ends _ _ left⟩

theorem withFresh_inStep_withFresh {R : σ → τ → Prop} {act : Planning (LegCache × σ) α}
    {act' : Planning (LegCache × τ) α}
    (h : InStep (fun p q => p.1 = q.1 ∧ R p.2 q.2) act act') :
    InStep R (withFresh act) (withFresh act') := by
  intro world world' related
  obtain ⟨same, _, left⟩ := @h (empty, world) (empty, world') ⟨rfl, related⟩
  exact ⟨same, left⟩

end ServiceRoute.LegCache
