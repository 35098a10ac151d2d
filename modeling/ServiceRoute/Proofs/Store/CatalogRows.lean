import Mathlib.Data.Prod.Lex
import Mathlib.Data.String.Basic
import ServiceRoute.Proofs.Number.Addition
import ServiceRoute.Proofs.Store.History
import ServiceRoute.Proofs.Store.Operations
import ServiceRoute.Proofs.Store.StoredValue

/-!
# What the catalog of a store holds

Stops and risk snapshots are only written by their own operations, which refuse what is no number
and take the sign off a zero. So in a store with a history every stop is listed once, and its
risks read back as they were stored. The top of a pool is a front of its stops in the order of
their risks.
-/

namespace ServiceRoute.Store

open Store.Action

/-- A value that reads back as it was stored. -/
def ReadsBack (x : Float) : Prop :=
  stored? x = some x

theorem readsBack_of_stored {column : Column} {x y : Float} (h : stored column x = .ok y) :
    ReadsBack y := by
  have read := stored_eq_ok.mp h
  unfold ReadsBack
  unfold stored? at read ⊢
  split at read
  · cases read
  · rename_i number
    split at read
    · obtain rfl := Option.some.inj read
      decide
    · rename_i nonzero
      obtain rfl := Option.some.inj read
      rw [if_neg number, if_neg nonzero]

theorem ReadsBack.isNaN {x : Float} (h : ReadsBack x) : x.isNaN = false := by
  unfold ReadsBack stored? at h
  split at h
  · cases h
  · rename_i number
    exact Bool.eq_false_iff.mpr number

theorem ReadsBack.add_zero {x : Float} (h : ReadsBack x) : x + 0 = x := by
  have number := h.isNaN
  apply Number.add_zero
  intro zero
  simp only [ReadsBack, stored?, number, zero, if_true, Bool.false_eq_true, if_false] at h
  exact (Option.some.inj h).symm

/-- A snapshot that reads back as it was stored. -/
structure RiskReadsBack (risk : RiskScores) : Prop where
  combined : ReadsBack risk.combined
  hotspot : ReadsBack risk.hotspot
  urgency : ReadsBack risk.urgency

theorem storedLocation_eq_ok {lon lat : Column} {place place' : Coordinate} :
    storedLocation lon lat place = .ok place' ↔
      stored lon place.lon = .ok place'.lon ∧ stored lat place.lat = .ok place'.lat := by
  simp only [storedLocation, bind_eq_ok, pure, Except.pure, Except.ok.injEq]
  constructor
  · rintro ⟨x, hx, y, hy, rfl⟩
    exact ⟨hx, hy⟩
  · rintro ⟨hx, hy⟩
    exact ⟨_, hx, _, hy, rfl⟩

theorem storedRisk_eq_ok {risk risk' : RiskScores} :
    storedRisk risk = .ok risk' ↔ stored .combinedRisk risk.combined = .ok risk'.combined ∧
      stored .hotspotWeight risk.hotspot = .ok risk'.hotspot ∧
      stored .urgencyWeight risk.urgency = .ok risk'.urgency := by
  simp only [storedRisk, bind_eq_ok, pure, Except.pure, Except.ok.injEq]
  constructor
  · rintro ⟨x, hx, y, hy, z, hz, rfl⟩
    exact ⟨hx, hy, hz⟩
  · rintro ⟨hx, hy, hz⟩
    exact ⟨_, hx, _, hy, _, hz, rfl⟩

theorem riskReadsBack_of_stored {risk risk' : RiskScores} (h : storedRisk risk = .ok risk') :
    RiskReadsBack risk' := by
  obtain ⟨combined, hotspot, urgency⟩ := storedRisk_eq_ok.mp h
  constructor
  · exact readsBack_of_stored combined
  · exact readsBack_of_stored hotspot
  · exact readsBack_of_stored urgency

theorem riskReadsBack_zero : RiskReadsBack .zero := by
  constructor <;> (unfold ReadsBack; decide)

namespace Catalog

/-- Every stop is listed once, and with risks that read back. -/
structure WellKept (catalog : Catalog) : Prop where
  distinct : (catalog.map (·.stop.id)).Nodup
  readsBack : ∀ listing ∈ catalog, ∀ risk, listing.stop.risk = some risk → RiskReadsBack risk

theorem mem_of_find? {catalog : Catalog} {id : StopId} {listing : Listing}
    (h : catalog.find? id = some listing) : listing ∈ catalog ∧ listing.stop.id = id := by
  constructor
  · exact List.mem_of_find?_eq_some h
  · simpa using List.find?_some h

theorem mem_put {catalog : Catalog} {listing other : Listing} (h : other ∈ catalog.put listing) :
    other = listing ∨ other ∈ catalog := by
  unfold put at h
  split at h
  · obtain ⟨old, hold, rfl⟩ := List.mem_map.mp h
    split
    · exact Or.inl rfl
    · exact Or.inr hold
  · rcases List.mem_append.mp h with old | new
    · exact Or.inr old
    · exact Or.inl (List.mem_singleton.mp new)

theorem ids_put (catalog : Catalog) (listing : Listing) :
    (catalog.put listing).map (·.stop.id) =
      if listing.stop.id ∈ catalog.map (·.stop.id) then catalog.map (·.stop.id)
      else catalog.map (·.stop.id) ++ [listing.stop.id] := by
  have listed : (catalog.find? listing.stop.id).isSome = true ↔
      listing.stop.id ∈ catalog.map (·.stop.id) := by
    rw [find?, List.find?_isSome, List.mem_map]
    simp
  by_cases h : listing.stop.id ∈ catalog.map (·.stop.id)
  · rw [put, if_pos (listed.mpr h), if_pos h, List.map_map]
    apply List.map_congr_left
    intro old _
    by_cases same : old.stop.id = listing.stop.id
    · simp [same]
    · simp [same]
  · rw [put, if_neg (listed.not.mpr h), if_neg h, List.map_append]
    rfl

theorem find?_put (catalog : Catalog) (listing : Listing) (id : StopId) :
    (catalog.put listing).find? id =
      if id = listing.stop.id then some listing else catalog.find? id := by
  by_cases listed : (catalog.find? listing.stop.id).isSome = true
  · have unmoved : (fun row : Listing => decide (row.stop.id = id)) ∘
        (fun old => if old.stop.id = listing.stop.id then listing else old) =
          fun row => decide (row.stop.id = id) := by
      funext old
      by_cases same : old.stop.id = listing.stop.id <;> simp [same]
    rw [put, if_pos listed, find?, List.find?_map, unmoved]
    show (catalog.find? id).map _ = _
    split
    · rename_i here
      subst here
      obtain ⟨old, found⟩ := Option.isSome_iff_exists.mp listed
      rw [found, Option.map_some, if_pos (mem_of_find? found).2]
    · rename_i elsewhere
      cases found : catalog.find? id with
      | none => rfl
      | some old =>
        have apart : old.stop.id ≠ listing.stop.id := (mem_of_find? found).2 ▸ elsewhere
        rw [Option.map_some, if_neg apart]
  · rw [put, if_neg listed, find?, List.find?_append]
    show (catalog.find? id).or _ = _
    split
    · rename_i here
      subst here
      simp [Option.not_isSome_iff_eq_none.mp listed]
    · rename_i elsewhere
      simp [Ne.symm elsewhere]

theorem WellKept.put {catalog : Catalog} (h : catalog.WellKept) {listing : Listing}
    (readsBack : ∀ risk, listing.stop.risk = some risk → RiskReadsBack risk) :
    (catalog.put listing).WellKept := by
  constructor
  · rw [ids_put]
    split
    · exact h.distinct
    · rename_i absent
      rw [List.nodup_append]
      simpa using ⟨h.distinct, fun l hl same => absent (List.mem_map.mpr ⟨l, hl, same⟩)⟩
  · intro other hother
    rcases mem_put hother with rfl | old
    · exact readsBack
    · exact h.readsBack other old

def snapshot (catalog : Catalog) (id : StopId) : Option RiskScores :=
  (catalog.find? id).bind (·.stop.risk)

/-- What putting a stop in does: it is listed with the snapshot that was listed before. -/
theorem putStop_eq_ok {catalog catalog' : Catalog} {pool : String} {stop : Stop} :
    catalog.putStop pool stop = .ok catalog' ↔
      ∃ location, storedLocation .stopLon .stopLat stop.location = .ok location ∧
        isBlankId stop.id = false ∧
        catalog.put ⟨pool, { stop with location, risk := catalog.snapshot stop.id }⟩ =
          catalog' := by
  simp only [Catalog.putStop, bind_eq_ok]
  refine exists_congr fun location => and_congr_right fun _ => ?_
  cases isBlankId stop.id <;>
    simp [snapshot, pure, Except.pure, throw, throwThe, MonadExceptOf.throw]

theorem putRisk_eq_ok {catalog catalog' : Catalog} {id : StopId} {risk : RiskScores} :
    catalog.putRisk id risk = .ok catalog' ↔
      ∃ risk' listing, storedRisk risk = .ok risk' ∧ catalog.find? id = some listing ∧
        catalog.put { listing with stop.risk := some risk' } = catalog' := by
  simp only [Catalog.putRisk, bind_eq_ok, exists_and_left]
  refine exists_congr fun risk' => and_congr_right fun _ => ?_
  cases catalog.find? id <;> simp [pure, Except.pure, throw, throwThe, MonadExceptOf.throw]

theorem WellKept.putStop {catalog catalog' : Catalog} (h : catalog.WellKept) {pool : String}
    {stop : Stop} (hput : catalog.putStop pool stop = .ok catalog') : catalog'.WellKept := by
  obtain ⟨location, _, _, rfl⟩ := putStop_eq_ok.mp hput
  apply h.put
  -- The snapshot is the one that was listed under the id.
  intro risk hrisk
  obtain ⟨old, found, kept⟩ := Option.bind_eq_some_iff.mp hrisk
  exact h.readsBack old (mem_of_find? found).1 risk kept

theorem WellKept.putRisk {catalog catalog' : Catalog} (h : catalog.WellKept) {id : StopId}
    {risk : RiskScores} (hput : catalog.putRisk id risk = .ok catalog') : catalog'.WellKept := by
  obtain ⟨risk', listing, hrisk, _, rfl⟩ := putRisk_eq_ok.mp hput
  apply h.put
  intro new same
  obtain rfl := Option.some.inj same
  exact riskReadsBack_of_stored hrisk

theorem WellKept.riskReadsBack_scores {catalog : Catalog} (h : catalog.WellKept) {pool : String}
    {stop : Stop} (hstop : stop ∈ catalog.ofPool pool) : RiskReadsBack stop.scores := by
  obtain ⟨listing, hlisting, rfl⟩ := List.mem_map.mp hstop
  unfold Stop.scores
  cases hrisk : listing.stop.risk with
  | none => exact riskReadsBack_zero
  | some risk => exact h.readsBack listing (List.mem_filter.mp hlisting).1 risk hrisk

theorem WellKept.nodup_ofPool {catalog : Catalog} (h : catalog.WellKept) (pool : String) :
    ((catalog.ofPool pool).map (·.id)).Nodup := by
  rw [ofPool, List.map_map]
  exact h.distinct.sublist (List.filter_sublist.map _)

section Top

/-- The place of a stop among the stops in the order of their risks. -/
def riskPlace (stop : Stop) : Int ×ₗ StopId :=
  toLex (-Number.rank stop.scores.combined, stop.id)

theorem isLE_compareRisk {a b : Stop} :
    (compareRisk a b).isLE = true ↔ riskPlace a ≤ riskPlace b := by
  simp only [compareRisk, Number.compareTotal, riskPlace, Ordering.isLE_iff_eq_lt_or_eq_eq,
    Ordering.then_eq_lt, Ordering.then_eq_eq, compare_lt_iff_lt, compare_eq_iff_eq,
    le_iff_lt_or_eq, Prod.Lex.toLex_lt_toLex, toLex_inj, Prod.mk.injEq, Int.neg_lt_neg_iff, neg_inj,
    @eq_comm _ (Number.rank b.scores.combined)]

def byRisk (catalog : Catalog) (pool : String) : List Stop :=
  (catalog.ofPool pool).mergeSort fun a b => (compareRisk a b).isLE

theorem top_eq_take (catalog : Catalog) (pool : String) (limit : Nat) :
    catalog.top pool limit = (catalog.byRisk pool).take limit := rfl

theorem byRisk_perm (catalog : Catalog) (pool : String) :
    (catalog.byRisk pool).Perm (catalog.ofPool pool) := List.mergeSort_perm _ _

theorem byRisk_ordered (catalog : Catalog) (pool : String) :
    (catalog.byRisk pool).Pairwise fun a b => riskPlace a ≤ riskPlace b := by
  have ordered : (catalog.byRisk pool).Pairwise fun a b => (compareRisk a b).isLE = true := by
    apply List.pairwise_mergeSort
    · intro a b c ab bc
      rw [isLE_compareRisk] at ab bc ⊢
      exact le_trans ab bc
    · intro a b
      rw [Bool.or_eq_true, isLE_compareRisk, isLE_compareRisk]
      exact le_total _ _
  exact ordered.imp fun le => isLE_compareRisk.mp le

theorem byRisk_pairwise (catalog : Catalog) (pool : String) :
    (catalog.byRisk pool).Pairwise fun a b =>
      Number.rank b.scores.combined ≤ Number.rank a.scores.combined := by
  apply (catalog.byRisk_ordered pool).imp
  intro a b le
  rw [riskPlace, riskPlace, Prod.Lex.toLex_le_toLex] at le
  rcases le with less | ⟨same, _⟩
  · exact Int.le_of_lt (Int.neg_lt_neg_iff.mp less)
  · exact Int.le_of_eq (neg_inj.mp same).symm

theorem mem_ofPool_of_mem_top {catalog : Catalog} {pool : String} {limit : Nat} {stop : Stop}
    (h : stop ∈ catalog.top pool limit) : stop ∈ catalog.ofPool pool :=
  (catalog.byRisk_perm pool).mem_iff.mp (List.mem_of_mem_take h)

/-- No stop outside the top has a greater risk than one in it. -/
theorem rank_le_of_not_mem_top {catalog : Catalog} {pool : String} {limit : Nat}
    {inside outside : Stop} (hinside : inside ∈ catalog.top pool limit)
    (hpool : outside ∈ catalog.ofPool pool) (houtside : outside ∉ catalog.top pool limit) :
    Number.rank outside.scores.combined ≤ Number.rank inside.scores.combined := by
  rw [top_eq_take] at hinside houtside
  have ordered := catalog.byRisk_pairwise pool
  have hdrop : outside ∈ (catalog.byRisk pool).drop limit := by
    have listed := (catalog.byRisk_perm pool).mem_iff.mpr hpool
    rw [← List.take_append_drop limit (catalog.byRisk pool), List.mem_append] at listed
    rcases listed with front | back
    · exact absurd front houtside
    · exact back
  rw [← List.take_append_drop limit (catalog.byRisk pool), List.pairwise_append] at ordered
  exact ordered.2.2 inside hinside outside hdrop

theorem WellKept.nodup_byRisk {catalog : Catalog} (h : catalog.WellKept) (pool : String) :
    ((catalog.byRisk pool).map (·.id)).Nodup :=
  ((catalog.byRisk_perm pool).map _).nodup_iff.mpr (h.nodup_ofPool pool)

theorem WellKept.nodup_top {catalog : Catalog} (h : catalog.WellKept) (pool : String)
    (limit : Nat) : ((catalog.top pool limit).map (·.id)).Nodup :=
  (h.nodup_byRisk pool).sublist ((List.take_sublist _ _).map _)

end Top

end Catalog

section History

theorem wellKept_upsertRisk {s : Store} (h : s.catalog.WellKept) (id : StopId)
    (risk : RiskScores) : ((upsertRisk id risk).outcome s).2.catalog.WellKept := by
  rw [outcome_upsertRisk]
  split
  · rename_i hput
    exact h.putRisk hput
  · exact h

theorem Operation.wellKept_after (op : Operation) {s : Store} (h : s.catalog.WellKept) :
    (op.after s).catalog.WellKept := by
  by_cases catalog : op.part = .catalog
  · cases op with
    | upsertRisk id risk => exact wellKept_upsertRisk h id risk
    | upsertStop pool stop =>
      rw [after, outcome_upsertStop]
      split
      · rename_i hput
        have kept := h.putStop hput
        split
        · exact wellKept_upsertRisk kept stop.id _
        · exact kept
      · exact h
    | _ => cases catalog
  · rw [(op.differsIn_after s).catalog_eq catalog]
    exact h

end History

theorem Reachable.wellKept {s : Store} (h : Reachable s) : s.catalog.WellKept := by
  induction h with
  | empty =>
    constructor
    · exact List.nodup_nil
    · intro listing hlisting
      cases hlisting
  | next op _ ih => exact op.wellKept_after ih

end ServiceRoute.Store
