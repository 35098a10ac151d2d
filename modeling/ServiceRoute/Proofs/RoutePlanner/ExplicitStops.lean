import ServiceRoute.Proofs.RoutePlanner.Resolution

/-!
# What explicit requests resolve to

The requested ids count once each, in the order of their first requests. They resolve to their own
rows in that order, or to the list of those that have no row, or, when all of them have one, to
their number if that is less than two. What else the catalog answers, and in which order it
answers, makes no difference.
-/

namespace ServiceRoute.RoutePlanner

open Planning Selection

variable {σ τ : Type}

/-- The requested ids, each once, in the order of their first requests. -/
structure FirstRequests (ids wanted : List StopId) : Prop where
  mem_iff : ∀ id, id ∈ wanted ↔ id ∈ ids
  ordered : wanted.Pairwise fun a b => ids.idxOf a < ids.idxOf b

theorem firstRequests_distinct (ids : List StopId) : FirstRequests ids (distinct ids) := by
  refine ⟨fun id => mem_distinct, ?_⟩
  induction ids with
  | nil => exact List.Pairwise.nil
  | cons id ids ih =>
    rw [distinct_cons, List.pairwise_cons]
    constructor
    · intro other hother
      have apart : other ≠ id := by simpa using (List.mem_filter.mp hother).2
      rw [List.idxOf_cons_self, List.idxOf_cons_ne _ apart.symm]
      exact Nat.succ_pos _
    · apply (ih.filter _).imp_of_mem
      intro a b ha hb before
      have apart_a : a ≠ id := by simpa using (List.mem_filter.mp ha).2
      have apart_b : b ≠ id := by simpa using (List.mem_filter.mp hb).2
      rw [List.idxOf_cons_ne _ apart_a.symm, List.idxOf_cons_ne _ apart_b.symm]
      exact Nat.succ_lt_succ before

theorem FirstRequests.unique {ids wanted wanted' : List StopId} (h : FirstRequests ids wanted)
    (h' : FirstRequests ids wanted') : wanted = wanted' := by
  have irreflexive : Std.Irrefl fun a b => ids.idxOf a < ids.idxOf b :=
    ⟨fun _ => Nat.lt_irrefl _⟩
  have antisymmetric : Std.Antisymm fun a b => ids.idxOf a < ids.idxOf b :=
    ⟨fun _ _ before behind => absurd behind (Nat.lt_asymm before)⟩
  apply h.ordered.eq_of_mem_iff h'.ordered
  intro id
  rw [h.mem_iff, h'.mem_iff]

/-- What the wanted ids resolve to over these rows. -/
inductive Resolves (pool : String) (wanted : List StopId) (rows : List Stop) :
    Except PlanError (List Stop) → Prop
  /-- Every wanted id has its own row. -/
  | found {stops : List Stop} (named : stops.map (·.id) = wanted) (own : ∀ s ∈ stops, s ∈ rows)
    (enough : 2 ≤ wanted.length) : Resolves pool wanted rows (.ok stops)
  /-- Some have no row. They are listed, whatever the others are. -/
  | unknown {missing : List StopId} (some_missing : missing ≠ [])
    (exactly : missing = wanted.filter (· ∉ rows.map (·.id))) :
    Resolves pool wanted rows (.error (.invalidRequest (.unknownStops pool missing)))
  /-- All have rows, but they are too few to plan a route. -/
  | tooFew (known : ∀ id ∈ wanted, id ∈ rows.map (·.id)) (few : wanted.length < 2) :
    Resolves pool wanted rows (.error (.insufficientCandidates wanted.length))

section Resolution

variable {pool : String} {wanted : List StopId} {rows : List Stop}

/-- The answer once the rows are known. -/
def resolution (pool : String) (wanted : List StopId) (rows : List Stop) :
    Except PlanError (List Stop) :=
  let (found, unknown) := matchRows rows wanted
  if unknown ≠ [] then .error (.invalidRequest (.unknownStops pool unknown))
  else if found.length < 2 then .error (.insufficientCandidates found.length)
  else .ok found

theorem resolveStops_eq (catalog : RiskCatalog σ) (pool : String) (ids : List StopId) :
    resolveStops catalog pool ids =
      catalog.stopsById pool (distinct ids) >>= fun rows =>
        liftM (resolution pool (distinct ids) rows) := by
  unfold resolveStops
  refine bind_congr fun rows => ?_
  unfold resolution
  dsimp only
  split_ifs <;> rfl

/-- The ids that matching leaves over are those that no row has. -/
theorem unknown_matchRows (distinct : (rows.map (·.id)).Nodup) (once : wanted.Nodup) :
    (matchRows rows wanted).2 = wanted.filter (· ∉ rows.map (·.id)) := by
  rw [matchRows_eq distinct once]
  apply List.filter_congr
  intro id _
  rw [Bool.eq_iff_iff, Option.isNone_iff_eq_none, List.find?_eq_none]
  simp

theorem resolves_resolution (distinct : (rows.map (·.id)).Nodup) (once : wanted.Nodup) :
    Resolves pool wanted rows (resolution pool wanted rows) := by
  have left := unknown_matchRows distinct once
  unfold resolution
  dsimp only
  split_ifs with some_missing few
  · exact .unknown some_missing left
  · rw [not_not] at some_missing
    have count := congrArg List.length (ids_matchRows some_missing)
    rw [List.length_map] at count
    rw [count] at few ⊢
    apply Resolves.tooFew _ few
    intro id hid
    by_contra unlisted
    have listed : id ∈ (matchRows rows wanted).2 := by
      rw [left]
      exact List.mem_filter.mpr ⟨hid, by simpa using unlisted⟩
    rw [some_missing] at listed
    cases listed
  · rw [not_not] at some_missing
    have named := ids_matchRows some_missing
    have count := congrArg List.length named
    rw [List.length_map] at count
    exact .found named (fun s => mem_of_mem_matchRows) (by omega)

theorem eq_of_map_id_eq {stops stops' : List Stop} (distinct : (rows.map (·.id)).Nodup)
    (own : ∀ s ∈ stops, s ∈ rows) (own' : ∀ s ∈ stops', s ∈ rows)
    (same : stops.map (·.id) = stops'.map (·.id)) : stops = stops' := by
  induction stops generalizing stops' with
  | nil => exact (List.map_eq_nil_iff.mp same.symm).symm
  | cons s stops ih =>
    cases stops' with
    | nil => cases same
    | cons s' stops' =>
      obtain ⟨first, others⟩ := List.cons.inj same
      obtain rfl : s = s' :=
        List.inj_on_of_nodup_map distinct (own s (by simp)) (own' s' (by simp)) first
      rw [ih (fun t ht => own t (by simp [ht])) (fun t ht => own' t (by simp [ht])) others]

theorem known_of_named {stops : List Stop} (named : stops.map (·.id) = wanted)
    (own : ∀ s ∈ stops, s ∈ rows) : ∀ id ∈ wanted, id ∈ rows.map (·.id) := by
  subst named
  intro id hid
  obtain ⟨s, hs, rfl⟩ := List.mem_map.mp hid
  exact List.mem_map_of_mem (own s hs)

theorem unlisted_eq_nil (known : ∀ id ∈ wanted, id ∈ rows.map (·.id)) :
    wanted.filter (· ∉ rows.map (·.id)) = [] := by
  rw [List.filter_eq_nil_iff]
  intro id hid
  simpa using known id hid

theorem Resolves.unique {answer answer' : Except PlanError (List Stop)}
    (distinct : (rows.map (·.id)).Nodup) (h : Resolves pool wanted rows answer)
    (h' : Resolves pool wanted rows answer') : answer = answer' := by
  cases h with
  | found named own enough =>
    cases h' with
    | found named' own' =>
      rw [eq_of_map_id_eq distinct own own' (named.trans named'.symm)]
    | unknown some_missing exactly =>
      exact absurd (exactly.trans (unlisted_eq_nil (known_of_named named own))) some_missing
    | tooFew known few => omega
  | unknown some_missing exactly =>
    cases h' with
    | found named own =>
      exact absurd (exactly.trans (unlisted_eq_nil (known_of_named named own))) some_missing
    | unknown _ exactly' => rw [exactly, exactly']
    | tooFew known => exact absurd (exactly.trans (unlisted_eq_nil known)) some_missing
  | tooFew known few =>
    cases h' with
    | found _ _ enough => omega
    | unknown some_missing exactly =>
      exact absurd (exactly.trans (unlisted_eq_nil known)) some_missing
    | tooFew => rfl

end Resolution

/-- Requested ids resolve to their own rows, in the order of their first requests, or to the ids
that no row has, or, when all have rows, to their number if they are fewer than two. The catalog
may answer its rows in any order, and others with them. -/
theorem resolveStops_exact {catalog : RiskCatalog σ} {pool : String} {ids : List StopId}
    {world world' : σ} {rows : List Stop}
    (answered : (catalog.stopsById pool (distinct ids)).outcome world = (.ok rows, world'))
    (distinct_rows : (rows.map (·.id)).Nodup) :
    (∀ wanted, FirstRequests ids wanted ↔ wanted = distinct ids) ∧
      ∃ answer, (resolveStops catalog pool ids).outcome world = (answer, world') ∧
        (∀ other, Resolves pool (distinct ids) rows other ↔ other = answer) ∧
        ∀ {τ : Type} (catalog' : RiskCatalog τ) (rows' : List Stop) (other other' : τ),
          rows.Perm rows' →
          (catalog'.stopsById pool (distinct ids)).outcome other = (.ok rows', other') →
          (resolveStops catalog' pool ids).outcome other = (answer, other') := by
  have requests := firstRequests_distinct ids
  have once := nodup_distinct ids
  have resolves : Resolves pool (distinct ids) rows (resolution pool (distinct ids) rows) :=
    resolves_resolution distinct_rows once
  refine ⟨?_, resolution pool (distinct ids) rows, ?_, ?_, ?_⟩
  · intro wanted
    constructor
    · exact fun h => h.unique requests
    · rintro rfl
      exact requests
  · rw [resolveStops_eq, outcome_bind_of_ok answered, outcome_liftM]
  · intro other
    constructor
    · exact fun h => h.unique distinct_rows resolves
    · rintro rfl
      exact resolves
  · intro τ catalog' rows' other other' perm answered'
    rw [resolveStops_eq, outcome_bind_of_ok answered', outcome_liftM, resolution,
      ← matchRows_eq_of_sameRows ⟨distinct_rows, perm⟩ once]
    rfl

/-! Requests with repetitions, in a pool with one more stop. -/

namespace Requested

def row (id : StopId) : Stop :=
  ⟨id, ⟨0, 0⟩, none, none, none⟩

def rows : List Stop :=
  [row "D", row "B", row "A"]

def catalog : RiskCatalog Unit where
  topStops _ _ := pure []
  stopsById _ _ := pure rows

end Requested

theorem resolveStops_exact_requested :
    (resolveStops Requested.catalog "north" ["A", "B", "A"]).outcome () =
        (.ok [Requested.row "A", Requested.row "B"], ()) ∧
      (resolveStops Requested.catalog "north" ["C", "A", "C", "E"]).outcome () =
        (.error (.invalidRequest (.unknownStops "north" ["C", "E"])), ()) ∧
      (resolveStops Requested.catalog "north" ["B", "B"]).outcome () =
        (.error (.insufficientCandidates 1), ()) := by
  have answered : ∀ ids, (Requested.catalog.stopsById "north" (distinct ids)).outcome () =
      (.ok Requested.rows, ()) := fun _ => rfl
  have once : (Requested.rows.map (·.id)).Nodup := by decide
  have resolved : ∀ {ids : List StopId} {answer : Except PlanError (List Stop)},
      Resolves "north" (distinct ids) Requested.rows answer →
      (resolveStops Requested.catalog "north" ids).outcome () = (answer, ()) := by
    intro ids answer resolves
    obtain ⟨-, other, outcome, exactly, -⟩ := resolveStops_exact (answered ids) once
    rw [outcome, (exactly answer).mp resolves]
  refine ⟨resolved ?_, resolved ?_, resolved ?_⟩
  · exact .found (by decide) (by decide) (by decide)
  · exact .unknown (by decide) (by decide)
  · exact .tooFew (by decide) (by decide)

end ServiceRoute.RoutePlanner
