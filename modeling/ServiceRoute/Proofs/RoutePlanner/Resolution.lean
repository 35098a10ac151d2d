import ServiceRoute.Proofs.Selection.RowOrder
import ServiceRoute.RoutePlanner

/-!
# Explicitly requested stops

When every wanted id finds a row, the rows found are those of the wanted ids, in
their order, whatever else the catalog answered. Matching takes rows out and moves
others into their places, and yet every id finds the row that a search for it finds.
-/

namespace ServiceRoute.RoutePlanner

open Planning Selection

variable {σ τ : Type}

theorem ids_matchRows {rows : List Stop} {ids : List StopId} (h : (matchRows rows ids).2 = []) :
    (matchRows rows ids).1.map (·.id) = ids := by
  induction ids generalizing rows with
  | nil => rfl
  | cons id ids ih =>
    unfold matchRows at h ⊢
    cases hfound : rows.findIdx? (·.id = id) with
    | none => simp [hfound] at h
    | some position =>
      obtain ⟨hlt, hid, _⟩ := List.findIdx?_eq_some_iff_getElem.mp hfound
      simp only [hfound] at h ⊢
      have row : rows[position]?.toList = [rows[position]] := by
        rw [List.getElem?_eq_getElem hlt]
        rfl
      rw [row, List.singleton_append, List.map_cons, ih h]
      exact congrArg (· :: ids) (by simpa using hid)

section Matching

/-- The other elements stay, if not all in their places. -/
theorem perm_swapRemove {α : Type} {xs : List α} {position : Nat} (h : position < xs.length) :
    xs.Perm (xs[position] :: swapRemove xs position) := by
  obtain rfl | ⟨front, last, rfl⟩ := xs.eq_nil_or_concat'
  · cases h
  · have taken : swapRemove (front ++ [last]) position =
        ((front ++ [last]).set position last).dropLast := by
      rw [swapRemove, List.getLast?_concat]
    rw [taken]
    by_cases inside : position < front.length
    · rw [List.getElem_append_left inside, List.set_append_left _ _ inside, List.dropLast_concat]
      calc front ++ [last]
          _ |>.Perm (last :: front) := List.perm_append_singleton last front
          _ |>.Perm (last :: front[position] :: front.eraseIdx position) :=
            (List.getElem_cons_eraseIdx_perm inside).symm.cons last
          _ |>.Perm (front[position] :: last :: front.eraseIdx position) := .swap ..
          _ |>.Perm (front[position] :: front.set position last) :=
            (List.set_perm_cons_eraseIdx inside last).symm.cons _
    · obtain rfl : position = front.length := by
        rw [List.length_append, List.length_singleton] at h
        omega
      simp

theorem mem_of_mem_matchRows {rows : List Stop} {ids : List StopId} {s : Stop}
    (h : s ∈ (matchRows rows ids).1) : s ∈ rows := by
  induction ids generalizing rows with
  | nil => simp [matchRows] at h
  | cons id ids ih =>
    unfold matchRows at h
    cases hfound : rows.findIdx? (·.id = id) with
    | none =>
      simp only [hfound] at h
      exact ih h
    | some position =>
      obtain ⟨hlt, _⟩ := List.findIdx?_eq_some_iff_getElem.mp hfound
      simp only [hfound, List.getElem?_eq_getElem hlt, Option.toList_some,
        List.singleton_append, List.mem_cons] at h
      rw [(perm_swapRemove hlt).mem_iff, List.mem_cons]
      exact h.imp_right ih

/-- Every id is matched with the row that a search for it finds. -/
theorem matchRows_eq {rows : List Stop} (distinct : (rows.map (·.id)).Nodup) {ids : List StopId}
    (wanted : ids.Nodup) :
    matchRows rows ids =
      (ids.filterMap fun id => rows.find? (·.id = id),
        ids.filter fun id => (rows.find? (·.id = id)).isNone) := by
  induction ids generalizing rows with
  | nil => rfl
  | cons id ids ih =>
    obtain ⟨fresh, others⟩ := List.nodup_cons.mp wanted
    unfold matchRows
    cases hfound : rows.findIdx? (·.id = id) with
    | none =>
      have unknown : rows.find? (·.id = id) = none := by
        rw [List.findIdx?_eq_none_iff] at hfound
        exact List.find?_eq_none.mpr fun row hrow => by simpa using hfound row hrow
      simp [ih distinct others, unknown]
    | some position =>
      obtain ⟨hlt, hid, _⟩ := List.findIdx?_eq_some_iff_getElem.mp hfound
      have same : rows[position].id = id := by simpa using hid
      have perm := perm_swapRemove hlt
      have found : rows.find? (·.id = id) = some rows[position] :=
        (find?_eq_some_iff_of_nodup distinct).mpr ⟨List.getElem_mem hlt, same⟩
      -- The row that was taken out is the row of no other id.
      have rest : ∀ other ∈ ids, (swapRemove rows position).find? (·.id = other) =
          rows.find? (·.id = other) := by
        intro other hother
        have apart : rows[position].id ≠ other := by
          rintro rfl
          exact fresh (same ▸ hother)
        rw [find?_perm distinct perm, List.find?_cons_of_neg (by simpa using apart)]
      have distinct' : ((swapRemove rows position).map (·.id)).Nodup :=
        ((perm.map _).nodup_iff.mp distinct).of_cons
      have later := ih distinct' others
      rw [List.filterMap_congr rest,
        List.filter_congr fun other hother => congrArg Option.isNone (rest other hother)] at later
      simp [later, found, List.getElem?_eq_getElem hlt]

theorem matchRows_eq_of_sameRows {rows rows' : List Stop} (h : SameRows rows rows')
    {ids : List StopId} (wanted : ids.Nodup) : matchRows rows ids = matchRows rows' ids := by
  have distinct' := (h.perm.map _).nodup_iff.mp h.distinct
  rw [matchRows_eq h.distinct wanted, matchRows_eq distinct' wanted]
  simp only [find?_perm h.distinct h.perm]

end Matching

theorem resolveStops_ensures (catalog : RiskCatalog σ) (pool : String) (ids : List StopId) :
    Ensures (fun found => found.map (·.id) = distinct ids) (resolveStops catalog pool ids) := by
  unfold resolveStops
  refine Ensures.of_next fun rows => ?_
  intro world found world' run
  dsimp only at run
  split at run
  · cases run
  · rename_i hunknown
    split at run
    · cases run
    · cases run
      exact ids_matchRows (Decidable.not_not.mp hunknown)

theorem resolveStops_rows {catalog : RiskCatalog σ} {pool : String} {ids : List StopId}
    {world world' : σ} {found : List Stop}
    (run : (resolveStops catalog pool ids).outcome world = (.ok found, world')) :
    ∃ rows, (catalog.stopsById pool (distinct ids)).outcome world = (.ok rows, world') ∧
      ∀ s ∈ found, s ∈ rows := by
  unfold resolveStops at run
  obtain ⟨rows, left, answered, matched⟩ := outcome_bind_eq_ok run
  dsimp only at matched
  split at matched
  · cases matched
  · split at matched
    · cases matched
    · cases matched
      exact ⟨rows, answered, fun s => mem_of_mem_matchRows⟩

theorem resolveStops_inStep_of_sameRows {R : σ → τ → Prop} {catalog : RiskCatalog σ}
    {catalog' : RiskCatalog τ} {pool : String} {ids : List StopId}
    (found : InStepUpTo SameRows R (catalog.stopsById pool (distinct ids))
      (catalog'.stopsById pool (distinct ids))) :
    InStep R (resolveStops catalog pool ids) (resolveStops catalog' pool ids) := by
  unfold resolveStops
  refine found.bind fun rows rows' founds => ?_
  rw [matchRows_eq_of_sameRows founds (nodup_distinct ids)]
  dsimp only
  split_ifs
  · exact inStep_throw _
  · exact inStep_throw _
  · exact inStep_pure _

end ServiceRoute.RoutePlanner
