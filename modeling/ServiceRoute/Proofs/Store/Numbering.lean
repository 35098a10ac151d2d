import ServiceRoute.Proofs.Store.StoredValue
import ServiceRoute.Store.RunBook

/-!
# The numbering of runs

Every run is entered under the id after the last one that was given out. Rewriting
runs leaves their ids alone, so no run ever has a later id.
-/

namespace ServiceRoute.Store

/-- No run has an id beyond the last one that was given out. -/
def RunBook.WellNumbered (book : RunBook) : Prop :=
  ∀ row ∈ book.rows, row.id ≤ book.lastId

/-- A rewriting of rows that keeps their ids. -/
def RunBook.Rewrites (book book' : RunBook) : Prop :=
  ∃ f : RunRow → RunRow,
    (∀ row, (f row).id = row.id) ∧ book' = { book with rows := book.rows.map f }

namespace RunBook

theorem rewrites_refl (book : RunBook) : book.Rewrites book :=
  ⟨id, fun _ => rfl, by simp⟩

theorem Rewrites.trans {book book' book'' : RunBook} (h : book.Rewrites book')
    (h' : book'.Rewrites book'') : book.Rewrites book'' := by
  obtain ⟨f, hf, rfl⟩ := h
  obtain ⟨g, hg, rfl⟩ := h'
  exact ⟨g ∘ f, fun row => (hg (f row)).trans (hf row), by simp⟩

theorem update_rewrites (book : RunBook) (id : Int) {f : RunRow → RunRow}
    (h : ∀ row, (f row).id = row.id) : book.Rewrites (book.update id f) := by
  refine ⟨fun row => if row.id = id then f row else row, fun row => ?_, rfl⟩
  dsimp only
  split
  · exact h row
  · rfl

theorem WellNumbered.of_rewrites {book book' : RunBook} (h : book.WellNumbered)
    (hrewrites : book.Rewrites book') : book'.WellNumbered := by
  obtain ⟨f, hf, rfl⟩ := hrewrites
  intro row hrow
  obtain ⟨old, hold, rfl⟩ := List.mem_map.mp hrow
  rw [hf]
  exact h old hold

theorem insert_eq_ok {book book' : RunBook} {header : RunHeader} {total : Cost}
    {entries : List RouteEntry} {id : Int}
    (h : book.insert header total entries = .ok (id, book')) :
    ∃ total' entries', storedCost .runDistance .runDuration total = .ok total' ∧
      storedEntries [] entries = .ok entries' ∧ id = book.lastId + 1 ∧
      book' = ⟨book.rows ++ [.ofRoute id header total' entries'], id⟩ := by
  unfold insert at h
  obtain ⟨total', htotal, h⟩ := bind_eq_ok.mp h
  obtain ⟨entries', hentries, h⟩ := bind_eq_ok.mp h
  cases h
  exact ⟨total', entries', htotal, hentries, rfl, rfl⟩

theorem insert_distinct {book book' : RunBook} {header : RunHeader} {total : Cost}
    {entries : List RouteEntry} {id : Int} (numbered : book.WellNumbered)
    (distinct : (book.rows.map (·.id)).Nodup)
    (hinsert : book.insert header total entries = .ok (id, book')) :
    (book'.rows.map (·.id)).Nodup := by
  obtain ⟨total', entries', _, _, rfl, rfl⟩ := insert_eq_ok hinsert
  have fresh : ∀ row ∈ book.rows, row.id ≠ book.lastId + 1 := by
    intro row hrow
    have hle := numbered row hrow
    omega
  simpa [RunRow.ofRoute, List.nodup_append, distinct] using fresh

theorem WellNumbered.insert {book book' : RunBook} {header : RunHeader} {total : Cost}
    {entries : List RouteEntry} {id : Int} (h : book.WellNumbered)
    (hinsert : book.insert header total entries = .ok (id, book')) : book'.WellNumbered := by
  obtain ⟨total', entries', _, _, rfl, rfl⟩ := insert_eq_ok hinsert
  intro row hrow
  rcases List.mem_append.mp hrow with hold | hnew
  · have hle := h row hold
    dsimp only
    omega
  · obtain rfl := List.mem_singleton.mp hnew
    exact Int.le_refl _

end RunBook

end ServiceRoute.Store
