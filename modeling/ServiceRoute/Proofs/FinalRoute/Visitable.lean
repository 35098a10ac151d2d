import ServiceRoute.Proofs.FinalRoute.Entries
import ServiceRoute.Proofs.LegCache.Lookup

/-!
# Visitable trips

Only a trip of catalog stops, none of them twice, has a final route. The depot and
the stops of such a trip are apart: a leg cache does not mistake one for another.
-/

namespace ServiceRoute

/-- Catalog stops only, and none twice. -/
structure Visitable (stops : List Waypoint) : Prop where
  catalogued : ∀ w ∈ stops, ∃ id, w.kind = .stop id
  distinct : (stops.map (·.kind)).Nodup

theorem Visitable.perm {stops stops' : List Waypoint} (h : Visitable stops)
    (hperm : stops.Perm stops') : Visitable stops' :=
  ⟨fun w hw => h.catalogued w (hperm.mem_iff.mpr hw),
    (hperm.map Waypoint.kind).nodup_iff.mp h.distinct⟩

theorem FinalRoute.Covers.visitable {route : FinalRoute} {stops : List Waypoint}
    (h : route.Covers stops) : Visitable stops := by
  refine ⟨fun w hw => ?_, ?_⟩
  · have hkind : w.kind ∈ stops.map (·.kind) := List.mem_map.mpr ⟨w, hw, rfl⟩
    rw [h.kinds] at hkind
    obtain ⟨e, _, he⟩ := List.mem_map.mp hkind
    exact ⟨e.stop, he.symm⟩
  · rw [h.kinds, map_kind_entries]
    exact h.distinct.map fun a b hab => WaypointKind.stop.inj hab

theorem Visitable.apart {stops : List Waypoint} (h : Visitable stops) (depot : Coordinate) :
    LegCache.Apart fun w => w = .depot depot ∨ w ∈ stops := by
  have key_of_mem : ∀ w ∈ stops, ∃ id, w.kind = .stop id ∧ WaypointKey.ofWaypoint w = .stop id := by
    intro w hw
    obtain ⟨id, hid⟩ := h.catalogued w hw
    exact ⟨id, hid, by simp [WaypointKey.ofWaypoint, hid]⟩
  have key_of_depot : WaypointKey.ofWaypoint (.depot depot) = .depot := rfl
  rintro a b (rfl | ha) (rfl | hb) hkey
  · rfl
  · obtain ⟨id, _, hb⟩ := key_of_mem b hb
    rw [key_of_depot, hb] at hkey
    cases hkey
  · obtain ⟨id, _, ha⟩ := key_of_mem a ha
    rw [key_of_depot, ha] at hkey
    cases hkey
  · obtain ⟨id, hida, hkeya⟩ := key_of_mem a ha
    obtain ⟨id', hidb, hkeyb⟩ := key_of_mem b hb
    rw [hkeya, hkeyb] at hkey
    obtain rfl : id = id' := WaypointKey.stop.inj hkey
    exact List.inj_on_of_nodup_map h.distinct ha hb (hida.trans hidb.symm)

end ServiceRoute
