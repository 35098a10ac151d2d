import ServiceRoute.Store.Value

/-!
# Stored values

A number that is stored comes back numerically equal, though a negative zero loses
its sign. What is no number cannot be stored.
-/

namespace ServiceRoute

open Float.Model

namespace Number

theorem compare_self (u : UnpackedFloat) (h : u.isNaN = false) : u.compare u = some .eq := by
  cases u with
  | infinity s => cases s <;> rfl
  | notANumber => cases h
  | zero s => cases s <;> rfl
  | finite s m e hm =>
    have same : (compare e e).then (compare m m) = .eq := by simp
    cases s with
    | negative => exact congrArg (fun o => some o.swap) same
    | positive => exact congrArg some same

theorem beq_self {x : Float} (h : x.isNaN = false) : (x == x) = true := by
  have hself := compare_self x.toModel.unpack h
  show (UnpackedFloat.compare _ _ == some Ordering.eq) = true
  rw [hself]
  rfl

end Number

theorem bind_eq_ok {ε α β : Type} {x : Except ε α} {f : α → Except ε β} {b : β} :
    x >>= f = .ok b ↔ ∃ a, x = .ok a ∧ f a = .ok b := by
  cases x <;> simp [bind, Except.bind]

theorem exists_bind_eq_ok {ε α β : Type} {x : Except ε α} {f : α → Except ε β} :
    (∃ b, x >>= f = .ok b) ↔ ∃ a, x = .ok a ∧ ∃ b, f a = .ok b := by
  simp only [bind_eq_ok]
  exact ⟨fun ⟨b, a, hx, hf⟩ => ⟨a, hx, b, hf⟩, fun ⟨a, hx, b, hf⟩ => ⟨b, a, hx, hf⟩⟩

structure Cost.IsNumber (c : Cost) : Prop where
  distance : c.distance.isNaN = false
  duration : c.duration.isNaN = false

/-- The costs are equal as numbers; a zero may differ in its sign. -/
structure Cost.Same (a b : Cost) : Prop where
  distance : (a.distance == b.distance) = true
  duration : (a.duration == b.duration) = true

namespace Store

theorem stored?_beq {x y : Float} (h : stored? x = some y) : (x == y) = true := by
  unfold stored? at h
  split at h
  · cases h
  · rename_i hnan
    split at h
    · rename_i hzero
      obtain rfl := Option.some.inj h
      exact hzero
    · obtain rfl := Option.some.inj h
      exact Number.beq_self (Bool.eq_false_iff.mpr hnan)

theorem stored_eq_ok {column : Column} {x y : Float} :
    stored column x = .ok y ↔ stored? x = some y := by
  unfold stored
  cases stored? x <;> simp

theorem exists_stored {column : Column} {x : Float} :
    (∃ y, stored column x = .ok y) ↔ x.isNaN = false := by
  simp only [stored_eq_ok]
  unfold stored?
  constructor
  · rintro ⟨y, h⟩
    split at h
    · cases h
    · rename_i number
      exact Bool.eq_false_iff.mpr number
  · intro number
    rw [if_neg (Bool.eq_false_iff.mp number)]
    split
    · exact ⟨0, rfl⟩
    · exact ⟨x, rfl⟩

theorem storedCost_eq_ok {distance duration : Column} {c c' : Cost} :
    storedCost distance duration c = .ok c' ↔
      stored distance c.distance = .ok c'.distance ∧
        stored duration c.duration = .ok c'.duration := by
  simp only [storedCost, bind_eq_ok, pure, Except.pure, Except.ok.injEq]
  constructor
  · rintro ⟨x, hx, y, hy, rfl⟩
    exact ⟨hx, hy⟩
  · rintro ⟨hx, hy⟩
    exact ⟨_, hx, _, hy, rfl⟩

theorem storedCost_same {distance duration : Column} {c c' : Cost}
    (h : storedCost distance duration c = .ok c') : c.Same c' := by
  obtain ⟨hdistance, hduration⟩ := storedCost_eq_ok.mp h
  exact ⟨stored?_beq (stored_eq_ok.mp hdistance), stored?_beq (stored_eq_ok.mp hduration)⟩

theorem exists_storedCost {distance duration : Column} {c : Cost} :
    (∃ c', storedCost distance duration c = .ok c') ↔ c.IsNumber := by
  constructor
  · rintro ⟨c', h⟩
    obtain ⟨hdistance, hduration⟩ := storedCost_eq_ok.mp h
    exact ⟨exists_stored.mp ⟨_, hdistance⟩, exists_stored.mp ⟨_, hduration⟩⟩
  · intro h
    obtain ⟨x, hx⟩ := exists_stored.mpr h.distance
    obtain ⟨y, hy⟩ := exists_stored.mpr h.duration
    exact ⟨⟨x, y⟩, storedCost_eq_ok.mpr ⟨hx, hy⟩⟩

end Store

end ServiceRoute
