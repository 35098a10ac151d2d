import ServiceRoute.Proofs.Number.Comparison

/-!
# Rounding

A result is computed exactly and then rounded to the 53 binary digits of a double. Rounding cuts
the digits that do not fit and may add one to the last that does. So it never takes a result below
a double that was not above it.
-/

namespace ServiceRoute.Number

open Float.Model Float.Model.UnpackedFloat

/-- The mantissa is as wide as its exponent allows. The exponent may be too large for a double. -/
structure Fits (m : Nat) (e : Int) : Prop where
  least : -1074 ≤ e
  narrow : m < 2 ^ 53
  wide : -1074 < e → 2 ^ 52 ≤ m

def encoded (m : Nat) (e : Int) : Nat :=
  (e + 1074).toNat * 2 ^ 52 + m

/-- How often the least positive double goes into a positive number. -/
def units (m : Nat) (e : Int) : Nat :=
  m * 2 ^ (e + 1074).toNat

theorem units_shiftLeft {m k : Nat} {e : Int} (least : -1074 ≤ e) :
    units (m <<< k) e = units m (e + k) := by
  have sum : (e + k + 1074).toNat = k + (e + 1074).toNat := by omega
  rw [units, units, Nat.shiftLeft_eq, sum, Nat.pow_add, Nat.mul_assoc]

/-- Numbers that are less than one last digit apart have their bits in the same order. -/
theorem encoded_le_encoded {m m' : Nat} {e e' : Int} (h : Fits m e) (h' : Fits m' e')
    (below : units m e < units (m' + 1) e') : encoded m e ≤ encoded m' e' := by
  have least := h.least
  have least' := h'.least
  have narrow := h.narrow
  have narrow' := h'.narrow
  unfold units at below
  unfold encoded
  rcases lt_trichotomy e e' with less | rfl | greater
  · have wide' := h'.wide (by omega)
    have step : (e + 1074).toNat + 1 ≤ (e' + 1074).toNat := by omega
    omega
  · have mantissas := Nat.lt_of_mul_lt_mul_right below
    omega
  · have wide := h.wide (by omega)
    have step : (e + 1074).toNat = (e' + 1074).toNat + ((e - e').toNat - 1) + 1 := by omega
    have grown : 2 ^ (e' + 1074).toNat * 2 ≤ 2 ^ (e + 1074).toNat := by
      rw [step, Nat.pow_succ, Nat.pow_add]
      exact Nat.mul_le_mul_right 2 (Nat.le_mul_of_pos_right _ (Nat.two_pow_pos _))
    have above : (m' + 1) * 2 ^ (e' + 1074).toNat ≤ m * 2 ^ (e + 1074).toNat := by
      calc (m' + 1) * 2 ^ (e' + 1074).toNat
          ≤ 2 ^ 53 * 2 ^ (e' + 1074).toNat := Nat.mul_le_mul_right _ narrow'
        _ = 2 ^ 52 * (2 ^ (e' + 1074).toNat * 2) := by ring
        _ ≤ m * 2 ^ (e + 1074).toNat := Nat.mul_le_mul wide grown
    exact absurd below (Nat.not_lt.mpr above)

section Shifting

theorem log2_shiftLeft {m : Nat} (pos : 0 < m) (k : Nat) : (m <<< k).log2 = m.log2 + k := by
  have lower := Nat.log2_self_le pos.ne'
  have upper := Nat.lt_log2_self (n := m)
  have widened : m * 2 ^ k ≠ 0 := (Nat.mul_pos pos (Nat.two_pow_pos k)).ne'
  rw [Nat.shiftLeft_eq, Nat.log2_eq_iff widened]
  constructor
  · rw [Nat.pow_add]
    exact Nat.mul_le_mul_right _ lower
  · rw [Nat.add_right_comm, Nat.pow_add]
    exact Nat.mul_lt_mul_of_pos_right upper (Nat.two_pow_pos k)

theorem mantissa_shiftRight (em : ExtendedMantissa) (n : Nat) :
    (em >>> n).mantissa = em.mantissa / 2 ^ n := by
  show (Nat.repeat ExtendedMantissa.shiftRightOne n em).mantissa = _
  induction n with
  | zero => simp [Nat.repeat]
  | succ n ih =>
    rw [Nat.repeat, ExtendedMantissa.shiftRightOne, ih, Nat.div_div_eq_div_mul, Nat.pow_succ]

theorem roundedMantissa_bounds (em : ExtendedMantissa) :
    em.mantissa ≤ em.roundedMantissa ∧ em.roundedMantissa ≤ em.mantissa + 1 := by
  obtain ⟨m, roundBit, stickyBit⟩ := em
  cases roundBit <;> cases stickyBit <;>
    simp [ExtendedMantissa.roundedMantissa, ExtendedMantissa.accuracy,
      Accuracy.roundToNearestEven]
  omega

theorem targetExponent_eq (m : Nat) (e : Int) :
    Format.binary64.targetExponent (totalExponent m e) = max (m.log2 + 1 + e - 53) (-1074) := rfl

theorem targetExponent_of_fits {m : Nat} {e : Int} (pos : 0 < m) (h : Fits m e) :
    Format.binary64.targetExponent (totalExponent m e) = e := by
  have least := h.least
  have upper : m.log2 < 53 := (Nat.log2_lt pos.ne').mpr h.narrow
  rw [targetExponent_eq]
  by_cases normal : -1074 < e
  · have lower : 52 ≤ m.log2 := (Nat.le_log2 pos.ne').mpr (h.wide normal)
    omega
  · omega

theorem fits_cut {m : Nat} {e : Int} (pos : 0 < m) (least : -1074 ≤ e)
    (room : e ≤ Format.binary64.targetExponent (totalExponent m e)) :
    Fits (m / 2 ^ (Format.binary64.targetExponent (totalExponent m e) - e).toNat)
      (Format.binary64.targetExponent (totalExponent m e)) := by
  have upper : m < 2 ^ (m.log2 + 1) := Nat.lt_log2_self
  have lower : 2 ^ m.log2 ≤ m := Nat.log2_self_le pos.ne'
  rw [targetExponent_eq] at room ⊢
  generalize cut : (max ((m.log2 : Int) + 1 + e - 53) (-1074) - e).toNat = k
  have width : m.log2 + 1 ≤ 53 + k := by omega
  constructor
  · omega
  · rw [Nat.div_lt_iff_lt_mul (Nat.two_pow_pos k), ← Nat.pow_add]
    exact Nat.lt_of_lt_of_le upper (Nat.pow_le_pow_right (by decide) width)
  · intro normal
    have full : m.log2 = 52 + k := by omega
    rw [Nat.le_div_iff_mul_le (Nat.two_pow_pos k), ← Nat.pow_add, ← full]
    exact lower

theorem shiftToTargetExponent_of_fits {m : Nat} {e : Int} (pos : 0 < m) (h : Fits m e) :
    shiftToTargetExponent .binary64 m e .exact = (⟨m, false, false⟩, e) := by
  unfold shiftToTargetExponent
  rw [targetExponent_of_fits pos h]
  simp [shiftToExponent, ExtendedMantissa.ofMantissaAndAccuracy, HShiftRight.hShiftRight,
    Nat.repeat]

/-- A mantissa that rounding has made too wide is the least one of the next exponent. -/
theorem shiftToTargetExponent_overflow {e : Int} (least : -1074 ≤ e) :
    shiftToTargetExponent .binary64 (2 ^ 53) e .exact = (⟨2 ^ 52, false, false⟩, e + 1) := by
  have target : Format.binary64.targetExponent (totalExponent (2 ^ 53) e) = e + 1 := by
    rw [targetExponent_eq, Nat.log2_two_pow]
    omega
  unfold shiftToTargetExponent
  rw [target]
  simp [shiftToExponent, ExtendedMantissa.ofMantissaAndAccuracy, HShiftRight.hShiftRight,
    Nat.repeat, ExtendedMantissa.shiftRightOne]

end Shifting

section Rounding

variable {m : Nat} {e : Int}

theorem units_lt_cut {t : Int} (least : -1074 ≤ e) (room : e ≤ t) :
    units m e < units (m / 2 ^ (t - e).toNat + 1) t := by
  have digits : (t + 1074).toNat = (t - e).toNat + (e + 1074).toNat := by omega
  rw [units, units, digits, Nat.pow_add, ← Nat.mul_assoc, Nat.mul_comm (_ + 1)]
  apply Nat.mul_lt_mul_of_pos_right _ (Nat.two_pow_pos _)
  exact Nat.lt_mul_div_succ m (Nat.two_pow_pos _)

/-- A mantissa that fits, or is one too many, is settled by a second shift. -/
theorem settle {r : Nat} {t : Int} (pos : 0 < r) (least : -1074 ≤ t) (narrow : r ≤ 2 ^ 53)
    (wide : -1074 < t → 2 ^ 52 ≤ r) :
    ∃ m' e', 0 < m' ∧ shiftToTargetExponent .binary64 r t .exact = (⟨m', false, false⟩, e') ∧
      Fits m' e' ∧ encoded m' e' = encoded r t := by
  by_cases overflow : r = 2 ^ 53
  · subst overflow
    refine ⟨2 ^ 52, t + 1, by decide, shiftToTargetExponent_overflow least, ?_, ?_⟩
    · constructor <;> omega
    · unfold encoded
      omega
  · have fits : Fits r t := ⟨least, by omega, wide⟩
    exact ⟨r, t, pos, shiftToTargetExponent_of_fits pos fits, fits, rfl⟩

/-- A mantissa cut at its target exponent, with what rounding has to know of the rest. -/
def cutMantissa (m : Nat) (e : Int) : ExtendedMantissa :=
  ExtendedMantissa.ofMantissaAndAccuracy m .exact >>>
    (Format.binary64.targetExponent (totalExponent m e) - e).toNat

/-- Rounding cuts a mantissa at its target exponent and rounds what is cut off. -/
theorem roundWithAccuracy_eq (s : Sign) (pos : 0 < m) (least : -1074 ≤ e)
    (room : e ≤ Format.binary64.targetExponent (totalExponent m e)) :
    ∃ m' e', ∃ pos' : 0 < m', roundWithAccuracy .binary64 s m e .exact = .finite s m' e' pos' ∧
      Fits m' e' ∧ encoded m' e' =
        encoded (cutMantissa m e).roundedMantissa
          (Format.binary64.targetExponent (totalExponent m e)) := by
  have cut := fits_cut pos least room
  have target := targetExponent_eq m e
  have first : shiftToTargetExponent .binary64 m e .exact =
      (cutMantissa m e, Format.binary64.targetExponent (totalExponent m e)) := by
    unfold shiftToTargetExponent shiftToExponent cutMantissa
    dsimp only
    congr 1
    omega
  have bounds := roundedMantissa_bounds (cutMantissa m e)
  rw [cutMantissa, mantissa_shiftRight, ← cutMantissa] at bounds
  change m / 2 ^ _ ≤ _ ∧ _ ≤ m / 2 ^ _ + 1 at bounds
  generalize cutMantissa m e = em at *
  generalize Format.binary64.targetExponent (totalExponent m e) = t at *
  have narrow := cut.narrow
  have wide := cut.wide
  have positive : 0 < m / 2 ^ (t - e).toNat := by
    by_cases normal : -1074 < t
    · have full := wide normal
      omega
    · have nothing : (t - e).toNat = 0 := by omega
      simpa [nothing] using pos
  obtain ⟨m', e', pos', second, fits, same⟩ := settle (by omega) cut.least (by omega)
    (fun normal => Nat.le_trans (wide normal) bounds.1)
  refine ⟨m', e', pos', ?_, fits, same⟩
  unfold roundWithAccuracy
  rw [first]
  dsimp only
  rw [second]
  simp [pos'.ne']

theorem exists_widened (pos : 0 < m) (least : -1074 ≤ e) :
    ∃ n f, 0 < n ∧ -1074 ≤ f ∧ f ≤ Format.binary64.targetExponent (totalExponent n f) ∧
      units n f = units m e ∧
      ∀ s, UnpackedFloat.round .binary64 s m e = roundWithAccuracy .binary64 s n f .exact := by
  obtain ⟨k, hk⟩ : ∃ k, k = (e - Format.binary64.targetExponent (totalExponent m e)).toNat :=
    ⟨_, rfl⟩
  have target := targetExponent_eq m e
  have same : Format.binary64.targetExponent (totalExponent (m <<< k) (e - k)) =
      Format.binary64.targetExponent (totalExponent m e) := by
    rw [targetExponent_eq, targetExponent_eq, log2_shiftLeft pos]
    omega
  refine ⟨m <<< k, e - k, ?_, by omega, by omega, ?_, ?_⟩
  · rw [Nat.shiftLeft_eq]
    exact Nat.mul_pos pos (Nat.two_pow_pos k)
  · rw [units_shiftLeft (by omega), Int.sub_add_cancel]
  · intro s
    rw [hk]
    rfl

/-- Rounding takes no result below a double that was not above it. -/
theorem round_ge (s : Sign) (pos : 0 < m) (least : -1074 ≤ e) :
    ∃ m' e', ∃ pos' : 0 < m', UnpackedFloat.round .binary64 s m e = .finite s m' e' pos' ∧
      Fits m' e' ∧ ∀ n f, Fits n f → units n f ≤ units m e → encoded n f ≤ encoded m' e' := by
  obtain ⟨w, g, positive, lower, room, same, widened⟩ := exists_widened pos least
  obtain ⟨m', e', pos', result, fits, rounded⟩ := roundWithAccuracy_eq s positive lower room
  refine ⟨m', e', pos', (widened s).trans result, fits, ?_⟩
  intro n f hfits below
  have cut := fits_cut positive lower room
  have bounds := (roundedMantissa_bounds (cutMantissa w g)).1
  rw [cutMantissa, mantissa_shiftRight, ← cutMantissa] at bounds
  change w / 2 ^ _ ≤ _ at bounds
  rw [rounded]
  apply Nat.le_trans (encoded_le_encoded hfits cut _) (Nat.add_le_add_left bounds _)
  apply Nat.lt_of_le_of_lt below
  rw [← same]
  exact units_lt_cut (by omega) room

end Rounding

end ServiceRoute.Number
