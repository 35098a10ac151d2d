import ServiceRoute.Proofs.Number.Addition

/-!
# Sums keep the order

The double nearest to an exact value depends on that value alone, not on how it is written, and of
two exact values the lesser one never has the greater double. So two numbers keep their order when
the same finite number is added to both.
-/

namespace ServiceRoute.Number

open Float.Model Float.Model.UnpackedFloat

section Cutting

/-- A mantissa that has been cut, in quarters: two for the round bit, one for the sticky bit. -/
def quarters (em : ExtendedMantissa) : Nat :=
  4 * em.mantissa + 2 * em.roundBit.toNat + em.stickyBit.toNat

theorem quarters_shiftRightOne (em : ExtendedMantissa) :
    quarters em.shiftRightOne = 2 * (quarters em / 4) + min 1 (quarters em % 4) := by
  obtain ⟨m, roundBit, stickyBit⟩ := em
  cases roundBit <;> cases stickyBit <;> rcases Nat.mod_two_eq_zero_or_one m with even | odd <;>
    simp [quarters, ExtendedMantissa.shiftRightOne, *] <;> omega

theorem quarters_shiftRight_le {em em' : ExtendedMantissa} (le : quarters em ≤ quarters em')
    (n : Nat) : quarters (em >>> n) ≤ quarters (em' >>> n) := by
  show quarters (Nat.repeat ExtendedMantissa.shiftRightOne n em) ≤
    quarters (Nat.repeat ExtendedMantissa.shiftRightOne n em')
  induction n with
  | zero => exact le
  | succ n ih =>
    rw [Nat.repeat, Nat.repeat, quarters_shiftRightOne, quarters_shiftRightOne]
    omega

theorem quarters_div_four (em : ExtendedMantissa) : quarters em / 4 = em.mantissa := by
  have bit := em.roundBit.toNat_le
  have rest := em.stickyBit.toNat_le
  unfold quarters
  omega

/-- A half goes to the even neighbour. -/
theorem roundedMantissa_eq (em : ExtendedMantissa) :
    em.roundedMantissa = (quarters em + 1 + em.mantissa % 2) / 4 := by
  obtain ⟨m, roundBit, stickyBit⟩ := em
  cases roundBit <;> cases stickyBit <;>
    simp [quarters, ExtendedMantissa.roundedMantissa, ExtendedMantissa.accuracy,
      Accuracy.roundToNearestEven] <;> omega

theorem roundedMantissa_le {em em' : ExtendedMantissa} (le : quarters em ≤ quarters em') :
    em.roundedMantissa ≤ em'.roundedMantissa := by
  have whole : em.mantissa ≤ em'.mantissa := by
    rw [← quarters_div_four, ← quarters_div_four]
    exact Nat.div_le_div_right le
  rcases Nat.lt_or_eq_of_le whole with less | same
  · have above := (roundedMantissa_bounds em).2
    have below := (roundedMantissa_bounds em').1
    omega
  · rw [roundedMantissa_eq, roundedMantissa_eq, same]
    omega

/-- A mantissa that is widened and then cut as much again comes to the same. -/
theorem shiftRight_shiftLeft (m n k : Nat) :
    ExtendedMantissa.ofMantissaAndAccuracy (m <<< k) .exact >>> (n + k) =
      ExtendedMantissa.ofMantissaAndAccuracy m .exact >>> n := by
  show Nat.repeat ExtendedMantissa.shiftRightOne (n + k) ⟨m <<< k, false, false⟩ =
    Nat.repeat ExtendedMantissa.shiftRightOne n ⟨m, false, false⟩
  have widened : Nat.repeat ExtendedMantissa.shiftRightOne k ⟨m <<< k, false, false⟩ =
      ⟨m, false, false⟩ := by
    induction k generalizing m with
    | zero => rfl
    | succ k ih =>
      have doubled : m <<< (k + 1) = (2 * m) <<< k := by
        rw [Nat.shiftLeft_eq, Nat.shiftLeft_eq, Nat.pow_succ]
        ring
      rw [Nat.repeat, doubled, ih]
      simp [ExtendedMantissa.shiftRightOne]
  induction n with
  | zero => rw [Nat.zero_add, widened, Nat.repeat]
  | succ n ih => rw [Nat.succ_add, Nat.repeat, ih, Nat.repeat]

end Cutting

section Rounding

/-- The bits of the double nearest to a positive number, which is given in units of the least
positive double. Beyond the greatest double they go on as if there were greater ones. -/
def nearest (u : Nat) : Nat :=
  (u.log2 - 52) * 2 ^ 52 +
    (ExtendedMantissa.ofMantissaAndAccuracy u .exact >>> (u.log2 - 52)).roundedMantissa

theorem units_eq_shiftLeft (m : Nat) (e : Int) : units m e = m <<< (e + 1074).toNat := by
  rw [units, Nat.shiftLeft_eq]

/-- Where a number is cut depends on the number alone. -/
theorem targetExponent_units {m : Nat} {e : Int} (pos : 0 < m) (least : -1074 ≤ e) :
    Format.binary64.targetExponent (totalExponent m e) = ((units m e).log2 - 52 : Nat) - 1074 := by
  rw [targetExponent_eq, units_eq_shiftLeft, log2_shiftLeft pos]
  omega

theorem nearest_units {m : Nat} {e : Int} (pos : 0 < m) (least : -1074 ≤ e)
    (room : e ≤ Format.binary64.targetExponent (totalExponent m e)) :
    nearest (units m e) = encoded (cutMantissa m e).roundedMantissa
      (Format.binary64.targetExponent (totalExponent m e)) := by
  have cut := targetExponent_units pos least
  rw [nearest, encoded, cutMantissa]
  generalize Format.binary64.targetExponent (totalExponent m e) = t at *
  have total : (units m e).log2 - 52 = (t - e).toNat + (e + 1074).toNat := by omega
  rw [total, units_eq_shiftLeft, shiftRight_shiftLeft]
  congr 2
  omega

theorem round_eq (s : Sign) {m : Nat} {e : Int} (pos : 0 < m) (least : -1074 ≤ e) :
    ∃ m' e', ∃ pos' : 0 < m', UnpackedFloat.round .binary64 s m e = .finite s m' e' pos' ∧
      Fits m' e' ∧ encoded m' e' = nearest (units m e) := by
  obtain ⟨n, f, positive, lower, room, same, widened⟩ := exists_widened pos least
  obtain ⟨m', e', pos', result, fits, rounded⟩ := roundWithAccuracy_eq s positive lower room
  refine ⟨m', e', pos', (widened s).trans result, fits, ?_⟩
  rw [rounded, ← same, nearest_units positive lower room]

theorem nearest_of_fits {m : Nat} {e : Int} (pos : 0 < m) (h : Fits m e) :
    nearest (units m e) = encoded m e := by
  have target := targetExponent_of_fits pos h
  rw [nearest_units pos h.least target.ge, cutMantissa, target, Int.sub_self]
  rfl

theorem nearest_zero : nearest 0 = 0 := by
  decide

/-- The nearest double to a number that is cut has a full mantissa, or one too many. -/
theorem nearest_bounds {u : Nat} (pos : 0 < u) :
    nearest u ≤ (u.log2 - 52) * 2 ^ 52 + 2 ^ 53 ∧
      (0 < u.log2 - 52 → (u.log2 - 52) * 2 ^ 52 + 2 ^ 52 ≤ nearest u) := by
  have whole : units u (-1074) = u := Nat.mul_one u
  have least : (-1074 : Int) ≤ -1074 := Int.le_refl _
  have target := targetExponent_units pos least
  rw [whole] at target
  have cut := fits_cut pos least (by omega)
  rw [target] at cut
  have narrow := cut.narrow
  have wide := cut.wide
  have bounds := roundedMantissa_bounds
    (ExtendedMantissa.ofMantissaAndAccuracy u .exact >>> (u.log2 - 52))
  rw [mantissa_shiftRight] at bounds
  change u / 2 ^ (u.log2 - 52) ≤ _ ∧ _ ≤ u / 2 ^ (u.log2 - 52) + 1 at bounds
  have amount : (((u.log2 - 52 : Nat) - 1074 : Int) - -1074).toNat = u.log2 - 52 := by omega
  rw [amount] at narrow wide
  unfold nearest
  constructor
  · omega
  · intro normal
    have full := wide (by omega)
    omega

/-- Of two numbers the lesser does not have the greater double. -/
theorem nearest_mono {u v : Nat} (le : u ≤ v) : nearest u ≤ nearest v := by
  rcases Nat.eq_zero_or_pos u with rfl | pos
  · rw [nearest_zero]
    exact Nat.zero_le _
  · have digits : u.log2 ≤ v.log2 :=
      (Nat.le_log2 (by omega)).mpr ((Nat.log2_self_le pos.ne').trans le)
    rcases Nat.lt_or_eq_of_le (Nat.sub_le_sub_right digits 52) with less | same
    · have above := (nearest_bounds pos).1
      have below := (nearest_bounds (pos.trans_le le)).2 (by omega)
      omega
    · rw [nearest, nearest, same]
      apply Nat.add_le_add_left
      apply roundedMantissa_le
      apply quarters_shiftRight_le
      exact Nat.mul_le_mul_left 4 le

end Rounding

section Places

/-- The place of the double nearest to a number, which is given in units of the least positive
double. Beyond the greatest double stand the infinities. -/
def nearestRank (n : Int) : Int :=
  if n < 0 then -(min (nearest n.natAbs) (2047 * 2 ^ 52) : Nat) - 1
  else (min (nearest n.natAbs) (2047 * 2 ^ 52) : Nat)

theorem nearestRank_mono {n n' : Int} (le : n ≤ n') : nearestRank n ≤ nearestRank n' := by
  unfold nearestRank
  split_ifs with negative negative' negative'
  · have further : nearest n'.natAbs ≤ nearest n.natAbs := nearest_mono (by omega)
    omega
  · omega
  · omega
  · have further : nearest n.natAbs ≤ nearest n'.natAbs := nearest_mono (by omega)
    omega

theorem nearestRank_zero : nearestRank 0 = 0 := by
  decide

theorem nearestRank_natCast (u : Nat) :
    nearestRank u = (min (nearest u) (2047 * 2 ^ 52) : Nat) := by
  rw [nearestRank, if_neg (by omega), Int.natAbs_natCast]

theorem nearestRank_neg {u : Nat} (positive : 0 < u) :
    nearestRank (-u) = -(min (nearest u) (2047 * 2 ^ 52) : Nat) - 1 := by
  rw [nearestRank, if_pos (by omega), Int.natAbs_neg, Int.natAbs_natCast]

theorem nearestRank_neg_of_neg {n : Int} (h : n < 0) : nearestRank n < 0 := by
  unfold nearestRank
  split_ifs
  omega

theorem nearestRank_bounds (n : Int) :
    -(2047 * 2 ^ 52) - 1 ≤ nearestRank n ∧ nearestRank n ≤ 2047 * 2 ^ 52 := by
  unfold nearestRank
  split_ifs <;> omega

/-- The place of a number in the total order. -/
def place (u : UnpackedFloat) : Int :=
  let b := (UnpackedFloat.pack .binary64 u).toNat
  if b < 2 ^ 63 then b else 2 ^ 63 - 1 - b

theorem rank_eq_place (x : Float) : rank x = place x.toModel.unpack := by
  have packed : UnpackedFloat.pack .binary64 x.toModel.unpack = x.toModel.toBits.toBitVec :=
    pack_unpack_of_valid x.toModel.valid
  rw [place, packed]
  rfl

theorem rank_add_eq_place (x y : Float) :
    rank (x + y) = place (UnpackedFloat.add .binary64 x.toModel.unpack y.toModel.unpack) := rfl

theorem place_eq_nearestRank (s : Sign) {m : Nat} {e : Int} (pos : 0 < m) (h : Fits m e) {u : Nat}
    (positive : 0 < u) (same : encoded m e = nearest u) :
    place (.finite s m e pos) = nearestRank (s.apply u) := by
  rw [place, toNat_pack_signed s pos h, same]
  cases s with
  | negative =>
    have signed : Sign.negative.toBitVec.toNat = 1 := rfl
    rw [signed, if_neg (by omega), Sign.apply, nearestRank_neg positive]
    omega
  | positive =>
    have signed : Sign.positive.toBitVec.toNat = 0 := rfl
    rw [signed, if_pos (by omega), Sign.apply, nearestRank_natCast]
    omega

/-- A result that is not zero is rounded to the double nearest to it. -/
theorem place_normalize {n : Int} {e : Int} (least : -1074 ≤ e) :
    place (UnpackedFloat.normalize .binary64 n e .positive) =
      nearestRank (n * (2 ^ (e + 1074).toNat : Nat)) := by
  have rounded (s : Sign) {m : Nat} (pos : 0 < m) :
      place (UnpackedFloat.round .binary64 s m e) = nearestRank (s.apply (units m e)) := by
    obtain ⟨m', e', pos', result, fits, same⟩ := round_eq s pos least
    rw [result]
    exact place_eq_nearestRank s pos' fits (units_pos pos e) same
  unfold UnpackedFloat.normalize
  rcases lt_trichotomy n 0 with negative | rfl | positive
  · rw [Int.compare_eq_lt.mpr negative]
    obtain ⟨m, rfl⟩ : ∃ m : Nat, n = -m := ⟨n.natAbs, by omega⟩
    dsimp only
    rw [Int.neg_neg, Int.toNat_natCast, rounded .negative (by omega), units, Sign.apply]
    congr 1
    push_cast
    ring
  · rw [Int.zero_mul, nearestRank_zero]
    rfl
  · rw [Int.compare_eq_gt.mpr positive]
    obtain ⟨m, rfl⟩ : ∃ m : Nat, n = m := ⟨n.natAbs, by omega⟩
    dsimp only
    rw [Int.toNat_natCast, rounded .positive (by omega), units, Sign.apply]
    push_cast
    rfl

end Places

section Sums

/-- A finite number, in units of the least positive double. -/
def signedUnits (u : UnpackedFloat) : Int :=
  (sign u).apply (unitsOf u)

theorem Canonical.fits {s : Sign} {m : Nat} {e : Int} {pos : 0 < m}
    (h : Canonical (.finite s m e pos)) : Fits m e := by
  cases h with
  | finite _ _ _ _ least _ narrow wide => exact ⟨least, narrow, wide⟩

theorem place_finite {s : Sign} {m : Nat} {e : Int} {pos : 0 < m}
    (h : Canonical (.finite s m e pos)) :
    place (.finite s m e pos) = nearestRank (signedUnits (.finite s m e pos)) :=
  place_eq_nearestRank s pos h.fits (units_pos pos e) (nearest_of_fits pos h.fits).symm

theorem signedUnits_zero (s : Sign) : signedUnits (.zero s) = 0 := by
  cases s <;> rfl

theorem signedUnits_finite_ne_zero (s : Sign) {m : Nat} (e : Int) (pos : 0 < m) :
    signedUnits (.finite s m e pos) ≠ 0 := by
  have positive := units_pos pos e
  cases s with
  | negative =>
    show -(units m e : Int) ≠ 0
    omega
  | positive =>
    show (units m e : Int) ≠ 0
    omega

theorem apply_mul (s : Sign) (a b : Int) : s.apply a * b = s.apply (a * b) := by
  cases s with
  | negative => exact Int.neg_mul a b
  | positive => rfl

theorem place_add_finite {s s' : Sign} {m m' : Nat} {e e' : Int} {pos : 0 < m} {pos' : 0 < m'}
    (h : Canonical (.finite s m e pos)) (h' : Canonical (.finite s' m' e' pos')) :
    place (UnpackedFloat.add .binary64 (.finite s m e pos) (.finite s' m' e' pos')) =
      nearestRank (signedUnits (.finite s m e pos) + signedUnits (.finite s' m' e' pos')) := by
  have least := h.fits.least
  have least' := h'.fits.least
  have added : UnpackedFloat.add .binary64 (.finite s m e pos) (.finite s' m' e' pos') =
      UnpackedFloat.normalize .binary64 (s.apply (m <<< (e - min e e').toNat : Nat) +
        s'.apply (m' <<< (e' - min e e').toNat : Nat)) (min e e') .positive := rfl
  have widened (t : Sign) {n : Nat} {f : Int} (hf : min e e' ≤ f) :
      t.apply (n <<< (f - min e e').toNat : Nat) * (2 ^ (min e e' + 1074).toNat : Nat) =
        t.apply (units n f) := by
    rw [apply_mul, ← Nat.cast_mul, ← units, units_shiftLeft (by omega)]
    congr 3
    omega
  rw [added, place_normalize (by omega), Int.add_mul, widened s (by omega),
    widened s' (by omega)]
  rfl

theorem place_add {u v : UnpackedFloat} (hu : Canonical u) (hv : Canonical v)
    (finite : u.isFinite = true) (finite' : v.isFinite = true)
    (nonzero : signedUnits u = 0 → signedUnits v ≠ 0) :
    place (UnpackedFloat.add .binary64 u v) = nearestRank (signedUnits u + signedUnits v) := by
  cases u with
  | notANumber => cases hu
  | infinity s => cases finite
  | zero s =>
    cases v with
    | notANumber => cases hv
    | infinity t => cases finite'
    | zero t => exact absurd (signedUnits_zero t) (nonzero (signedUnits_zero s))
    | finite t m e pos =>
      rw [signedUnits_zero, Int.zero_add]
      exact place_finite hv
  | finite s m e pos =>
    cases v with
    | notANumber => cases hv
    | infinity t => cases finite'
    | zero t =>
      rw [signedUnits_zero, Int.add_zero]
      exact place_finite hu
    | finite t m' e' pos' => exact place_add_finite hu hv

/-- A sum of two zeros is the greater one: it is negative only if both are. -/
theorem place_add_zero {u v : UnpackedFloat} (hu : Canonical u) (hv : Canonical v)
    (finite : u.isFinite = true) (finite' : v.isFinite = true) (zero : signedUnits u = 0)
    (zero' : signedUnits v = 0) :
    place (UnpackedFloat.add .binary64 u v) = max (place u) (place v) := by
  cases u with
  | notANumber => cases hu
  | infinity s => cases finite
  | finite s m e pos => exact absurd zero (signedUnits_finite_ne_zero s e pos)
  | zero s =>
    cases v with
    | notANumber => cases hv
    | infinity t => cases finite'
    | finite t m e pos => exact absurd zero' (signedUnits_finite_ne_zero t e pos)
    | zero t => cases s <;> cases t <;> decide

/-- A finite number is its own nearest double. Only zero is there twice. -/
theorem place_eq {u : UnpackedFloat} (hu : Canonical u) (finite : u.isFinite = true) :
    place u = nearestRank (signedUnits u) ∨
      signedUnits u = 0 ∧ place u = nearestRank (signedUnits u) - 1 := by
  cases u with
  | notANumber => cases hu
  | infinity s => cases finite
  | zero s => cases s <;> decide
  | finite s m e pos => exact Or.inl (place_finite hu)

end Sums

section Order

variable {x y z : Float}

theorem canonical_of_isFinite (h : x.isFinite = true) : Canonical x.toModel.unpack :=
  (canonical_unpack (isNaN_of_isFinite h)).1

theorem add_of_not_isFinite (hx : x.isFinite = false) (hz : z.isFinite = true) : x + z = x := by
  change x.toModel.unpack.isFinite = false at hx
  change z.toModel.unpack.isFinite = true at hz
  apply add_eq
  cases unpacked : x.toModel.unpack with
  | notANumber => rfl
  | infinity s =>
    cases unpacked' : z.toModel.unpack with
    | infinity t =>
      rw [unpacked'] at hz
      cases hz
    | notANumber =>
      rw [unpacked'] at hz
      cases hz
    | _ => rfl
  | _ =>
    rw [unpacked] at hx
    cases hx

theorem signedUnits_le (hx : x.isFinite = true) (hy : y.isFinite = true)
    (le : rank x ≤ rank y) : signedUnits x.toModel.unpack ≤ signedUnits y.toModel.unpack := by
  by_contra greater
  have above := nearestRank_mono (Int.le_of_lt (Int.not_le.mp greater))
  have back : rank y ≤ rank x := by
    rw [rank_eq_place, rank_eq_place]
    have placed := place_eq (canonical_of_isFinite hy) hy
    rcases place_eq (canonical_of_isFinite hx) hx with own | ⟨zero, own⟩
    · omega
    · have negative : nearestRank (signedUnits y.toModel.unpack) < 0 :=
        nearestRank_neg_of_neg (by omega)
      rw [zero, nearestRank_zero] at own
      omega
  obtain rfl := rank_injective (Int.le_antisymm le back)
  exact greater (Int.le_refl _)

theorem rank_of_zero (hx : x.isFinite = true) (zero : signedUnits x.toModel.unpack = 0) :
    -1 ≤ rank x ∧ rank x ≤ 0 := by
  have placed := place_eq (canonical_of_isFinite hx) hx
  rw [zero, nearestRank_zero] at placed
  rw [rank_eq_place]
  omega

/-- The place of a sum of finite numbers. Only a sum of two zeros is not rounded. -/
theorem rank_add_cases (hx : x.isFinite = true) (hz : z.isFinite = true) :
    (signedUnits x.toModel.unpack = 0 ∧ signedUnits z.toModel.unpack = 0 ∧
      rank (x + z) = max (rank x) (rank z)) ∨
    (¬ (signedUnits x.toModel.unpack = 0 ∧ signedUnits z.toModel.unpack = 0) ∧
      rank (x + z) =
        nearestRank (signedUnits x.toModel.unpack + signedUnits z.toModel.unpack)) := by
  have hx' := canonical_of_isFinite hx
  have hz' := canonical_of_isFinite hz
  rw [rank_add_eq_place, rank_eq_place x, rank_eq_place z]
  by_cases zero : signedUnits x.toModel.unpack = 0 ∧ signedUnits z.toModel.unpack = 0
  · exact Or.inl ⟨zero.1, zero.2, place_add_zero hx' hz' hx hz zero.1 zero.2⟩
  · exact Or.inr ⟨zero, place_add hx' hz' hx hz fun left right => zero ⟨left, right⟩⟩

theorem rank_add_le_of_isFinite (hx : x.isFinite = true) (hy : y.isFinite = true)
    (hz : z.isFinite = true) (le : rank x ≤ rank y) : rank (x + z) ≤ rank (y + z) := by
  have exact := signedUnits_le hx hy le
  rcases rank_add_cases hx hz with ⟨left, zero, sum⟩ | ⟨left, sum⟩
  · rcases rank_add_cases hy hz with ⟨right, -, sum'⟩ | ⟨right, sum'⟩
    · omega
    · have positive : nearestRank 0 ≤
          nearestRank (signedUnits y.toModel.unpack + signedUnits z.toModel.unpack) :=
        nearestRank_mono (by omega)
      have low := rank_of_zero hx left
      have low' := rank_of_zero hz zero
      rw [nearestRank_zero] at positive
      omega
  · rcases rank_add_cases hy hz with ⟨right, zero, sum'⟩ | ⟨right, sum'⟩
    · have negative :
          nearestRank (signedUnits x.toModel.unpack + signedUnits z.toModel.unpack) < 0 :=
        nearestRank_neg_of_neg (by omega)
      have high := rank_of_zero hz zero
      omega
    · rw [sum, sum']
      exact nearestRank_mono (Int.add_le_add_right exact _)

theorem rank_bounds_of_isFinite (hx : x.isFinite = true) :
    -(2047 * 2 ^ 52) - 1 < rank x ∧ rank x < 2047 * 2 ^ 52 := by
  have number := isNaN_of_isFinite hx
  have canonical := canonical_of_isFinite hx
  have placed := signedMagnitude_eq number
  change x.toModel.unpack.isFinite = true at hx
  have inside : magnitude x.toModel.unpack < 2047 * 2 ^ 52 := by
    generalize x.toModel.unpack = u at canonical hx
    cases u with
    | notANumber => cases canonical
    | infinity s => cases hx
    | zero s => exact (by decide : 0 < 2047 * 2 ^ 52)
    | finite s m e pos => exact magnitude_finite_lt canonical
  have signed : signedMagnitude x.toModel.unpack < 2047 * 2 ^ 52 ∧
      -(2047 * 2 ^ 52) < signedMagnitude x.toModel.unpack := by
    unfold signedMagnitude
    cases sign x.toModel.unpack with
    | negative =>
      simp only [Sign.apply]
      omega
    | positive =>
      simp only [Sign.apply]
      omega
  rw [placed] at signed
  split_ifs at signed <;> omega

/-- What is not finite stands outside the finite numbers. -/
theorem rank_of_not_isFinite (hx : x.isFinite = false) :
    rank x = -(2047 * 2 ^ 52) - 1 ∨ 2047 * 2 ^ 52 ≤ rank x := by
  change x.toModel.unpack.isFinite = false at hx
  rw [rank_eq_place]
  cases u : x.toModel.unpack with
  | notANumber => decide
  | infinity s => cases s <;> decide
  | _ =>
    rw [u] at hx
    cases hx

theorem rank_ge (x : Float) : -(2047 * 2 ^ 52) - 1 ≤ rank x := by
  cases hx : x.isFinite with
  | false =>
    have outside := rank_of_not_isFinite hx
    omega
  | true => exact (rank_bounds_of_isFinite hx).1.le

theorem rank_add_bounds (hx : x.isFinite = true) (hz : z.isFinite = true) :
    -(2047 * 2 ^ 52) - 1 ≤ rank (x + z) ∧ rank (x + z) ≤ 2047 * 2 ^ 52 := by
  rcases rank_add_cases hx hz with ⟨left, right, sum⟩ | ⟨-, sum⟩
  · have low := rank_of_zero hx left
    have low' := rank_of_zero hz right
    omega
  · rw [sum]
    exact nearestRank_bounds _

theorem isNaN_add_of_isFinite (hx : x.isNaN = false) (hz : z.isFinite = true) :
    (x + z).isNaN = false := by
  cases finite : x.isFinite with
  | false =>
    rw [add_of_not_isFinite finite hz]
    exact hx
  | true =>
    by_contra nan
    rw [Bool.not_eq_false] at nan
    have behind := rank_of_isNaN nan
    have sum := rank_add_bounds finite hz
    omega

/-- Adding the same finite number keeps the order. -/
theorem rank_add_le_add_right (hz : z.isFinite = true) (le : rank x ≤ rank y) :
    rank (x + z) ≤ rank (y + z) := by
  cases hx : x.isFinite with
  | false =>
    rw [add_of_not_isFinite hx hz]
    cases hy : y.isFinite with
    | false =>
      rw [add_of_not_isFinite hy hz]
      exact le
    | true =>
      have outside := rank_of_not_isFinite hx
      have inside := rank_bounds_of_isFinite hy
      have sum := rank_add_bounds hy hz
      omega
  | true =>
    cases hy : y.isFinite with
    | false =>
      rw [add_of_not_isFinite hy hz]
      have inside := rank_bounds_of_isFinite hx
      have outside := rank_of_not_isFinite hy
      have sum := rank_add_bounds hx hz
      omega
    | true => exact rank_add_le_of_isFinite hx hy hz le

theorem unpacked_add_comm (u v : UnpackedFloat) :
    UnpackedFloat.add .binary64 u v = UnpackedFloat.add .binary64 v u := by
  cases u with
  | notANumber => cases v <;> rfl
  | infinity s =>
    cases v with
    | infinity t => cases s <;> cases t <;> rfl
    | _ => rfl
  | zero s =>
    cases v with
    | zero t => cases s <;> cases t <;> rfl
    | _ => rfl
  | finite s m e pos =>
    cases v with
    | finite t m' e' pos' =>
      simp only [UnpackedFloat.add, Int.min_comm e e']
      rw [Int.add_comm]
    | _ => rfl

protected theorem add_comm (x y : Float) : x + y = y + x := by
  apply Float.toBits_inj.mp
  apply UInt64.toBitVec_inj.mp
  show UnpackedFloat.pack .binary64 (UnpackedFloat.add .binary64 _ _) =
    UnpackedFloat.pack .binary64 (UnpackedFloat.add .binary64 _ _)
  rw [unpacked_add_comm]

theorem neg_zero_add (x : Float) : -0 + x = x := by
  have unpacked : (-0 : Float).toModel.unpack = .zero .negative := rfl
  apply add_eq
  rw [unpacked]
  cases x.toModel.unpack with
  | zero s => cases s <;> rfl
  | _ => rfl

theorem rank_neg_zero_le (le : 0 ≤ z) : rank (-0) ≤ rank z := by
  have negative : rank (-0) = -1 := by decide
  have zero : signedMagnitude (0 : Float).toModel.unpack = 0 := rfl
  obtain ⟨number, number'⟩ := isNaN_eq_false_of_le le
  rw [le_iff_of_numbers number number', zero, signedMagnitude_eq number'] at le
  rw [negative]
  split_ifs at le <;> omega

/-- Adding a finite number that is not negative takes nothing below itself. -/
theorem rank_le_rank_add_of_le (hz : z.isFinite = true) (le : 0 ≤ z) : rank x ≤ rank (x + z) := by
  cases hx : x.isFinite with
  | false => rw [add_of_not_isFinite hx hz]
  | true =>
    calc rank x
        = rank (-0 + x) := by rw [neg_zero_add]
      _ ≤ rank (z + x) := rank_add_le_add_right hx (rank_neg_zero_le le)
      _ = rank (x + z) := by rw [Number.add_comm]

end Order

end ServiceRoute.Number
