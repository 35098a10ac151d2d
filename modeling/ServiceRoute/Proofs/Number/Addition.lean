import ServiceRoute.Proofs.Number.Rounding

/-!
# Sums of doubles

Adding zero changes no number but the negative zero. A sum of numbers that are not negative is not
below any double that their exact sum reaches: not below either of them, and above the first if
the second reaches the distance to the next double.
-/

namespace ServiceRoute.Number

open Float.Model Float.Model.UnpackedFloat

/-- A sum is the sum of the numbers the bit patterns stand for. -/
theorem add_eq {x y u : Float}
    (h : UnpackedFloat.add .binary64 x.toModel.unpack y.toModel.unpack = u.toModel.unpack) :
    x + y = u := by
  apply Float.toBits_inj.mp
  apply UInt64.toBitVec_inj.mp
  show UnpackedFloat.pack .binary64 _ = u.toModel.toBits.toBitVec
  rw [h]
  exact pack_unpack_of_valid u.toModel.valid

theorem unpack_zero : (0 : Float).toModel.unpack = .zero .positive := rfl

/-- Adding zero changes nothing but the sign of a negative zero. -/
theorem add_zero {x : Float} (unsigned : (x == 0) = true → x = 0) : x + 0 = x := by
  apply add_eq
  rw [unpack_zero]
  cases h : x.toModel.unpack with
  | notANumber => rfl
  | infinity s => rfl
  | finite s m e pos => rfl
  | zero s =>
    have zero : (x == 0) = true := by
      show (UnpackedFloat.compare x.toModel.unpack _ == some Ordering.eq) = true
      rw [h, unpack_zero]
      rfl
    obtain rfl := unsigned zero
    rw [unpack_zero] at h
    rw [← h]
    rfl

section Packing

theorem toNat_packComponents (s : Sign) (e : BitVec 11) (m : BitVec 52) :
    (packComponents .binary64 s e m).toNat =
      s.toBitVec.toNat * 2 ^ 63 + (e.toNat * 2 ^ 52 + m.toNat) := by
  unfold packComponents
  rw [BitVec.toNat_append, ← Nat.shiftLeft_add_eq_or_of_lt m.isLt, BitVec.toNat_append,
    ← Nat.shiftLeft_add_eq_or_of_lt e.isLt, Nat.shiftLeft_eq, Nat.shiftLeft_eq]
  ring

theorem toNat_pack_signed (s : Sign) {m : Nat} {e : Int} (pos : 0 < m) (h : Fits m e) :
    (UnpackedFloat.pack .binary64 (.finite s m e pos)).toNat =
      s.toBitVec.toNat * 2 ^ 63 + min (encoded m e) (2047 * 2 ^ 52) := by
  have least := h.least
  have narrow := h.narrow
  have bias : (e + Format.binary64.exponentBias +
      Format.binary64.mantissaBitsWithoutImplicit : Int) = e + 1075 := by
    show e + 1023 + 52 = _
    omega
  unfold encoded UnpackedFloat.pack
  rw [bias]
  dsimp only
  split
  · rename_i great
    have wide := h.wide (by omega)
    have ones : (-1#11).toNat = 2047 := by decide
    rw [packedInfinity, toNat_packComponents, ones, Nat.min_eq_right (by omega)]
    rfl
  · rename_i small
    split
    · rename_i full
      have log : m.log2 = 52 := by simpa [Format.mantissaBits] using full
      have wide : 2 ^ 52 ≤ m := (Nat.le_log2 pos.ne').mp log.ge
      rw [toNat_packComponents, BitVec.toNat_ofNat, BitVec.toNat_ofNat,
        Nat.min_eq_left (by omega)]
      omega
    · rename_i short
      have log : m.log2 ≠ 52 := by simpa [Format.mantissaBits] using short
      have upper : m.log2 < 53 := (Nat.log2_lt pos.ne').mpr narrow
      have subnormal : m < 2 ^ 52 := (Nat.log2_lt pos.ne').mp (by omega)
      have lowest : e = -1074 := by
        by_contra other
        have wide := h.wide (by omega)
        omega
      subst lowest
      rw [toNat_packComponents, BitVec.toNat_ofNat, BitVec.toNat_ofNat, Nat.mod_eq_of_lt subnormal,
        Nat.min_eq_left (by omega)]
      rfl

theorem toNat_pack {m : Nat} {e : Int} (pos : 0 < m) (h : Fits m e) :
    (UnpackedFloat.pack .binary64 (.finite .positive m e pos)).toNat =
      min (encoded m e) (2047 * 2 ^ 52) := by
  have positive : Sign.positive.toBitVec.toNat = 0 := rfl
  rw [toNat_pack_signed, positive, Nat.zero_mul, Nat.zero_add]
  exact h

/-- The numbers that are not negative and have no sign. -/
inductive NotNegative : UnpackedFloat → Prop
  | infinity : NotNegative (.infinity .positive)
  | zero : NotNegative (.zero .positive)
  | finite {m : Nat} {e : Int} (pos : 0 < m) (fits : Fits m e) (greatest : e ≤ 971) :
      NotNegative (.finite .positive m e pos)

theorem toNat_pack_of_notNegative {u : UnpackedFloat} (h : NotNegative u) :
    (UnpackedFloat.pack .binary64 u).toNat = magnitude u := by
  cases h with
  | infinity => rfl
  | zero => rfl
  | finite pos fits greatest =>
    have least := fits.least
    have narrow := fits.narrow
    rw [toNat_pack pos fits, encoded, Nat.min_eq_left (by omega)]
    rfl

theorem notNegative_unpack {x : Float} (number : x.isNaN = false) (h : 0 ≤ rank x) :
    NotNegative x.toModel.unpack ∧ rank x = magnitude x.toModel.unpack := by
  have low : bits x < 2 ^ 63 := by
    rw [rank_eq_bits] at h
    by_contra high
    rw [if_neg high] at h
    omega
  obtain ⟨canonical, signed, size⟩ := canonical_unpack number
  have positive : sign x.toModel.unpack = .positive :=
    signed.trans ((ofBitVec_unpackSign _).trans (if_pos low))
  constructor
  · change Canonical x.toModel.unpack at canonical
    generalize x.toModel.unpack = u at canonical positive
    cases canonical with
    | infinity s =>
      obtain rfl : s = .positive := positive
      exact .infinity
    | zero s =>
      obtain rfl : s = .positive := positive
      exact .zero
    | finite s m e pos least greatest narrow wide =>
      obtain rfl : s = .positive := positive
      exact .finite pos ⟨least, narrow, wide⟩ greatest
  · have same : magnitude x.toModel.unpack = bits x :=
      size.trans (Nat.mod_eq_of_lt low)
    rw [rank_eq_bits, if_pos low, same]

end Packing

section Sums

/-- How often the least positive double goes into a finite number. -/
def unitsOf : UnpackedFloat → Nat
  | .finite _ m e _ => units m e
  | .zero _ | .infinity _ | .notANumber => 0

theorem units_pos {m : Nat} (pos : 0 < m) (e : Int) : 0 < units m e :=
  Nat.mul_pos pos (Nat.two_pow_pos _)

theorem units_lt_succ (m : Nat) (e : Int) : units m e < units (m + 1) e :=
  Nat.mul_lt_mul_of_pos_right (Nat.lt_succ_self m) (Nat.two_pow_pos _)

theorem units_add (m m' : Nat) (e : Int) : units (m + m') e = units m e + units m' e :=
  Nat.add_mul _ _ _

theorem normalize_natCast {n : Nat} (pos : 0 < n) (e : Int) (s : Sign) :
    normalize .binary64 (n : Int) e s = UnpackedFloat.round .binary64 .positive n e := by
  have positive : compare (n : Int) 0 = .gt := by
    rw [Int.compare_eq_gt]
    omega
  unfold UnpackedFloat.normalize
  rw [positive]
  rfl

theorem add_finite {m m' : Nat} {e e' : Int} (pos : 0 < m) (pos' : 0 < m') (least : -1074 ≤ e)
    (least' : -1074 ≤ e') :
    ∃ n f, 0 < n ∧ -1074 ≤ f ∧ units n f = units m e + units m' e' ∧
      UnpackedFloat.add .binary64 (.finite .positive m e pos) (.finite .positive m' e' pos') =
        UnpackedFloat.round .binary64 .positive n f := by
  have widened : 0 < m <<< (e - min e e').toNat + m' <<< (e' - min e e').toNat := by
    rw [Nat.shiftLeft_eq]
    exact Nat.add_pos_left (Nat.mul_pos pos (Nat.two_pow_pos _)) _
  refine ⟨_, min e e', widened, by omega, ?_, ?_⟩
  · rw [units_add, units_shiftLeft (by omega), units_shiftLeft (by omega)]
    congr 2 <;> omega
  · rw [← normalize_natCast widened _ .positive, Nat.cast_add]
    rfl

/-- A sum is not below any double that the exact sum reaches. -/
theorem encoded_le_add {u v : UnpackedFloat} (hu : NotNegative u) (hv : NotNegative v) {n : Nat}
    {f : Int} (pos : 0 < n) (fits : Fits n f) (greatest : f ≤ 971)
    (reached : units n f ≤ unitsOf u + unitsOf v) :
    encoded n f ≤ (UnpackedFloat.pack .binary64 (UnpackedFloat.add .binary64 u v)).toNat := by
  have small : encoded n f ≤ 2047 * 2 ^ 52 := by
    have narrow := fits.narrow
    have least := fits.least
    unfold encoded
    omega
  have positive := units_pos pos f
  have infinite : (UnpackedFloat.pack .binary64 (.infinity .positive)).toNat = 2047 * 2 ^ 52 := rfl
  -- A single positive number reaches no more than itself.
  have alone {m : Nat} {e : Int} (hm : 0 < m) (h : Fits m e) (bound : e ≤ 971)
      (below : units n f ≤ units m e) :
      encoded n f ≤ (UnpackedFloat.pack .binary64 (.finite .positive m e hm)).toNat := by
    rw [toNat_pack_of_notNegative (.finite hm h bound)]
    exact encoded_le_encoded fits h (Nat.lt_of_le_of_lt below (units_lt_succ m e))
  cases hu with
  | infinity =>
    cases hv <;> exact small.trans infinite.ge
  | zero =>
    cases hv with
    | infinity => exact small.trans infinite.ge
    | zero => exact absurd reached (Nat.not_le.mpr positive)
    | finite hm h bound => exact alone hm h bound (by simpa [unitsOf] using reached)
  | finite hm h bound =>
    cases hv with
    | infinity => exact small.trans infinite.ge
    | zero => exact alone hm h bound (by simpa [unitsOf] using reached)
    | finite hm' h' bound' =>
      obtain ⟨k, g, hk, least, sum, added⟩ := add_finite hm hm' h.least h'.least
      obtain ⟨m', e', pos', rounded, fits', larger⟩ := round_ge .positive hk least
      rw [added, rounded, toNat_pack pos' fits']
      apply Nat.le_min.mpr
      constructor
      · exact larger n f fits (reached.trans sum.ge)
      · exact small

theorem pack_add_le {u v : UnpackedFloat} (hu : NotNegative u) (hv : NotNegative v) :
    (UnpackedFloat.pack .binary64 (UnpackedFloat.add .binary64 u v)).toNat ≤ 2047 * 2 ^ 52 := by
  have infinite : (UnpackedFloat.pack .binary64 (.infinity .positive)).toNat = 2047 * 2 ^ 52 := rfl
  have finite {m : Nat} {e : Int} (hm : 0 < m) (h : Fits m e) :
      (UnpackedFloat.pack .binary64 (.finite .positive m e hm)).toNat ≤ 2047 * 2 ^ 52 := by
    rw [toNat_pack hm h]
    exact Nat.min_le_right _ _
  cases hu with
  | infinity => cases hv <;> exact infinite.le
  | zero =>
    cases hv with
    | infinity => exact infinite.le
    | zero => exact Nat.zero_le _
    | finite hm h _ => exact finite hm h
  | finite hm h _ =>
    cases hv with
    | infinity => exact infinite.le
    | zero => exact finite hm h
    | finite hm' h' _ =>
      obtain ⟨k, g, hk, least, sum, added⟩ := add_finite hm hm' h.least h'.least
      obtain ⟨m', e', pos', rounded, fits', _⟩ := round_ge .positive hk least
      rw [added, rounded]
      exact finite pos' fits'

theorem rank_add {x y : Float} (hx : NotNegative x.toModel.unpack)
    (hy : NotNegative y.toModel.unpack) :
    rank (x + y) = (UnpackedFloat.pack .binary64
      (UnpackedFloat.add .binary64 x.toModel.unpack y.toModel.unpack)).toNat := by
  have low := pack_add_le hx hy
  have same : bits (x + y) = (UnpackedFloat.pack .binary64
      (UnpackedFloat.add .binary64 x.toModel.unpack y.toModel.unpack)).toNat := rfl
  rw [rank_eq_bits, same, if_pos (by omega)]

theorem isNaN_add {x y : Float} (hx : NotNegative x.toModel.unpack)
    (hy : NotNegative y.toModel.unpack) : (x + y).isNaN = false := by
  by_contra nan
  rw [Bool.not_eq_false] at nan
  have behind := rank_of_isNaN nan
  have low := pack_add_le hx hy
  rw [rank_add hx hy] at behind
  omega

theorem unpack_of_isNaN {x : Float} (h : x.isNaN = true) : x.toModel.unpack = .notANumber := by
  change x.toModel.unpack.isNaN = true at h
  cases hx : x.toModel.unpack with
  | notANumber => rfl
  | _ =>
    rw [hx] at h
    cases h

theorem add_of_isNaN {x : Float} (h : x.isNaN = true) (y : Float) : x + y = x := by
  apply add_eq
  rw [unpack_of_isNaN h]
  rfl

/-- Adding a number that is not negative takes no number below itself. -/
theorem rank_le_rank_add {x y : Float} (hx : x.isNaN = false) (hy : y.isNaN = false)
    (hx' : 0 ≤ rank x) (hy' : 0 ≤ rank y) : rank y ≤ rank (x + y) := by
  obtain ⟨nx, -⟩ := notNegative_unpack hx hx'
  obtain ⟨ny, place⟩ := notNegative_unpack hy hy'
  rw [rank_add nx ny, place]
  generalize x.toModel.unpack = u at nx
  generalize y.toModel.unpack = v at ny
  cases ny with
  | infinity => cases nx <;> exact le_refl _
  | zero => exact Int.natCast_nonneg _
  | finite pos fits greatest =>
    apply Int.ofNat_le.mpr
    exact encoded_le_add nx (.finite pos fits greatest) pos fits greatest (Nat.le_add_left _ _)

theorem exists_next {m : Nat} {e : Int} (h : Fits m e) :
    ∃ n f, 0 < n ∧ Fits n f ∧ f ≤ e + 1 ∧ units n f = units (m + 1) e ∧
      encoded n f = encoded m e + 1 := by
  have least := h.least
  have narrow := h.narrow
  by_cases full : m + 1 = 2 ^ 53
  · refine ⟨2 ^ 52, e + 1, by decide, ?_, by omega, ?_, ?_⟩
    · constructor <;> omega
    · have digits : (e + 1 + 1074).toNat = (e + 1074).toNat + 1 := by omega
      rw [units, units, full, digits, Nat.pow_succ]
      ring
    · unfold encoded
      omega
  · refine ⟨m + 1, e, by omega, ?_, by omega, rfl, ?_⟩
    · constructor
      · exact least
      · omega
      · intro normal
        exact Nat.le_succ_of_le (h.wide normal)
    · unfold encoded
      omega

theorem unpack_thousand :
    (1000 : Float).toModel.unpack = .finite .positive 8796093022208000 (-43) (by decide) := rfl

theorem unitsOf_thousand :
    unitsOf (1000 : Float).toModel.unpack = units 8796093022208000 (-43) := by
  rw [unpack_thousand]
  rfl

/-- Below the 63rd binary digit no last digit is worth more than 512. -/
theorem units_one_le_thousand {e : Int} (low : e ≤ 9) :
    units 1 e ≤ units 8796093022208000 (-43) := by
  have room : (e + 1074).toNat ≤ 52 + (-43 + 1074 : Int).toNat := by omega
  rw [units, units, Nat.one_mul]
  generalize (-43 + 1074 : Int).toNat = k at room ⊢
  calc 2 ^ (e + 1074).toNat
      ≤ 2 ^ (52 + k) := Nat.pow_le_pow_right (by decide) room
    _ = 2 ^ 52 * 2 ^ k := Nat.pow_add 2 52 k
    _ ≤ 8796093022208000 * 2 ^ k := Nat.mul_le_mul_right _ (by decide)

theorem fits_thousand : Fits 8796093022208000 (-43) := by
  constructor <;> decide

theorem notNegative_thousand : NotNegative (1000 : Float).toModel.unpack := by
  rw [unpack_thousand]
  exact .finite _ fits_thousand (by decide)

/-- Where neighbouring doubles are less than a thousand apart, adding a thousand counts. -/
theorem rank_lt_rank_add_thousand {x : Float} (number : x.isNaN = false) (positive : 0 ≤ rank x)
    (scale : rank x < rank 4611686018427387904) : rank x < rank (x + 1000) := by
  have limit : rank 4611686018427387904 = 1085 * 2 ^ 52 := by decide
  have thousand := notNegative_thousand
  obtain ⟨nx, place⟩ := notNegative_unpack number positive
  rw [rank_add nx thousand, place]
  rw [limit, place] at scale
  generalize x.toModel.unpack = u at nx scale
  apply Int.ofNat_lt.mpr
  cases nx with
  | infinity =>
    simp only [magnitude] at scale
    omega
  | zero =>
    have reached : units 8796093022208000 (-43) ≤ unitsOf (.zero .positive) +
        unitsOf (1000 : Float).toModel.unpack := by
      rw [unitsOf_thousand]
      exact Nat.le_add_left _ _
    exact Nat.lt_of_lt_of_le (by decide)
      (encoded_le_add .zero thousand (by decide) fits_thousand (by decide) reached)
  | @finite m e pos hfits _ =>
    have wide := hfits.wide
    change ((encoded m e : Nat) : Int) < _ at scale
    have low : e ≤ 9 := by
      by_contra high
      have full := wide (by omega)
      unfold encoded at scale
      omega
    obtain ⟨n, f, hn, next, step, distance, behind⟩ := exists_next hfits
    have reached : units n f ≤ unitsOf (.finite .positive m e pos) +
        unitsOf (1000 : Float).toModel.unpack := by
      rw [distance, units_add, unitsOf_thousand]
      exact Nat.add_le_add_left (units_one_le_thousand low) _
    have larger := encoded_le_add (.finite pos hfits (by omega)) thousand hn next (by omega) reached
    show encoded m e < _
    omega

/-- At the next binary digit a thousand is lost. -/
example : (9223372036854775808 : Float) + 1000 = 9223372036854775808 := by decide

end Sums

end ServiceRoute.Number
