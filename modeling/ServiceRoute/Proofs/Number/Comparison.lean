import Mathlib
import ServiceRoute.Number.TotalOrder

/-!
# Total order and numerical order

A double is its bits, and `rank` tells any two doubles apart. Between numbers the
lower rank is numerically at most the higher one: the bits below the sign, exponent
above mantissa, grow with the absolute value of the number.
-/

namespace ServiceRoute.Number

open Float.Model Float.Model.UnpackedFloat

def bits (x : Float) : Nat :=
  x.toBits.toNat

theorem bits_injective {x y : Float} (h : bits x = bits y) : x = y :=
  Float.toBits_inj.mp (UInt64.toNat.inj h)

theorem rank_eq_bits (x : Float) :
    rank x = if bits x < 2 ^ 63 then (bits x : Int) else 2 ^ 63 - 1 - (bits x : Int) := rfl

theorem rank_injective {x y : Float} (h : rank x = rank y) : x = y := by
  refine bits_injective ?_
  rw [rank_eq_bits, rank_eq_bits] at h
  split_ifs at h <;> omega

section Fields

variable (b : BitVec Format.binary64.numBits)

theorem toNat_unpackMantissa : (unpackMantissa b).toNat = b.toNat % 2 ^ 52 := by
  simp [unpackMantissa]

theorem toNat_unpackExponent : (unpackExponent b).toNat = b.toNat / 2 ^ 52 % 2 ^ 11 := by
  simp [unpackExponent, Nat.shiftRight_eq_div_pow]

theorem toNat_unpackSign : (unpackSign b).toNat = b.toNat / 2 ^ 63 % 2 := by
  simp [unpackSign, Nat.shiftRight_eq_div_pow]

theorem ofBitVec_unpackSign : Sign.ofBitVec (unpackSign b) =
    if b.toNat < 2 ^ 63 then .positive else .negative := by
  have value := toNat_unpackSign b
  have width : b.toNat < 2 ^ 64 := b.isLt
  split_ifs with h
  · have zero : unpackSign b = 0#1 := BitVec.eq_of_toNat_eq (by rw [value]; simp; omega)
    rw [zero]
    rfl
  · have one : unpackSign b = 1#1 := BitVec.eq_of_toNat_eq (by rw [value]; simp; omega)
    rw [one]
    rfl

end Fields

/-- The bits of a number below its sign. -/
def magnitude : UnpackedFloat → Nat
  | .infinity _ => 2047 * 2 ^ 52
  | .finite _ m e _ => (e + 1074).toNat * 2 ^ 52 + m
  | .zero _ | .notANumber => 0

def sign : UnpackedFloat → Sign
  | .infinity s | .zero s | .finite s _ _ _ => s
  | .notANumber => .positive

/-- The numbers that bit patterns stand for. Every mantissa is as wide as its exponent allows. -/
inductive Canonical : UnpackedFloat → Prop
  | infinity (s : Sign) : Canonical (.infinity s)
  | zero (s : Sign) : Canonical (.zero s)
  | finite (s : Sign) (m : Nat) (e : Int) (pos : 0 < m) (least : -1074 ≤ e) (greatest : e ≤ 971)
      (narrow : m < 2 ^ 53) (wide : -1074 < e → 2 ^ 52 ≤ m) : Canonical (.finite s m e pos)

/-- A bit pattern that is a number is the magnitude of that number below its sign. -/
theorem canonical_unpack {b : BitVec Format.binary64.numBits}
    (number : (unpack .binary64 b).isNaN = false) :
    Canonical (unpack .binary64 b) ∧
      sign (unpack .binary64 b) = Sign.ofBitVec (unpackSign b) ∧
      magnitude (unpack .binary64 b) = b.toNat % 2 ^ 63 := by
  have fields : b.toNat % 2 ^ 63 =
      (unpackExponent b).toNat * 2 ^ 52 + (unpackMantissa b).toNat := by
    rw [toNat_unpackExponent, toNat_unpackMantissa]
    omega
  have mantissa : (unpackMantissa b).toNat < 2 ^ 52 := (unpackMantissa b).isLt
  have exponent : (unpackExponent b).toNat < 2 ^ 11 := (unpackExponent b).isLt
  have bias : (Format.binary64.exponentBias + Format.binary64.mantissaBitsWithoutImplicit : Int) =
    1075 := rfl
  revert number
  rw [fields, UnpackedFloat.unpack]
  split
  · rename_i full
    split
    · rename_i empty
      intro _
      rw [full, empty]
      exact ⟨.infinity _, rfl, rfl⟩
    · intro number
      cases number
  · rename_i full
    split
    · rename_i least
      rw [least]
      split
      · rename_i empty
        intro _
        rw [empty]
        exact ⟨.zero _, rfl, rfl⟩
      · intro _
        rw [bias]
        exact ⟨.finite _ _ _ _ (by simp) (by simp) (by omega) (by simp), rfl, by simp [magnitude]⟩
    · rename_i least
      intro _
      have leading : (1#1 ++ unpackMantissa b).toNat = 2 ^ 52 + (unpackMantissa b).toNat := by
        rw [BitVec.toNat_append, ← Nat.shiftLeft_add_eq_or_of_lt (unpackMantissa b).isLt]
        rfl
      have notFull : (unpackExponent b).toNat ≠ 2047 := fun h => full (BitVec.eq_of_toNat_eq h)
      have notLeast : (unpackExponent b).toNat ≠ 0 := fun h => least (BitVec.eq_of_toNat_eq h)
      rw [bias]
      refine ⟨.finite _ _ _ _ (by omega) (by omega) (by omega) (by omega), rfl, ?_⟩
      simp only [magnitude, leading]
      omega

/-- A number as a whole number: its magnitude with its sign. -/
def signedMagnitude (u : UnpackedFloat) : Int :=
  (sign u).apply (magnitude u)

/-- Between finite numbers of one sign the exponent decides before the mantissa. -/
theorem magnitude_le_iff {m m' : Nat} {e e' : Int} {s s' : Sign} {pos : 0 < m} {pos' : 0 < m'}
    (h : Canonical (.finite s m e pos)) (h' : Canonical (.finite s' m' e' pos')) :
    magnitude (.finite s m e pos) ≤ magnitude (.finite s' m' e' pos') ↔
      ((compare e e').then (compare m m')).isLE := by
  rw [Ordering.isLE_then_iff_or, Int.compare_eq_lt, Int.compare_eq_eq, Nat.isLE_compare]
  cases h with
  | finite _ _ _ _ least greatest narrow wide =>
    cases h' with
    | finite _ _ _ _ least' greatest' narrow' wide' =>
      simp only [magnitude]
      omega

theorem magnitude_finite_pos {s : Sign} {m : Nat} {e : Int} (pos : 0 < m) :
    0 < magnitude (.finite s m e pos) := by
  simp only [magnitude]
  omega

theorem magnitude_finite_lt {s : Sign} {m : Nat} {e : Int} {pos : 0 < m}
    (h : Canonical (.finite s m e pos)) : magnitude (.finite s m e pos) < 2047 * 2 ^ 52 := by
  cases h with
  | finite _ _ _ _ least greatest narrow wide =>
    simp only [magnitude]
    omega

theorem magnitude_le {u : UnpackedFloat} (h : Canonical u) : magnitude u ≤ 2047 * 2 ^ 52 := by
  cases u with
  | notANumber => exact Nat.zero_le _
  | infinity s => exact Nat.le_refl _
  | zero s => exact Nat.zero_le _
  | finite s m e pos => exact (magnitude_finite_lt h).le

theorem signedMagnitude_infinity (s : Sign) :
    signedMagnitude (.infinity s) = s.apply (2047 * 2 ^ 52 : Nat) := rfl

theorem signedMagnitude_zero (s : Sign) : signedMagnitude (.zero s) = 0 := by
  cases s <;> rfl

theorem signedMagnitude_finite (s : Sign) {m : Nat} {e : Int} (pos : 0 < m) :
    signedMagnitude (.finite s m e pos) = s.apply (magnitude (.finite s m e pos)) := rfl

theorem le_iff_finite_infinity {s t : Sign} {m : Nat} {e : Int} {pos : 0 < m}
    (h : Canonical (.finite s m e pos)) :
    (UnpackedFloat.le (.finite s m e pos) (.infinity t) = true ↔
      signedMagnitude (.finite s m e pos) ≤ signedMagnitude (.infinity t)) ∧
    (UnpackedFloat.le (.infinity t) (.finite s m e pos) = true ↔
      signedMagnitude (.infinity t) ≤ signedMagnitude (.finite s m e pos)) := by
  have inside := magnitude_finite_lt h
  rw [signedMagnitude_infinity, signedMagnitude_finite]
  cases s <;> cases t <;> simp [UnpackedFloat.le, UnpackedFloat.compare, Sign.apply] <;> omega

theorem le_iff_finite_zero {s t : Sign} {m : Nat} {e : Int} (pos : 0 < m) :
    (UnpackedFloat.le (.finite s m e pos) (.zero t) = true ↔
      signedMagnitude (.finite s m e pos) ≤ signedMagnitude (.zero t)) ∧
    (UnpackedFloat.le (.zero t) (.finite s m e pos) = true ↔
      signedMagnitude (.zero t) ≤ signedMagnitude (.finite s m e pos)) := by
  have beyond := magnitude_finite_pos (s := s) (e := e) pos
  rw [signedMagnitude_zero, signedMagnitude_finite]
  cases s <;> cases t <;> simp [UnpackedFloat.le, UnpackedFloat.compare, Sign.apply] <;> omega

theorem le_iff_finite {s t : Sign} {m m' : Nat} {e e' : Int} {pos : 0 < m} {pos' : 0 < m'}
    (h : Canonical (.finite s m e pos)) (h' : Canonical (.finite t m' e' pos')) :
    UnpackedFloat.le (.finite s m e pos) (.finite t m' e' pos') = true ↔
      signedMagnitude (.finite s m e pos) ≤ signedMagnitude (.finite t m' e' pos') := by
  have beyond := magnitude_finite_pos (s := s) (e := e) pos
  have beyond' := magnitude_finite_pos (s := t) (e := e') pos'
  rw [signedMagnitude_finite, signedMagnitude_finite]
  cases s with
  | negative =>
    cases t with
    | negative =>
      show ((compare e e').then (compare m m')).swap.isLE = true ↔ _
      rw [Ordering.swap_then, Int.compare_swap, Nat.compare_swap, ← magnitude_le_iff h' h]
      simp only [Sign.apply]
      omega
    | positive => simp [UnpackedFloat.le, UnpackedFloat.compare, Sign.apply]
  | positive =>
    cases t with
    | negative =>
      simp [UnpackedFloat.le, UnpackedFloat.compare, Sign.apply]
      omega
    | positive =>
      show ((compare e e').then (compare m m')).isLE = true ↔ _
      rw [← magnitude_le_iff h h']
      simp only [Sign.apply]
      omega

/-- Numbers are compared by their signed magnitudes. -/
theorem le_iff {u v : UnpackedFloat} (hu : Canonical u) (hv : Canonical v) :
    u.le v = true ↔ signedMagnitude u ≤ signedMagnitude v := by
  cases u with
  | notANumber => cases hu
  | infinity s =>
    cases v with
    | notANumber => cases hv
    | infinity t => cases s <;> cases t <;> decide
    | zero t => cases s <;> cases t <;> decide
    | finite t m e pos => exact (le_iff_finite_infinity hv).2
  | zero s =>
    cases v with
    | notANumber => cases hv
    | infinity t => cases s <;> cases t <;> decide
    | zero t => cases s <;> cases t <;> decide
    | finite t m e pos => exact (le_iff_finite_zero pos).2
  | finite s m e pos =>
    cases v with
    | notANumber => cases hv
    | infinity t => exact (le_iff_finite_infinity hu).1
    | zero t => exact (le_iff_finite_zero pos).1
    | finite t m' e' pos' => exact le_iff_finite hu hv

/-- The negative numbers are one place further down in the total order, below the negative zero. -/
theorem signedMagnitude_eq {x : Float} (number : x.isNaN = false) :
    signedMagnitude x.toModel.unpack = if rank x < 0 then rank x + 1 else rank x := by
  obtain ⟨-, hsign, hmagnitude⟩ := canonical_unpack number
  have width : bits x < 2 ^ 64 := x.toBits.toNat_lt
  have applied : signedMagnitude x.toModel.unpack =
      (if bits x < 2 ^ 63 then Sign.positive else Sign.negative).apply (bits x % 2 ^ 63 : Nat) :=
    congrArg₂ Sign.apply (hsign.trans (ofBitVec_unpackSign _)) (congrArg Nat.cast hmagnitude)
  rw [applied, rank_eq_bits]
  by_cases h : bits x < 2 ^ 63
  · simp only [h, if_true, Sign.apply]
    omega
  · simp only [h, if_false, Sign.apply]
    omega

theorem le_of_rank_le {x y : Float} (hx : x.isNaN = false) (hy : y.isNaN = false)
    (h : rank x ≤ rank y) : x ≤ y := by
  have ordered : signedMagnitude x.toModel.unpack ≤ signedMagnitude y.toModel.unpack := by
    rw [signedMagnitude_eq hx, signedMagnitude_eq hy]
    split_ifs <;> omega
  have compared := (le_iff (canonical_unpack hx).1 (canonical_unpack hy).1).mpr ordered
  show decide (_ = true) = true
  exact decide_eq_true compared

theorem eq_of_isNaN {x y : Float} (hx : x.isNaN = true) (hy : y.isNaN = true) : x = y := by
  rw [Float.isNaN_eq_decide_eq_nan, decide_eq_true_eq] at hx hy
  rw [hx, hy]

theorem rank_of_isNaN {x : Float} (h : x.isNaN = true) : rank x = 2047 * 2 ^ 52 + 2 ^ 51 := by
  have nan : Float.nan.isNaN = true := by decide
  rw [eq_of_isNaN h nan]
  decide

theorem rank_lt_of_isNaN {x y : Float} (number : x.isNaN = false) (nan : y.isNaN = true) :
    rank x < rank y := by
  obtain ⟨canonical, -, size⟩ := canonical_unpack number
  have bound := magnitude_le canonical
  change _ = bits x % 2 ^ 63 at size
  rw [rank_of_isNaN nan, rank_eq_bits]
  split_ifs <;> omega

theorem isNaN_eq_false_of_le {x y : Float} (h : x ≤ y) : x.isNaN = false ∧ y.isNaN = false := by
  have compared : x.toModel.unpack.le y.toModel.unpack = true := of_decide_eq_true h
  change x.toModel.unpack.isNaN = false ∧ y.toModel.unpack.isNaN = false
  generalize x.toModel.unpack = u at compared
  generalize y.toModel.unpack = v at compared
  cases u with
  | notANumber => cases compared
  | _ =>
    cases v with
    | notANumber => cases compared
    | _ => exact ⟨rfl, rfl⟩

theorem compare_swap (u v : UnpackedFloat) :
    v.compare u = (u.compare v).map Ordering.swap := by
  cases u with
  | notANumber => cases v <;> rfl
  | infinity s =>
    cases v with
    | notANumber => rfl
    | zero t => cases s <;> rfl
    | infinity t => cases s <;> cases t <;> rfl
    | finite t m e pos => cases s <;> rfl
  | zero s =>
    cases v with
    | notANumber => rfl
    | zero t => rfl
    | infinity t => cases t <;> rfl
    | finite t m e pos => cases t <;> rfl
  | finite s m e pos =>
    cases v with
    | notANumber => rfl
    | zero t => cases s <;> rfl
    | infinity t => cases t <;> rfl
    | finite t m' e' pos' =>
      cases s <;> cases t <;>
        simp [UnpackedFloat.compare, Ordering.swap_then, Int.compare_swap, Nat.compare_swap]

theorem isSome_compare {u v : UnpackedFloat} (hu : Canonical u) (hv : Canonical v) :
    (u.compare v).isSome := by
  cases hu with
  | infinity s => cases hv <;> cases s <;> rfl
  | zero s =>
    cases hv with
    | infinity t => cases t <;> rfl
    | zero t => rfl
    | finite t => cases t <;> rfl
  | finite s =>
    cases hv with
    | infinity t => cases t <;> rfl
    | zero t => cases s <;> rfl
    | finite t => cases s <;> cases t <;> rfl

theorem lt_iff_not_le {u v : UnpackedFloat} (hu : Canonical u) (hv : Canonical v) :
    u.lt v = true ↔ ¬ v.le u = true := by
  obtain ⟨o, compared⟩ := Option.isSome_iff_exists.mp (isSome_compare hu hv)
  rw [UnpackedFloat.lt, UnpackedFloat.le, compare_swap u v, compared]
  cases o <;> decide

theorem lt_iff {u v : UnpackedFloat} (hu : Canonical u) (hv : Canonical v) :
    u.lt v = true ↔ signedMagnitude u < signedMagnitude v := by
  rw [lt_iff_not_le hu hv, le_iff hv hu, not_le]

theorem le_iff_of_numbers {x y : Float} (hx : x.isNaN = false) (hy : y.isNaN = false) :
    x ≤ y ↔ signedMagnitude x.toModel.unpack ≤ signedMagnitude y.toModel.unpack := by
  have compared := le_iff (canonical_unpack hx).1 (canonical_unpack hy).1
  show decide (_ = true) = true ↔ _
  exact decide_eq_true_iff.trans compared

theorem lt_iff_of_numbers {x y : Float} (hx : x.isNaN = false) (hy : y.isNaN = false) :
    x < y ↔ signedMagnitude x.toModel.unpack < signedMagnitude y.toModel.unpack := by
  have compared := lt_iff (canonical_unpack hx).1 (canonical_unpack hy).1
  show decide (_ = true) = true ↔ _
  exact decide_eq_true_iff.trans compared

section Chains

variable {x y z : Float}

protected theorem le_of_lt (h : x < y) : x ≤ y := by
  have below : (x.toModel.unpack.compare y.toModel.unpack == some .lt) = true := of_decide_eq_true h
  have compared : x.toModel.unpack.le y.toModel.unpack = true := by
    rw [UnpackedFloat.le, eq_of_beq below]
    rfl
  exact decide_eq_true compared

protected theorem lt_of_le_of_lt (h : x ≤ y) (h' : y < z) : x < z := by
  obtain ⟨hx, hy⟩ := isNaN_eq_false_of_le h
  obtain ⟨-, hz⟩ := isNaN_eq_false_of_le (Number.le_of_lt h')
  rw [le_iff_of_numbers hx hy] at h
  rw [lt_iff_of_numbers hy hz] at h'
  rw [lt_iff_of_numbers hx hz]
  exact Int.lt_of_le_of_lt h h'

protected theorem lt_of_lt_of_le (h : x < y) (h' : y ≤ z) : x < z := by
  obtain ⟨hx, hy⟩ := isNaN_eq_false_of_le (Number.le_of_lt h)
  obtain ⟨-, hz⟩ := isNaN_eq_false_of_le h'
  rw [lt_iff_of_numbers hx hy] at h
  rw [le_iff_of_numbers hy hz] at h'
  rw [lt_iff_of_numbers hx hz]
  exact Int.lt_of_lt_of_le h h'

protected theorem lt_irrefl (x : Float) : ¬ x < x := by
  intro h
  obtain ⟨number, -⟩ := isNaN_eq_false_of_le (Number.le_of_lt h)
  rw [lt_iff_of_numbers number number] at h
  exact Int.lt_irrefl _ h

/-- Of two numbers the one that is not at most the other is above it. -/
protected theorem lt_of_not_le (hx : x.isNaN = false) (hy : y.isNaN = false) (h : ¬ x ≤ y) :
    y < x := by
  rw [le_iff_of_numbers hx hy] at h
  rw [lt_iff_of_numbers hy hx]
  exact Int.not_le.mp h

end Chains

section Finite

variable {x y : Float}

theorem not_lt_of_isNaN (h : x.isNaN = true) : ¬ x < y := by
  intro below
  rw [(isNaN_eq_false_of_le (Number.le_of_lt below)).1] at h
  cases h

theorem isNaN_of_isFinite (h : x.isFinite = true) : x.isNaN = false := by
  change x.toModel.unpack.isFinite = true at h
  show x.toModel.unpack.isNaN = false
  cases unpacked : x.toModel.unpack with
  | notANumber =>
    rw [unpacked] at h
    cases h
  | _ => rfl

theorem unpack_infinity : (1 / 0 : Float).toModel.unpack = .infinity .positive := rfl

theorem lt_infinity_iff (h : 0 ≤ x) : x < 1 / 0 ↔ x.isFinite = true := by
  obtain ⟨zero, number⟩ := isNaN_eq_false_of_le h
  have infinite : (1 / 0 : Float).isNaN = false := rfl
  have canonical : Canonical x.toModel.unpack := (canonical_unpack number).1
  rw [le_iff_of_numbers zero number] at h
  rw [lt_iff_of_numbers number infinite, unpack_infinity]
  change _ ↔ x.toModel.unpack.isFinite = true
  generalize x.toModel.unpack = u at h canonical
  cases canonical with
  | infinity s =>
    cases s with
    | negative => exact absurd h (by decide)
    | positive => decide
  | zero s => cases s <;> decide
  | finite s m e pos least greatest narrow wide =>
    have inside := magnitude_finite_lt (.finite s m e pos least greatest narrow wide)
    refine iff_of_true ?_ rfl
    rw [signedMagnitude_finite, signedMagnitude_infinity]
    cases s <;> simp only [Sign.apply] <;> omega

end Finite

end ServiceRoute.Number
