/-! # The exact value of a double

A finite double is a whole number times a power of two. Rounding to decimal
digits starts from that exact value, never from an approximation.
-/

namespace ServiceRoute.Number

/-- The value `mantissa * 2 ^ exponent`, negated when `negative`. -/
structure Dyadic where
  negative : Bool
  mantissa : Nat
  exponent : Int
deriving DecidableEq

/-- A double is a number, an infinity or no number at all. -/
inductive Magnitude where
  | nan
  | infinite (negative : Bool)
  | finite (value : Dyadic)
deriving DecidableEq

/-- Reads the sign, the exponent and the fraction out of the 64 bits. -/
def Magnitude.ofBits (bits : Nat) : Magnitude :=
  let negative : Bool := decide (0x8000000000000000 ≤ bits)
  let exponent : Nat := bits / 0x10000000000000 % 2048
  let fraction : Nat := bits % 0x10000000000000
  if exponent = 2047 then
    if fraction = 0 then .infinite negative else .nan
  else if exponent = 0 then .finite ⟨negative, fraction, -1074⟩
  else .finite ⟨negative, fraction + 0x10000000000000, (exponent : Int) - 1075⟩

def Magnitude.ofFloat (x : Float) : Magnitude :=
  .ofBits x.toBits.toNat

/-- The value without its sign, times `scale`, as numerator and denominator. -/
def Dyadic.scaled (x : Dyadic) (scale : Nat) : Nat × Nat :=
  match x.exponent with
  | .ofNat e => (x.mantissa * Nat.pow 2 e * scale, 1)
  | .negSucc e => (x.mantissa * scale, Nat.pow 2 (e + 1))

end ServiceRoute.Number
