import ServiceRoute.Number.Binary

/-! # Decimal text of a double

Both notations write the exact value rounded to a fixed number of digits, a tie
going to the even neighbour. `fixed` has a set number of places after the point;
`scientific` has one digit before the point and an exponent.
-/

namespace ServiceRoute.Number

/-- The quotient rounded to the nearest whole number, a half to the even one. -/
def roundDiv (num den : Nat) : Nat :=
  let below := num / den
  let rest := num % den
  if 2 * rest < den then below
  else if den < 2 * rest then below + 1
  else if below % 2 = 0 then below
  else below + 1

/-- The digits of `n`, with zeros in front up to `width` digits. -/
def padded (width n : Nat) : List Char :=
  let digits := Nat.toDigits 10 n
  List.replicate (width - digits.length) '0' ++ digits

def signed (negative : Bool) (digits : List Char) : String :=
  String.ofList (if negative then '-' :: digits else digits)

def infinityText (negative : Bool) : String :=
  signed negative ['i', 'n', 'f']

/-- The digits of a finite value with `places` of them after the point. -/
def Dyadic.fixed (places : Nat) (x : Dyadic) : List Char :=
  let (num, den) := x.scaled (Nat.pow 10 places)
  let units := roundDiv num den
  let whole := units / Nat.pow 10 places
  Nat.toDigits 10 whole ++ '.' :: padded places (units % Nat.pow 10 places)

/-- Positional notation with `places` digits after the point. A zero keeps its sign. -/
def fixed (places : Nat) (x : Float) : String :=
  match Magnitude.ofFloat x with
  | .nan => "NaN"
  | .infinite negative => infinityText negative
  | .finite v => signed v.negative (v.fixed places)

/-- The power of ten of the leading digit of `num / den`. -/
def leadingPower (num den : Nat) : Int :=
  let guess := ((Nat.toDigits 10 num).length : Int) - (Nat.toDigits 10 den).length
  let reached : Bool :=
    match guess with
    | .ofNat g => den * Nat.pow 10 g ≤ num
    | .negSucc g => den ≤ num * Nat.pow 10 (g + 1)
  if reached then guess else guess - 1

/-- `num / den * 10 ^ power` rounded to a whole number. -/
def roundScaled (num den : Nat) (power : Int) : Nat :=
  match power with
  | .ofNat p => roundDiv (num * Nat.pow 10 p) den
  | .negSucc p => roundDiv num (den * Nat.pow 10 (p + 1))

/-- The digits and the power of ten of the leading one, `places + 1` digits in all. -/
def Dyadic.leading (places : Nat) (x : Dyadic) : Nat × Int :=
  if x.mantissa = 0 then (0, 0)
  else
    let (num, den) := x.scaled 1
    let power := leadingPower num den
    let digits := roundScaled num den (places - power)
    if digits = Nat.pow 10 (places + 1) then (Nat.pow 10 places, power + 1) else (digits, power)

/-- Scientific notation with `places` digits after the point; the exponent has
no plus sign and no leading zeros. -/
def scientific (places : Nat) (x : Float) : String :=
  match Magnitude.ofFloat x with
  | .nan => "NaN"
  | .infinite negative => infinityText negative
  | .finite v =>
    let (digits, power) := v.leading places
    let text := padded (places + 1) digits
    signed v.negative (text.take 1 ++ '.' :: text.drop 1) ++ "e" ++ toString power

end ServiceRoute.Number
