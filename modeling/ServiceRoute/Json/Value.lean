import ServiceRoute.Number.Decimal

/-! # JSON values

A JSON value keeps what reading it into a record depends on: the fields in their
order, repeated ones included, and a number as it was written.
-/

namespace ServiceRoute

/-- The number `digits * 10 ^ exponent`, negated when `negative`. It is `whole`
when it is written without a point and without an exponent. -/
structure JsonNumber where
  negative : Bool
  digits : Nat
  exponent : Int
  whole : Bool
deriving DecidableEq, Inhabited

/-- A text is `none` when its escapes leave half of a surrogate pair: it can be
passed over but not read. -/
inductive Json where
  | null
  | bool (value : Bool)
  | number (value : JsonNumber)
  | text (value : Option String)
  | array (items : List Json)
  | object (fields : List (Option String × Json))
deriving Inhabited

namespace JsonNumber

def ofNat (n : Nat) : JsonNumber :=
  ⟨false, n, 0, true⟩

def ofInt (n : Int) : JsonNumber :=
  ⟨n < 0, n.natAbs, 0, true⟩

/-- A double as 17 significant digits, which tell every double from its neighbours.
Infinities and values that are no number have no such form and become zero. -/
def ofFloat (x : Float) : JsonNumber :=
  match Number.Magnitude.ofFloat x with
  | .finite v =>
    let (digits, power) := v.leading 16
    ⟨v.negative, digits, power - 16, false⟩
  | _ => ⟨false, 0, 0, false⟩

/-- The nearest double; `none` for a number beyond the greatest one. -/
def toFloat? (n : JsonNumber) : Option Float :=
  let size := (Nat.toDigits 10 n.digits).length + n.exponent
  let magnitude : Float :=
    if n.digits = 0 ∨ size < -400 then 0
    else if 400 < size then 1 / 0
    else Float.ofScientific n.digits (n.exponent < 0) n.exponent.natAbs
  if magnitude.isInf then none
  else some (if n.negative then -magnitude else magnitude)

/-- The value of a whole number of at most 64 bits, written without a sign. -/
def toWord? (n : JsonNumber) : Option Nat :=
  if n.whole ∧ !n.negative ∧ n.digits < 0x10000000000000000 then some n.digits else none

def toInt? (n : JsonNumber) : Option Int :=
  if n.whole then some (if n.negative then -n.digits else n.digits) else none

end JsonNumber

namespace Json

def ofString (s : String) : Json :=
  .text (some s)

def ofOptString (s : Option String) : Json :=
  (s.map ofString).getD .null

def ofNat (n : Nat) : Json :=
  .number (.ofNat n)

def ofInt (n : Int) : Json :=
  .number (.ofInt n)

def ofFloat (x : Float) : Json :=
  .number (.ofFloat x)

def record (fields : List (String × Json)) : Json :=
  .object (fields.map fun (name, value) => (some name, value))

end Json

end ServiceRoute
