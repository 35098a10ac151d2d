/-! # Punycode

A label that is not ASCII travels as ASCII: its ASCII characters first, then, for
every other character in ascending order, how far to go on from the character
before. These distances are numbers of variable length in base 36, the least
digit first; a digit below a threshold ends a number.
-/

namespace ServiceRoute.Web.Punycode

/-- The value of a letter or digit. -/
def digit? (c : Char) : Option Nat :=
  if 'a' ≤ c ∧ c ≤ 'z' then some (c.toNat - 'a'.toNat)
  else if 'A' ≤ c ∧ c ≤ 'Z' then some (c.toNat - 'A'.toNat)
  else if '0' ≤ c ∧ c ≤ '9' then some (c.toNat - '0'.toNat + 26)
  else none

/-- The threshold of the digit at a place, counted in steps of 36. -/
def threshold (place bias : Nat) : Nat :=
  if place ≤ bias then 1
  else if bias + 26 ≤ place then 26
  else place - bias

/-- Divides by 35 until the value is at most 455, and counts the divisions by 36. -/
def scaleDown (value count : Nat) : Nat × Nat :=
  if 455 < value then scaleDown (value / 35) (count + 36) else (value, count)
termination_by value
decreasing_by omega

/-- The bias for the next number, after `distance` led to a text of `length`. -/
def adapt (distance length : Nat) (first : Bool) : Nat :=
  let damped := if first then distance / 700 else distance / 2
  let (value, count) := scaleDown (damped + damped / length) 0
  count + 36 * value / (value + 38)

/-- What has been read: the text so far, the last character that was put in and
the position behind it, and the number under way. -/
structure Decoding where
  text : List Nat
  code : Nat := 128
  position : Nat := 0
  bias : Nat := 72
  distance : Nat := 0
  weight : Nat := 1
  place : Nat := 36

/-- Puts in the character that the finished number leads to. -/
def Decoding.insert (s : Decoding) : Option Decoding :=
  let length := s.text.length + 1
  let reached := s.position + s.distance
  let code := s.code + reached / length
  let position := reached % length
  if code.isValidChar then
    some { text := s.text.take position ++ code :: s.text.drop position
           code
           position := position + 1
           bias := adapt s.distance length (s.position = 0) }
  else none

/-- Reads one digit. Numbers have at most 32 bits. -/
def Decoding.step (s : Decoding) (c : Char) : Option Decoding := do
  let digit ← digit? c
  let least := threshold s.place s.bias
  let s := { s with distance := s.distance + digit * s.weight }
  if 0x100000000 ≤ s.position + s.distance then none
  else if digit < least then s.insert
  else
    let weight := s.weight * (36 - least)
    if 0x100000000 ≤ weight then none
    else some { s with weight, place := s.place + 36 }

/-- The ASCII characters in front of the last hyphen, and what is behind it. A
hyphen at the very front does not count. -/
def splitBasic (label : List Char) : List Char × List Char :=
  let digits := (label.reverse.takeWhile (· != '-')).reverse
  let basic := label.take (label.length - digits.length - 1)
  if basic.isEmpty then ([], label) else (basic, digits)

/-- The code points of the label that is written as `label`. -/
def decode? (label : List Char) : Option (List Nat) := do
  let (basic, digits) := splitBasic label
  let s ← digits.foldlM Decoding.step { text := basic.map Char.toNat }
  if s.place = 36 then some s.text else none

end ServiceRoute.Web.Punycode
