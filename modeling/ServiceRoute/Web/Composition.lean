import ServiceRoute.Web.CompositionTable

/-! # Canonical composition

An accented letter can be one character or a letter with a mark behind it, and two
marks can stand in either order. `compose` gives the one spelling of a text in
which marks are ordered by their combining classes and every character that can
be composed with what is before it is composed.
-/

namespace ServiceRoute.Web

section Hangul

/-- The syllables come in the order of their leading consonants, then of their
vowels, then of their trailing consonants, of which the first is none at all. -/
def firstSyllable : Nat := 0xAC00

def firstLeading : Nat := 0x1100

def firstVowel : Nat := 0x1161

def noTrailing : Nat := 0x11A7

/-- The letters of a syllable. -/
def letters? (code : Nat) : Option (List Nat) :=
  if firstSyllable ≤ code ∧ code < firstSyllable + 19 * 21 * 28 then
    let place := code - firstSyllable
    let letters := [firstLeading + place / (21 * 28), firstVowel + place / 28 % 21]
    some (if place % 28 = 0 then letters else letters ++ [noTrailing + place % 28])
  else none

/-- The syllable of two letters, or of a syllable without a trailing consonant and
such a consonant. -/
def syllable? (first second : Nat) : Option Nat :=
  if firstLeading ≤ first ∧ first < firstLeading + 19 ∧
      firstVowel ≤ second ∧ second < firstVowel + 21 then
    some (firstSyllable + ((first - firstLeading) * 21 + (second - firstVowel)) * 28)
  else if firstSyllable ≤ first ∧ first < firstSyllable + 19 * 21 * 28 ∧
      (first - firstSyllable) % 28 = 0 ∧ noTrailing < second ∧ second < noTrailing + 28 then
    some (first + (second - noTrailing))
  else none

end Hangul

section Decomposition

def partsOf : Std.HashMap Nat (List Nat) :=
  Std.HashMap.ofList compositions

/-- The parts of a character that have no parts themselves. Only the first part of
a composed character can be composed again, and no character is composed more
than `depth` times over. -/
def parts (depth : Nat) (code : Nat) : List Nat :=
  match depth, partsOf[code]? with
  | depth + 1, some (first :: rest) => parts depth first ++ rest
  | _, _ => [code]

def decompose (code : Nat) : List Nat :=
  (letters? code).getD (parts 4 code)

def combiningClassOf : Std.HashMap Nat Nat :=
  Std.HashMap.ofList <| combiningClasses.flatMap fun (number, set) =>
    set.codes.map fun code => (code, number)

/-- The class that a mark is ordered by; zero for what is no such mark. -/
def combiningClass (code : Nat) : Nat :=
  combiningClassOf.getD code 0

/-- Puts a character behind those before it, which are in reverse order, a mark
behind the last one that is not of a greater class. -/
def place (code : Nat) : List Nat → List Nat
  | last :: before =>
    if 0 < combiningClass code ∧ combiningClass code < combiningClass last then
      last :: place code before
    else code :: last :: before
  | [] => [code]

end Decomposition

section Composition

def composedOf : Std.HashMap (List Nat) Nat :=
  Std.HashMap.ofList <| compositions.map fun (code, parts) => (parts, code)

/-- The character that is composed of two others. -/
def pair? (first second : Nat) : Option Nat :=
  (syllable? first second).or composedOf[[first, second]]?

/-- What has been composed: the character that later ones may join, the marks that
stayed behind it and all that is before it, both in reverse order. -/
structure Composing where
  before : List Nat
  base : Nat
  marks : List Nat

namespace Composing

/-- A mark joins the base unless one of its own class stands between, any other
character only if it is next to the base. -/
def add (s : Composing) (code : Nat) : Composing :=
  let reaches := s.marks.head?.all (combiningClass · < combiningClass code)
  match if reaches then pair? s.base code else none with
  | some joined => { s with base := joined }
  | none =>
    if combiningClass code = 0 then ⟨s.marks ++ s.base :: s.before, code, []⟩
    else { s with marks := code :: s.marks }

def toList (s : Composing) : List Nat :=
  (s.marks ++ s.base :: s.before).reverse

end Composing

def compose (codes : List Nat) : List Nat :=
  match ((codes.flatMap decompose).foldl (fun placed code => place code placed) []).reverse with
  | first :: rest => (rest.foldl Composing.add ⟨[], first, []⟩).toList
  | [] => []

end Composition

end ServiceRoute.Web
