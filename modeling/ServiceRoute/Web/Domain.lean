import ServiceRoute.Web.Composition
import ServiceRoute.Web.DomainTable
import ServiceRoute.Web.Escape
import ServiceRoute.Web.NumericHost
import ServiceRoute.Web.Punycode
import ServiceRoute.Web.ScriptTable

/-! # Domain names

A host that is not written in brackets is a domain name of any script. Its escapes
are resolved, its characters replaced by their common forms and composed, and its
labels, which dots separate, checked one by one: for characters that no host
contains, for marks without a letter, for joiners that join nothing, and, if
anything in the name runs from right to left, for a direction of their own. A
label in punycode is checked as what it stands for. A name that ends in a number
has to be a numeric address.
-/

namespace ServiceRoute.Web

open Text

abbrev Label := List Nat

section Characters

/-- What a character is replaced by, unless no domain name may be given with it. -/
def written? (code : Nat) : Option (List Nat) :=
  if leftOut.holds code then some []
  else if let some codes := replacements[code]? then some codes
  else if accepted.holds code then some [code]
  else none

/-- A text with its characters replaced and composed. -/
def normalize? (codes : List Nat) : Option (List Nat) :=
  (codes.mapM written?).map fun texts => compose texts.flatten

def isAscii (code : Nat) : Bool :=
  code < 0x80

/-- The characters that no label contains. -/
def isForbidden (code : Nat) : Bool :=
  code ≤ 0x20 || code == 0x7F || ("#%/:<>?@[\\]^|".toList.map Char.toNat).contains code

def isMark (code : Nat) : Bool :=
  nonspacingMarks.holds code || spacingMarks.holds code

end Characters

section Joiners

/-- The mark that takes the vowel from a consonant. -/
def isVirama (code : Nat) : Bool :=
  combiningClass code == 9

/-- The nearest letter satisfies `p`; marks are passed over. -/
def meets (p : Nat → Bool) (codes : List Nat) : Bool :=
  (codes.dropWhile nonspacingMarks.holds).head?.any p

/-- Letters on both sides that a non-joiner keeps apart. -/
def partsLetters (before behind : List Nat) : Bool :=
  meets (fun code => joinBehind.holds code || joinBoth.holds code) before &&
    meets (fun code => joinBefore.holds code || joinBoth.holds code) behind

/-- Every joiner stands behind a virama, or is a non-joiner that parts two letters.
What has been passed is in reverse order. -/
def joinersFit (passed : List Nat) : Label → Bool
  | [] => true
  | code :: rest =>
    ((code ≠ 0x200C && code ≠ 0x200D) || passed.head?.any isVirama ||
      code == 0x200C && partsLetters passed rest) &&
      joinersFit (code :: passed) rest

end Joiners

section Directions

/-- How a character takes part in the direction of a text. -/
inductive Direction where
  | leftToRight
  | rightToLeft
  | arabicNumber
  | europeanNumber
  | neutral
  | mark
deriving DecidableEq

def direction (code : Nat) : Direction :=
  if nonspacingMarks.holds code then .mark
  else if rightToLeft.holds code then .rightToLeft
  else if arabicNumbers.holds code then .arabicNumber
  else if europeanNumbers.holds code then .europeanNumber
  else if neutrals.holds code then .neutral
  else .leftToRight

/-- Whether a name with this character has to keep to directions. -/
def Direction.turns (d : Direction) : Bool :=
  d = .rightToLeft || d = .arabicNumber

/-- A label that runs from left to right, given its characters before the marks at
its end in reverse order. -/
def runsRight (reversed : List Direction) : Bool :=
  reversed.all (!·.turns) &&
    reversed.head?.any fun d => d = .leftToRight || d = .europeanNumber

/-- A label that runs from right to left has numbers of one kind. -/
def runsLeft (reversed : List Direction) : Bool :=
  reversed.all (· ≠ .leftToRight) &&
    (reversed.head?.any fun d => d.turns || d = .europeanNumber) &&
    !(reversed.contains .europeanNumber && reversed.contains .arabicNumber)

/-- A label runs in the direction of its first character. -/
def keepsDirection (label : Label) : Bool :=
  let directions := label.map direction
  let reversed := directions.reverse.dropWhile (· = .mark)
  match directions with
  | [] => true
  | .leftToRight :: _ => runsRight reversed
  | .rightToLeft :: _ => runsLeft reversed
  | _ => false

end Directions

section Labels

/-- How a label in punycode begins. -/
def punycodeMark : Label :=
  "xn--".toList.map Char.toNat

/-- The most letters and digits that a label may have behind its mark. -/
def longestPunycode : Nat := 2000

/-- The most characters of a label that is not ASCII. -/
def longestLabel : Nat := 1000

/-- What a label in punycode stands for. It is something that could not be written
in ASCII and that has no other spelling. -/
def decodePunycode? (label : Label) : Option Label := do
  let digits := label.drop punycodeMark.length
  let decoded ← Punycode.decode? (digits.map Char.ofNat)
  if digits.length ≤ longestPunycode && !decoded.all isAscii &&
      decoded.all (fun code => written? code = some [code]) && compose decoded = decoded &&
      !punycodeMark.isPrefixOf decoded then
    some decoded
  else none

def readLabel? (label : Label) : Option Label :=
  match punycodeMark.isPrefixOf label, label.all isAscii with
  | true, true => decodePunycode? label
  | true, false => none
  | false, true => some label
  | false, false => if label.length ≤ longestLabel then some label else none

def isLabel (label : Label) : Bool :=
  label.all (!isForbidden ·) && !label.head?.any isMark && joinersFit [] label

def labelsFit (labels : List Label) : Bool :=
  labels.all isLabel &&
    (!labels.any (·.any fun code => (direction code).turns) || labels.all keepsDirection)

end Labels

/-- The code points of a host as it is meant. -/
def meaning? (host : List Char) : Option (List Nat) := do
  let text ← String.fromUTF8? ⟨(unescape host).toArray⟩
  normalize? (text.toList.map Char.toNat)

/-- Whether a host can be asked for by this name. -/
def isDomain (host : List Char) : Bool :=
  match meaning? host with
  | none | some [] => false
  | some codes =>
    let labels := pieces (· == '.'.toNat) codes
    let numeric := labels.map (·.map Char.ofNat)
    (labels.mapM readLabel?).any labelsFit &&
      (!endsInNumber numeric || isShortAddress numeric)

end ServiceRoute.Web
