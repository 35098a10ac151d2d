import ServiceRoute.Text.Hex
import ServiceRoute.Text.Pieces

/-! # Tables of code points

Properties of characters are kept as text and read once. In a set, every word is
a code point or a range of them, such as `5F` or `41-5A`. In a map, `A8=20.308`
gives one code point a sequence, `BC=31.2044.34,,33` goes on with the code points
behind it, of which one is passed over here, and `41-5A>61` maps a range to the
range that begins at `61`.
-/

namespace ServiceRoute.Text

structure CodeRange where
  first : Nat
  last : Nat
deriving DecidableEq

namespace CodeRange

def holds (range : CodeRange) (code : Nat) : Bool :=
  range.first ≤ code && code ≤ range.last

def codes (range : CodeRange) : List Nat :=
  List.range' range.first (range.last + 1 - range.first)

def read (word : List Char) : CodeRange :=
  let ends := (pieces (· == '-') word).map (digitsValue 16)
  ⟨ends.headD 0, ends.getLastD 0⟩

end CodeRange

abbrev CodeSet := List CodeRange

namespace CodeSet

def read (text : String) : CodeSet :=
  (words text).map CodeRange.read

def codes (set : CodeSet) : List Nat :=
  set.flatMap CodeRange.codes

def holds (set : CodeSet) (code : Nat) : Bool :=
  set.any (·.holds code)

end CodeSet

/-- A code point and the sequence it is given. -/
abbrev CodeEntry := Nat × List Nat

/-- The entries of consecutive code points, the first of which is `first`. -/
def readSequences (first : Nat) (targets : List Char) : List CodeEntry :=
  ((pieces (· == ',') targets).zipIdx first).filterMap fun (target, code) =>
    if target.isEmpty then none
    else some (code, (pieces (· == '.') target).map (digitsValue 16))

/-- The entries of a range that is mapped to one of the same length. -/
def readShift (range : CodeRange) (target : Nat) : List CodeEntry :=
  range.codes.map fun code => (code, [target + (code - range.first)])

def readEntries (word : List Char) : List CodeEntry :=
  match pieces (· == '=') word, pieces (· == '>') word with
  | [first, targets], _ => readSequences (digitsValue 16 first) targets
  | _, [range, target] => readShift (CodeRange.read range) (digitsValue 16 target)
  | _, _ => []

/-- The entries of a map. -/
def readMap (text : String) : List CodeEntry :=
  (words text).flatMap readEntries

end ServiceRoute.Text
