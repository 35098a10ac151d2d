import ServiceRoute.Text.Hex
import ServiceRoute.Text.Pieces

/-! # Numeric hosts

A host may be a number instead of a name. A short address has up to four parts,
in decimal, or in octal behind a zero, or in hexadecimal behind `0x`; the last
part stands for all bytes that are left. A long address, which is written in
brackets, has eight groups of four hexadecimal digits; two colons stand for any
number of zero groups, and the last two groups may be written as four octets.
-/

namespace ServiceRoute.Web

open Text

section Short

/-- The value of digits of one base. -/
def inBase? (base : Nat) (digits : List Char) : Option Nat :=
  if digits.all fun c => (hexValue? c).any (· < base) then some (digitsValue base digits)
  else none

def part? : List Char → Option Nat
  | [] => none
  | '0' :: 'x' :: digits => inBase? 16 digits
  | '0' :: c :: digits => inBase? 8 (c :: digits)
  | digits => inBase? 10 digits

/-- The labels without the empty one behind a dot at the end. -/
def withoutRoot (labels : List (List Char)) : List (List Char) :=
  if labels.getLast? = some [] then labels.dropLast else labels

/-- Whether the last label is a number, which makes a short address of the host. -/
def endsInNumber (labels : List (List Char)) : Bool :=
  match (withoutRoot labels).getLast? with
  | some label => (!label.isEmpty && label.all Char.isDigit) || (part? label).isSome
  | none => false

def isShortAddress (labels : List (List Char)) : Bool :=
  match (withoutRoot labels).mapM part? with
  | some parts =>
    parts.length ≤ 4 && parts.dropLast.all (· < 256) &&
      parts.getLast?.any (· < Nat.pow 256 (5 - parts.length))
  | none => false

end Short

section Long

/-- A decimal of at most 255 without leading zeros. -/
def isOctet (digits : List Char) : Bool :=
  !digits.isEmpty && digits.all Char.isDigit && digitsValue 10 digits < 256 &&
    (digits.head? ≠ some '0' || digits.length = 1)

def isQuad (cs : List Char) : Bool :=
  let octets := pieces (· == '.') cs
  octets.length = 4 && octets.all isOctet

def isGroup (cs : List Char) : Bool :=
  1 ≤ cs.length && cs.length ≤ 4 && cs.all isHexDigit

/-- The number of groups between colons. Only at the end of an address the last
two may be four octets. -/
def groups? (atEnd : Bool) (cs : List Char) : Option Nat :=
  let groups := pieces (· == ':') cs
  if cs.isEmpty then some 0
  else if groups.all isGroup then some groups.length
  else if atEnd && groups.dropLast.all isGroup && groups.getLast?.any isQuad then
    some (groups.length + 1)
  else none

/-- What stands before and behind the first two colons in a row. -/
def splitGap : List Char → Option (List Char × List Char)
  | ':' :: ':' :: rest => some ([], rest)
  | c :: rest => (splitGap rest).map fun (before, behind) => (c :: before, behind)
  | [] => none

def isLongAddress (cs : List Char) : Bool :=
  match splitGap cs with
  | none => groups? true cs = some 8
  | some (before, behind) =>
    match groups? false before, groups? true behind with
    | some m, some n => m + n < 8
    | _, _ => false

end Long

end ServiceRoute.Web
