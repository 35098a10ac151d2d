import ServiceRoute.Json.Value
import ServiceRoute.Text.Hex

/-! # JSON tokens

The lexical part of reading JSON: brackets, separators, words, numbers and texts.
-/

namespace ServiceRoute.Json

inductive Token where
  | openArray
  | closeArray
  | openObject
  | closeObject
  | comma
  | colon
  | null
  | bool (value : Bool)
  | number (value : JsonNumber)
  | text (value : Option String)
deriving DecidableEq, Inhabited

/-- A character of a text, or a 16-bit unit that an escape names. -/
inductive TextPart where
  | char (c : Char)
  | unit (code : Nat)

def hexUnit? (digits : List Char) : Option Nat :=
  if digits.all Text.isHexDigit then some (Text.digitsValue 16 digits) else none

/-- The character behind a backslash, apart from `u`. -/
def escaped (c : Char) : Option Char :=
  match c with
  | '"' => some '"'
  | '\\' => some '\\'
  | '/' => some '/'
  | 'b' => some '\x08'
  | 'f' => some '\x0c'
  | 'n' => some '\n'
  | 'r' => some '\r'
  | 't' => some '\t'
  | _ => none

/-- The parts of a text up to its closing quote, and what follows the quote. -/
def scanText : List Char → Option (List TextPart × List Char)
  | [] => none
  | '"' :: rest => some ([], rest)
  | '\\' :: 'u' :: a :: b :: c :: d :: rest => do
    let unit ← hexUnit? [a, b, c, d]
    let (parts, rest) ← scanText rest
    return (.unit unit :: parts, rest)
  | '\\' :: c :: rest => do
    let c ← escaped c
    let (parts, rest) ← scanText rest
    return (.char c :: parts, rest)
  | c :: rest =>
    if c = '\\' ∨ c < ' ' then none
    else do
      let (parts, rest) ← scanText rest
      return (.char c :: parts, rest)

def isHighSurrogate (unit : Nat) : Bool :=
  0xD800 ≤ unit && unit < 0xDC00

def isLowSurrogate (unit : Nat) : Bool :=
  0xDC00 ≤ unit && unit < 0xE000

/-- Puts surrogate pairs together; fails when one half stands alone. -/
def joinParts : List TextPart → Option (List Char)
  | [] => some []
  | .char c :: rest => (c :: ·) <$> joinParts rest
  | .unit high :: .unit low :: rest =>
    if isHighSurrogate high && isLowSurrogate low then
      (Char.ofNat (0x10000 + (high - 0xD800) * 0x400 + (low - 0xDC00)) :: ·) <$> joinParts rest
    else if isHighSurrogate high || isLowSurrogate high then none
    else (Char.ofNat high :: ·) <$> joinParts (.unit low :: rest)
  | .unit code :: rest =>
    if isHighSurrogate code || isLowSurrogate code then none
    else (Char.ofNat code :: ·) <$> joinParts rest

/-- A row of digits, which must not be empty, and what follows it. -/
def scanDigits (cs : List Char) : Option (List Char × List Char) :=
  let digits := cs.takeWhile Char.isDigit
  if digits.isEmpty then none else some (digits, cs.dropWhile Char.isDigit)

def scanSign (cs : List Char) : Bool × List Char :=
  match cs with
  | '-' :: rest => (true, rest)
  | _ => (false, cs)

def scanFraction (cs : List Char) : Option (Option (List Char) × List Char) :=
  match cs with
  | '.' :: rest => do
    let (digits, rest) ← scanDigits rest
    return (some digits, rest)
  | _ => some (none, cs)

def scanExponent (cs : List Char) : Option (Option Int × List Char) :=
  match cs with
  | c :: rest =>
    if c = 'e' ∨ c = 'E' then do
      let (negative, rest) :=
        match rest with
        | '+' :: rest => (false, rest)
        | _ => scanSign rest
      let (digits, rest) ← scanDigits rest
      let power : Int := Nat.ofDigitChars 10 digits 0
      return (some (if negative then -power else power), rest)
    else some (none, cs)
  | [] => some (none, [])

/-- A number: no leading zeros, and digits on both sides of a point. -/
def scanNumber (cs : List Char) : Option (JsonNumber × List Char) := do
  let (negative, cs) := scanSign cs
  let (digits, cs) ← scanDigits cs
  if digits.head? = some '0' ∧ digits.length ≠ 1 then none
  else do
    let (fraction, cs) ← scanFraction cs
    let (power, cs) ← scanExponent cs
    let places := fraction.getD []
    return (⟨negative, Nat.ofDigitChars 10 (digits ++ places) 0,
      power.getD 0 - places.length, fraction.isNone && power.isNone⟩, cs)

/-- The first token of a text that begins with `c`, and what follows it. -/
def scanToken (c : Char) (rest : List Char) : Option (Token × List Char) :=
  match c with
  | '[' => some (.openArray, rest)
  | ']' => some (.closeArray, rest)
  | '{' => some (.openObject, rest)
  | '}' => some (.closeObject, rest)
  | ',' => some (.comma, rest)
  | ':' => some (.colon, rest)
  | 'n' => (word ['u', 'l', 'l']).map fun rest => (.null, rest)
  | 't' => (word ['r', 'u', 'e']).map fun rest => (.bool true, rest)
  | 'f' => (word ['a', 'l', 's', 'e']).map fun rest => (.bool false, rest)
  | '"' => (scanText rest).map fun (parts, rest) =>
    (.text ((joinParts parts).map String.ofList), rest)
  | c => (scanNumber (c :: rest)).map fun (n, rest) => (.number n, rest)
where
  word (letters : List Char) : Option (List Char) :=
    if letters.isPrefixOf rest then some (rest.drop letters.length) else none

def isSpace (c : Char) : Bool :=
  c == ' ' || c == '\t' || c == '\n' || c == '\r'

/-- The tokens of a text, at most `bound` of them. -/
def scanTokens : (bound : Nat) → List Char → Option (List Token)
  | bound, cs =>
    match cs.dropWhile isSpace with
    | [] => some []
    | c :: rest =>
      match bound with
      | 0 => none
      | bound + 1 => do
        let (token, rest) ← scanToken c rest
        let later ← scanTokens bound rest
        return token :: later

/-- All tokens of a text. Every token takes a character, so there are at most as
many as characters. -/
def tokens (text : String) : Option (List Token) :=
  let cs := text.toList
  scanTokens cs.length cs

end ServiceRoute.Json
