import ServiceRoute.Text.Hex

/-! # Percent escapes

Some characters cannot stand in the path or the query of a request. Each byte of
such a character is written as a percent sign and two hexadecimal digits. A
percent sign itself stays as it is, so that what is escaped already is not
escaped again.
-/

namespace ServiceRoute.Web

open Text

/-- The bytes of a character, each as a percent sign and two digits. -/
def escape (c : Char) : List Char :=
  (String.utf8EncodeChar c).flatMap fun byte =>
    ['%', hexDigit (byte.toNat / 16), hexDigit (byte.toNat % 16)]

/-- Control characters and whatever is not ASCII are escaped everywhere, and so
are blanks, quotes and angle brackets. -/
def isUnsafe (c : Char) : Bool :=
  c ≤ ' ' || '~' < c || c == '"' || c == '<' || c == '>'

/-- A path escapes braces and the grave accent too. -/
def isUnsafeInPath (c : Char) : Bool :=
  isUnsafe c || c == '\x60' || c == '\x7b' || c == '\x7d'

/-- A query escapes the apostrophe too. -/
def isUnsafeInQuery (c : Char) : Bool :=
  isUnsafe c || c == '\x27'

def escapeAll (p : Char → Bool) (cs : List Char) : List Char :=
  cs.flatMap fun c => if p c then escape c else [c]

/-- The bytes of a text, an escape standing for its byte. A percent sign without
two digits stands for itself. -/
def unescape : List Char → List UInt8
  | '%' :: a :: b :: rest =>
    match hexValue? a, hexValue? b with
    | some high, some low => UInt8.ofNat (16 * high + low) :: unescape rest
    | _, _ => '%'.toUInt8 :: unescape (a :: b :: rest)
  | c :: rest => String.utf8EncodeChar c ++ unescape rest
  | [] => []

end ServiceRoute.Web
