import ServiceRoute.Json.Value

/-! # Writing JSON

Values are written without blanks. In a text only the quote, the backslash and
the control characters are escaped.
-/

namespace ServiceRoute.Json

/-- A character inside a text. -/
def writeChar (c : Char) : List Char :=
  if c = '"' then ['\\', '"']
  else if c = '\\' then ['\\', '\\']
  else if c < ' ' then
    ['\\', 'u', '0', '0', Nat.digitChar (c.toNat / 16), Nat.digitChar (c.toNat % 16)]
  else [c]

def writeText (s : String) : String :=
  "\"" ++ String.ofList (s.toList.flatMap writeChar) ++ "\""

def writeNumber (n : JsonNumber) : String :=
  let digits := (if n.negative then "-" else "") ++ toString n.digits
  if n.whole then digits else digits ++ "e" ++ toString n.exponent

mutual

def write : Json → String
  | .null => "null"
  | .bool b => if b then "true" else "false"
  | .number n => writeNumber n
  | .text s => writeText (s.getD "")
  | .array items => "[" ++ ",".intercalate (writeItems items) ++ "]"
  | .object fields => "\x7b" ++ ",".intercalate (writeFields fields) ++ "\x7d"

def writeItems : List Json → List String
  | [] => []
  | item :: rest => write item :: writeItems rest

def writeFields : List (Option String × Json) → List String
  | [] => []
  | (name, value) :: rest => (writeText (name.getD "") ++ ":" ++ write value) :: writeFields rest

end

end ServiceRoute.Json
