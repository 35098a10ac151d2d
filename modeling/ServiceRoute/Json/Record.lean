import ServiceRoute.Json.Value

/-! # Records in JSON

A record is written as an object, or as an array of its fields in their order.
Of an object the fields that have no name here are passed over, and a field may
not be given twice.
-/

namespace ServiceRoute.Json

variable {α : Type}

/-- The values of the named fields, in the order of the names, `none` for one that
is not given. An array has to give at least the first `least` of them. -/
def fields? (names : List String) (least : Nat) : Json → Option (List (Option Json))
  | .array items =>
    if least ≤ items.length ∧ items.length ≤ names.length then
      some (items.map some ++ List.replicate (names.length - items.length) none)
    else none
  | .object members =>
    if members.all (·.1.isSome) ∧
        names.all fun name => members.countP (·.1 = some name) ≤ 1 then
      some <| names.map fun name => (members.find? (·.1 = some name)).map (·.2)
    else none
  | _ => none

def required (read : Json → Option α) (field : Option Json) : Option α :=
  field.bind read

/-- A field that has a default, but may not be null. -/
def defaulted (default : α) (read : Json → Option α) : Option Json → Option α
  | none => some default
  | some value => read value

def nullable (read : Json → Option α) : Json → Option (Option α)
  | .null => some none
  | value => some <$> read value

/-- A field that may be null or missing. -/
def optional (read : Json → Option α) : Option Json → Option (Option α) :=
  defaulted none (nullable read)

def string? : Json → Option String
  | .text s => s
  | _ => none

def float? : Json → Option Float
  | .number n => n.toFloat?
  | _ => none

/-- A whole number of at most 64 bits. -/
def word? : Json → Option Nat
  | .number n => n.toWord?
  | _ => none

def list? (read : Json → Option α) : Json → Option (List α)
  | .array items => items.mapM read
  | _ => none

/-- A name from a closed set, written as a text or as an object that gives it null. -/
def named? (ofName? : String → Option α) : Json → Option α
  | .text (some name) => ofName? name
  | .object [(some name, .null)] => ofName? name
  | _ => none

end ServiceRoute.Json
