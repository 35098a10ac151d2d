import ServiceRoute.Json.Token

/-! # Reading JSON

A pushdown automaton reads a value off its tokens. `State` says what has been
read and what may come next; the containers still open are a list of frames.
-/

namespace ServiceRoute.Json

/-- A container that waits for a value. What it already holds is in reverse order. -/
inductive Frame where
  | item (done : List Json)
  | member (done : List (Option String × Json)) (key : Option String)

inductive State where
  | value (frames : List Frame)
  | firstItem (frames : List Frame)
  | firstKey (frames : List Frame)
  | key (done : List (Option String × Json)) (frames : List Frame)
  | colon (done : List (Option String × Json)) (key : Option String) (frames : List Frame)
  | afterItem (done : List Json) (frames : List Frame)
  | afterMember (done : List (Option String × Json)) (frames : List Frame)
  | complete (value : Json)

/-- Gives a finished value to the innermost open container. -/
def supply (value : Json) : List Frame → State
  | [] => .complete value
  | .item done :: frames => .afterItem (value :: done) frames
  | .member done key :: frames => .afterMember ((key, value) :: done) frames

/-- The state after the first token of a value. -/
def begin (frames : List Frame) : Token → Option State
  | .null => some (supply .null frames)
  | .bool b => some (supply (.bool b) frames)
  | .number n => some (supply (.number n) frames)
  | .text s => some (supply (.text s) frames)
  | .openArray => some (.firstItem frames)
  | .openObject => some (.firstKey frames)
  | _ => none

def State.step : State → Token → Option State
  | .value frames, token => begin frames token
  | .firstItem frames, .closeArray => some (supply (.array []) frames)
  | .firstItem frames, token => begin (.item [] :: frames) token
  | .firstKey frames, .closeObject => some (supply (.object []) frames)
  | .firstKey frames, .text name => some (.colon [] name frames)
  | .key done frames, .text name => some (.colon done name frames)
  | .colon done name frames, .colon => some (.value (.member done name :: frames))
  | .afterItem done frames, .comma => some (.value (.item done :: frames))
  | .afterItem done frames, .closeArray => some (supply (.array done.reverse) frames)
  | .afterMember done frames, .comma => some (.key done frames)
  | .afterMember done frames, .closeObject => some (supply (.object done.reverse) frames)
  | _, _ => none

/-- The value a text consists of, blanks around it aside. -/
def parse? (text : String) : Option Json := do
  match ← (← tokens text).foldlM State.step (.value []) with
  | .complete value => some value
  | _ => none

end ServiceRoute.Json
