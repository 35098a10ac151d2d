import ServiceRoute.Text.Blank
import ServiceRoute.Text.Uppercase

/-! # Headings

The directions a bearing code names. Spelled-out words come first, so that
`SOUTHBOUND` does not count as north for its `N`; a code without any such word
names a direction by its letter.
-/

namespace ServiceRoute.Corridor

structure Heading where
  north : Bool
  south : Bool
  east : Bool
  west : Bool
deriving DecidableEq, Inhabited

namespace Heading

def none : Heading :=
  ⟨false, false, false, false⟩

/-- Whether `word` stands somewhere in `text`. -/
def mentions (word : List Char) : (text : List Char) → Bool
  | [] => word.isEmpty
  | c :: text => word.isPrefixOf (c :: text) || mentions word text

def ofWords (text : List Char) : Heading :=
  { north := mentions "NORTH".toList text
    south := mentions "SOUTH".toList text
    east := mentions "EAST".toList text
    west := mentions "WEST".toList text }

def ofLetters (text : List Char) : Heading :=
  { north := text.contains 'N'
    south := text.contains 'S'
    east := text.contains 'E'
    west := text.contains 'W' }

def ofBearing (bearing : String) : Heading :=
  let text := (Text.upper (Text.trim bearing)).toList
  let words := ofWords text
  if words = none then ofLetters text else words

end Heading

end ServiceRoute.Corridor
