/-! # Pieces

A row of characters cut at its separators. There is one piece more than there are
separators, so a row without any is a single piece.
-/

namespace ServiceRoute.Text

/-- The pieces between the elements that satisfy `p`. -/
def pieces {α : Type} (p : α → Bool) : List α → List (List α)
  | [] => [[]]
  | a :: rest =>
    match p a, pieces p rest with
    | true, later => [] :: later
    | false, first :: later => (a :: first) :: later
    | false, [] => [[a]]

def words (text : String) : List (List Char) :=
  (pieces Char.isWhitespace text.toList).filter (!·.isEmpty)

end ServiceRoute.Text
