/-! # Nearest-neighbour tours

A tour that starts at the first place and always goes on to the nearest place not
yet visited. The distance is any function; a distance that is not less than the
ceiling, or does not compare, never attracts the tour.
-/

namespace ServiceRoute.Tour

variable {α δ : Type} [LT δ] [DecidableLT δ]

/-- The earliest position of a least distance below `ceiling`, or position 0. -/
def nearest (ceiling : δ) (distances : List δ) : Nat :=
  (distances.zipIdx.foldl (fun best d => if d.1 < best.1 then d else best) (ceiling, 0)).2

/-- The places in the order of the tour, `current` being where it stands and
`steps` the number of places still to visit. -/
def tourFrom (ceiling : δ) (distance : α → α → δ) (current : α) :
    (steps : Nat) → (remaining : List α) → List α
  | 0, _ => []
  | steps + 1, remaining =>
    let slot := nearest ceiling (remaining.map (distance current))
    match remaining[slot]? with
    | some place => place :: tourFrom ceiling distance place steps (remaining.eraseIdx slot)
    | none => []

/-- The tour over all places, from the first. -/
def nearestTour (ceiling : δ) (distance : α → α → δ) : List α → List α
  | [] => []
  | first :: rest => first :: tourFrom ceiling distance first rest.length rest

end ServiceRoute.Tour
