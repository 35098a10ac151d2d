import ServiceRoute.Selection.OverrideSet

/-! # Ranking

A stop is ranked by its effective score: its combined risk, plus its bumps, plus
a bonus that grows with the greatest risk of the set when it is force-included.
Equal scores fall back on hotspot weight, then urgency, then the id.
-/

namespace ServiceRoute.Selection

open Number

/-- A stop with the score it is ranked by. -/
structure Candidate where
  stop : Stop
  score : Score
deriving DecidableEq, Inhabited

/-- What force-inclusion adds beyond the greatest risk of the set. -/
def inclusionMargin : Float := 1000

/-- The greatest combined risk of the stops, at least zero. -/
def greatestRisk (stops : List Stop) : Float :=
  (stops.map (·.scores.combined)).foldl greater 0

def inclusionBonus (stops : List Stop) : Float :=
  greatestRisk stops + inclusionMargin

def effectiveScore (set : OverrideSet) (bonus : Float) (stop : Stop) : Score :=
  let organic := Score.ofFloat stop.scores.combined + set.bump stop.id
  if stop.id ∈ set.included then organic + .ofFloat bonus else organic

/-- Greater score first, then greater hotspot weight, greater urgency, lesser id. -/
def compareCandidates (a b : Candidate) : Ordering :=
  (b.score.compare a.score).then <|
    (compareTotal b.stop.scores.hotspot a.stop.scores.hotspot).then <|
      (compareTotal b.stop.scores.urgency a.stop.scores.urgency).then <|
        compare a.stop.id b.stop.id

def scored (set : OverrideSet) (stops : List Stop) : List Candidate :=
  let bonus := inclusionBonus stops
  stops.map fun stop => ⟨stop, effectiveScore set bonus stop⟩

def ranked (set : OverrideSet) (stops : List Stop) : List Candidate :=
  (scored set stops).mergeSort fun a b => (compareCandidates a b).isLE

end ServiceRoute.Selection
