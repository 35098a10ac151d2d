import ServiceRoute.Override
import ServiceRoute.Selection.FirstOccurrence
import ServiceRoute.Selection.Score

/-! # The overrides of a pool

The overrides of one pool, gathered by kind. Included and excluded stops are
sets, listed in the order of their ids; the bumps of a stop add up in the order
in which they were given.
-/

namespace ServiceRoute.Selection

structure OverrideSet where
  included : List StopId
  excluded : List StopId
  bumps : List (StopId × Score)
deriving DecidableEq, Inhabited

namespace OverrideSet

/-- The stops that some override of the kind names, each once, in order of id. -/
def stopsOf (kind : OverrideKind) (overrides : List Override) : List StopId :=
  (distinct ((overrides.filter (·.kind = kind)).map (·.stop))).mergeSort fun a b => a ≤ b

/-- The bumps of one stop added up, starting at zero. -/
def bumpOf (overrides : List Override) (stop : StopId) : Score :=
  ((overrides.filter fun o => o.kind = .priorityBump ∧ o.stop = stop).map
    fun o => Score.ofFloat (o.value.getD 0)).foldl (· + ·) (.ofFloat 0)

def forPool (pool : String) (overrides : List Override) : OverrideSet :=
  let own := overrides.filter (·.pool = pool)
  { included := stopsOf .forceInclude own
    excluded := stopsOf .forceExclude own
    bumps := (stopsOf .priorityBump own).map fun stop => (stop, bumpOf own stop) }

def bump (set : OverrideSet) (stop : StopId) : Score :=
  (set.bumps.lookup stop).getD (.ofFloat 0)

end OverrideSet

end ServiceRoute.Selection
