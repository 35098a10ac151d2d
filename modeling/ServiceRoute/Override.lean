import ServiceRoute.Stop

/-! # Overrides

An operator's standing instruction about one stop of one pool: always visit it,
never visit it, or raise its score.
-/

namespace ServiceRoute

inductive OverrideKind where
  | forceInclude
  | forceExclude
  | priorityBump
deriving DecidableEq, Inhabited

namespace OverrideKind

def name : OverrideKind → String
  | forceInclude => "FORCE_INCLUDE"
  | forceExclude => "FORCE_EXCLUDE"
  | priorityBump => "PRIORITY_BUMP"

def all : List OverrideKind :=
  [forceInclude, forceExclude, priorityBump]

def ofName? (text : String) : Option OverrideKind :=
  all.find? (·.name = text)

end OverrideKind

/-- The value counts only for a bump, where a missing one is zero. -/
structure Override where
  pool : String
  stop : StopId
  kind : OverrideKind
  value : Option Float
deriving DecidableEq, Inhabited

end ServiceRoute
