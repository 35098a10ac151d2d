import ServiceRoute.Override
import ServiceRoute.Store.Value

/-! # The override log

Overrides are added at the end and removed by id. Ids grow and are never used
again, not even that of the newest override after its removal.
-/

namespace ServiceRoute.Store

structure OverrideRow where
  id : Int
  pool : String
  stop : StopId
  kind : Recorded OverrideKind
  value : Option Float
  author : String
deriving DecidableEq, Inhabited

def OverrideRow.read (row : OverrideRow) : Except StoreError Override := do
  return ⟨row.pool, row.stop, ← row.kind.read .overrideKind, row.value⟩

structure OverrideLog where
  rows : List OverrideRow
  lastId : Int
deriving DecidableEq, Inhabited

namespace OverrideLog

def empty : OverrideLog :=
  ⟨[], 0⟩

def add (log : OverrideLog) (o : Override) (author : String) : OverrideLog :=
  let id := log.lastId + 1
  ⟨log.rows ++ [⟨id, o.pool, o.stop, .known o.kind, o.value.bind stored?, author⟩], id⟩

def delete (log : OverrideLog) (id : Int) : Bool × OverrideLog :=
  (log.rows.any (·.id = id), { log with rows := log.rows.filter (·.id ≠ id) })

/-- The overrides of a pool, in the order in which they were added. -/
def forPool (log : OverrideLog) (pool : String) : Except StoreError (List Override) :=
  (log.rows.filter (·.pool = pool)).mapM OverrideRow.read

end OverrideLog

end ServiceRoute.Store
