import ServiceRoute.Store.Services

/-!
# Outcomes of store operations

An operation on the store gives an answer and leaves a store.
-/

namespace ServiceRoute.Store

variable {α β : Type}

namespace Action

def outcome (act : Action α) (store : Store) : Except StoreError α × Store :=
  act.run.run store

@[simp] theorem outcome_pure (a : α) (s : Store) :
    (pure a : Action α).outcome s = (.ok a, s) := rfl

@[simp] theorem outcome_throw (e : StoreError) (s : Store) :
    (throw e : Action α).outcome s = (.error e, s) := rfl

@[simp] theorem outcome_liftM (answer : Except StoreError α) (s : Store) :
    (liftM answer : Action α).outcome s = (answer, s) := by
  cases answer <;> rfl

@[simp] theorem outcome_get (s : Store) : (get : Action Store).outcome s = (.ok s, s) := rfl

@[simp] theorem outcome_modify (f : Store → Store) (s : Store) :
    (modify f : Action Unit).outcome s = (.ok (), f s) := rfl

theorem outcome_bind (act : Action α) (f : α → Action β) (s : Store) :
    (act >>= f).outcome s =
      match act.outcome s with
      | (.ok a, s) => (f a).outcome s
      | (.error e, s) => (.error e, s) := by
  have open_bind : (act >>= f).outcome s =
      (ExceptT.bindCont f (act.outcome s).1).run (act.outcome s).2 := rfl
  rw [open_bind]
  cases act.outcome s with
  | mk answer s' => cases answer <;> rfl

end Action

open Store.Action

theorem outcome_insertRun (header : RunHeader) (total : Cost) (entries : List RouteEntry)
    (s : Store) : (insertRun header total entries).outcome s =
      match s.runs.insert header total entries with
      | .ok (id, runs) => (.ok id, { s with runs })
      | .error e => (.error e, s) := by
  unfold insertRun
  rw [outcome_bind, outcome_get]
  dsimp only
  rw [outcome_bind, outcome_liftM]
  cases s.runs.insert header total entries with
  | ok inserted => rfl
  | error e => rfl

end ServiceRoute.Store
