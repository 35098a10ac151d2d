/-! # First occurrences

`firstPer key` keeps the first element of every key, in the order of the list.
-/

namespace ServiceRoute.Selection

variable {α κ : Type} [DecidableEq κ]

def firstPer (key : α → κ) : List α → List α
  | [] => []
  | a :: rest => a :: (firstPer key rest).filter (key · ≠ key a)

def distinct (keys : List κ) : List κ :=
  firstPer id keys

theorem firstPer_sublist (key : α → κ) (xs : List α) : (firstPer key xs).Sublist xs := by
  induction xs with
  | nil => exact List.Sublist.slnil
  | cons a rest ih => exact (List.filter_sublist.trans ih).cons_cons a

end ServiceRoute.Selection
