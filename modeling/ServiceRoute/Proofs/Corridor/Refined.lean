import ServiceRoute.Proofs.Corridor.OrderedPairs
import ServiceRoute.Proofs.Corridor.Regrouping
import ServiceRoute.Proofs.Corridor.Runs

/-!
# Refined routes

Refinement comes to regrouping and one sort of every run: the last pass finds every run
sorted already. A refined route has the signatures of the regrouped one at the same
positions, so that regrouping it again pulls nothing and every run is found again.
-/

namespace ServiceRoute.Corridor

open Number

theorem enforceSanity_refineRuns (threshold : Float) (route : List Waypoint) :
    enforceSanity threshold (refineRuns route) = refineRuns route := by
  unfold enforceSanity refineRuns
  rw [rearrange_rearrange sortRun_perm]
  congr 1
  funext corridor run
  exact correctRun_sortRun threshold corridor run

theorem refineRuns_refineRuns (route : List Waypoint) :
    refineRuns (refineRuns route) = refineRuns route := by
  unfold refineRuns
  rw [rearrange_rearrange sortRun_perm]
  congr 1
  funext corridor run
  exact sortRun_sortRun corridor run

theorem refine_eq (options : CorridorOptions) (route : List Waypoint) :
    refine options route = refineRuns (regroupWithin options.window route) :=
  enforceSanity_refineRuns _ _

theorem regroupWithin_refine (options : CorridorOptions) (route : List Waypoint) :
    regroupWithin options.window (refine options route) = refine options route := by
  have settled := settled_regroup signature options.window route
  have signatures : (refineRuns (regroupWithin options.window route)).map signature =
      (regroupWithin options.window route).map signature := map_key_rearrange sortRun_perm _
  rw [refine_eq]
  exact (settled.of_map_key signatures.symm).regroup_eq

theorem refine_refine (options : CorridorOptions) (route : List Waypoint) :
    refine options (refine options route) = refine options route := by
  rw [refine_eq options (refine options route), regroupWithin_refine, refine_eq,
    refineRuns_refineRuns]

/-- The refined routes are the settled ones that have every run in order. -/
theorem refine_eq_self_iff (options : CorridorOptions) (route : List Waypoint) :
    refine options route = route ↔ Settled signature options.window route ∧
      ∀ corridor before run after, route = before ++ run ++ after →
        IsRun signature corridor before run after → sortRun corridor run = run := by
  rw [← rearrange_eq_self_iff sortRun_perm]
  constructor
  · intro refined
    have regrouped := regroupWithin_refine options route
    rw [refined] at regrouped
    have settled := settled_regroup signature options.window route
    rw [refine_eq, regrouped] at refined
    exact ⟨regrouped ▸ settled, refined⟩
  · rintro ⟨settled, ordered⟩
    have regrouped : regroupWithin options.window route = route := settled.regroup_eq
    rw [refine_eq, regrouped]
    exact ordered

/-- Whether the heading names the direction in which the coordinates of the axis grow. -/
def Heading.rises (heading : Heading) : Axis → Bool
  | .lon => heading.east
  | .lat => heading.north

def Heading.falls (heading : Heading) : Axis → Bool
  | .lon => heading.west
  | .lat => heading.south

/-- A run in the order of its heading. `found` is the run before it was sorted. -/
structure RunOrder.Sorted (order : RunOrder) (heading : Heading) (found run : List Waypoint) :
    Prop where
  ordered : run.Pairwise fun a b => order.precedes a b = true
  stable : ∀ w, run.filter (order.ties w) = found.filter (order.ties w)
  numeric : (∀ w ∈ run, (order.axis.value w).isNaN = false) →
    if heading.rises order.axis then (run.map order.axis.value).Pairwise (· ≤ ·)
    else heading.falls order.axis = true ∧ (run.map order.axis.value).Pairwise (· ≥ ·)
  counted : (∀ w ∈ run, (order.axis.value w).isNaN = false) →
    order.orderedPairs run = run.length - 1

theorem RunOrder.resolve_eq_some {run : List Waypoint} {bearing : String} {order : RunOrder}
    (h : resolve run bearing = some order) :
    (Heading.ofBearing bearing).along order.axis = some order.direction := by
  cases run with
  | nil => cases h
  | cons first rest =>
    obtain ⟨direction, along, rfl⟩ := Option.map_eq_some_iff.mp h
    exact along

theorem Heading.along_eq_some {heading : Heading} {axis : Axis} {direction : Direction}
    (h : heading.along axis = some direction) :
    if heading.rises axis then direction = .ascending
    else heading.falls axis = true ∧ direction = .descending := by
  cases axis <;> simp only [along, rises, falls] at h ⊢ <;> split_ifs at h ⊢ <;> simp_all

theorem RunOrder.sorted_sort {found : List Waypoint} {bearing : String} {order : RunOrder}
    (h : resolve found bearing = some order) :
    order.Sorted (Heading.ofBearing bearing) found (order.sort found) := by
  have ordered := order.sort_pairwise found
  have inOrder : (∀ w ∈ order.sort found, (order.axis.value w).isNaN = false) →
      (order.sort found).Pairwise fun a b => order.inOrder a b = true := by
    intro numbers
    refine ordered.imp_of_mem fun ha hb => ?_
    exact order.inOrder_of_precedes (numbers _ ha) (numbers _ hb)
  refine ⟨ordered, order.filter_ties_sort found, fun numbers => ?_, fun numbers => ?_⟩
  · have direction := Heading.along_eq_some (resolve_eq_some h)
    have pairs := inOrder numbers
    rw [List.pairwise_map, List.pairwise_map]
    split_ifs at direction ⊢
    · simpa [RunOrder.inOrder, direction] using pairs
    · exact ⟨direction.1, by simpa [RunOrder.inOrder, direction.2] using pairs⟩
  · rw [orderedPairs_of_sorted ordered, numbers_of_forall numbers]

/-- Every run of a refined route whose bearing orders it stands in that order, equal stops as
regrouping left them. A run without an order, and a stop on no corridor, stands where regrouping
left it. -/
theorem refine_orders_runs (options : CorridorOptions) (route : List Waypoint) :
    (∀ corridor before run after, refine options route = before ++ run ++ after →
      IsRun signature corridor before run after →
      ∀ found, found =
        ((regroupWithin options.window route).drop before.length).take run.length →
      (∀ order, RunOrder.resolve run corridor.bearing = some order →
        order.Sorted (Heading.ofBearing corridor.bearing) found run) ∧
      (RunOrder.resolve run corridor.bearing = none → run = found)) ∧
    ∀ (i : Nat) (w : Waypoint), signature w = none →
      ((refine options route)[i]? = some w ↔
        (regroupWithin options.window route)[i]? = some w) := by
  rw [refine_eq]
  refine ⟨fun corridor before run after split isRun found hfound => ?_, fun i w unsigned =>
    getElem?_rearrange_iff sortRun_perm unsigned⟩
  have rewritten : run = sortRun corridor found := by
    rw [hfound]
    exact isRun.eq_of_rearrange sortRun_perm split
  have same := RunOrder.resolve_perm (sortRun_perm corridor found) corridor.bearing
  rw [← rewritten] at same
  constructor
  · intro order horder
    rw [same] at horder
    rw [sortRun_of_resolve horder] at rewritten
    rw [rewritten]
    exact RunOrder.sorted_sort horder
  · intro unordered
    rw [same] at unordered
    rwa [sortRun, unordered] at rewritten

namespace Elm

/-- Two stops on one westbound street, the more western first, and a stop off it between them. -/
def west : Waypoint := ⟨⟨2, 0⟩, .stop "A", some "Elm St", some "WB"⟩

def east : Waypoint := ⟨⟨3, 0⟩, .stop "B", some " elm st", some "wb"⟩

def between : Waypoint := ⟨⟨9, 5⟩, .stop "X", none, none⟩

def corridor : Signature := ⟨"ELM ST", "WB"⟩

theorem signature_west : signature west = some corridor := by decide

theorem signature_east : signature east = some corridor := by decide

theorem signature_between : signature between = none := by decide

theorem resolve_westward :
    RunOrder.resolve [west, east] corridor.bearing = some ⟨.lon, .descending⟩ := by
  decide

theorem resolve_eastward :
    RunOrder.resolve [east, west] corridor.bearing = some ⟨.lon, .descending⟩ := by
  decide

theorem sortRun_westward : sortRun corridor [west, east] = [east, west] := by
  rw [sortRun_of_resolve resolve_westward]
  have apart : RunOrder.precedes ⟨.lon, .descending⟩ west east = false := by decide
  simp [RunOrder.sort, List.mergeSort, List.MergeSort.Internal.splitInTwo, apart]

theorem regroupWithin_route :
    regroupWithin 8 [west, between, east] = [west, east, between] := by
  have pulled : pullForward signature 7 corridor [between, east] = [east, between] := by
    decide
  have left : pullForward signature 7 corridor [between] = [between] := by decide
  rw [regroupWithin, regroup_some signature_west, pulled, regroup_some signature_east, left,
    regroup_none signature_between, regroup]

theorem refine_route : refine {} [west, between, east] = [east, west, between] := by
  rw [refine_eq]
  change refineRuns (regroupWithin 8 _) = _
  have cut : segments signature [west, east, between] =
      [⟨some corridor, [west, east]⟩, ⟨none, [between]⟩] := by
    simp [segments, prepend, signature_west, signature_east, signature_between]
  rw [regroupWithin_route, refineRuns, rearrange, cut]
  simp [sortRun_westward]

theorem isRun_westward : IsRun signature corridor [] [east, west] [between] where
  nonempty := by simp
  keyed := by simp [signature_east, signature_west]
  left := by simp
  right := by simp [signature_between]

end Elm

/-- Both stops of the street are visited westward, and the stop off it stands where regrouping
left it. -/
theorem refine_orders_runs_elm :
    refine {} [Elm.west, Elm.between, Elm.east] = [] ++ [Elm.east, Elm.west] ++ [Elm.between] ∧
    IsRun signature Elm.corridor [] [Elm.east, Elm.west] [Elm.between] ∧
    RunOrder.Sorted ⟨.lon, .descending⟩ (Heading.ofBearing "WB")
      [Elm.west, Elm.east] [Elm.east, Elm.west] ∧
    signature Elm.between = none ∧
    (regroupWithin 8 [Elm.west, Elm.between, Elm.east])[2]? = some Elm.between := by
  have split : refine {} [Elm.west, Elm.between, Elm.east] =
      [] ++ [Elm.east, Elm.west] ++ [Elm.between] := by
    rw [Elm.refine_route]; rfl
  have found : [Elm.west, Elm.east] =
      ((regroupWithin 8 [Elm.west, Elm.between, Elm.east]).drop 0).take 2 := by
    rw [Elm.regroupWithin_route]; rfl
  have runs := refine_orders_runs {} [Elm.west, Elm.between, Elm.east]
  have sorted := (runs.1 _ _ _ _ split Elm.isRun_westward _ found).1 _ Elm.resolve_eastward
  have unsigned := (runs.2 2 Elm.between Elm.signature_between).mp (by rw [split]; rfl)
  exact ⟨split, Elm.isRun_westward, sorted, Elm.signature_between, unsigned⟩

end ServiceRoute.Corridor
