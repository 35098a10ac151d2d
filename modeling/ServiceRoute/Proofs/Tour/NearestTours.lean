import ServiceRoute.Proofs.Number.Comparison
import ServiceRoute.Proofs.Planning.Outcome
import ServiceRoute.Tour.GreatCircle

/-!
# Nearest-neighbour tours

A nearest-neighbour tour visits every place once. From each place it goes on to the earliest of the
nearest places not yet visited; places at no finite distance do not attract it, and where there are
no others it takes them in their order. The search for the next place always hits one, so that the
tour loses none.
-/

namespace ServiceRoute.Tour

open Planning

section Search

variable {best d : Float × Nat} {found : List (Float × Nat)}

/-- The first of the least distances below that of `best`, with its position. -/
def firstLeast (best : Float × Nat) (found : List (Float × Nat)) : Float × Nat :=
  found.foldl (fun best d => if d.1 < best.1 then d else best) best

theorem nearest_eq (ceiling : Float) (distances : List Float) :
    nearest ceiling distances = (firstLeast (ceiling, 0) distances.zipIdx).2 := rfl

theorem firstLeast_of_lt (nearer : d.1 < best.1) :
    firstLeast best (d :: found) = firstLeast d found := by
  rw [firstLeast, List.foldl_cons, if_pos nearer]
  rfl

theorem firstLeast_of_not_lt (farther : ¬ d.1 < best.1) :
    firstLeast best (d :: found) = firstLeast best found := by
  rw [firstLeast, List.foldl_cons, if_neg farther]
  rfl

theorem firstLeast_mem (best : Float × Nat) (found : List (Float × Nat)) :
    firstLeast best found = best ∨
      firstLeast best found ∈ found ∧ (firstLeast best found).1 < best.1 := by
  induction found generalizing best with
  | nil => exact Or.inl rfl
  | cons d found ih =>
    by_cases nearer : d.1 < best.1
    · rw [firstLeast_of_lt nearer]
      refine Or.inr ?_
      rcases ih d with kept | ⟨later, below⟩
      · rw [kept]
        exact ⟨List.mem_cons_self, nearer⟩
      · exact ⟨List.mem_cons_of_mem d later,
          Number.lt_of_lt_of_le below (Number.le_of_lt nearer)⟩
    · rw [firstLeast_of_not_lt nearer]
      exact (ih best).imp_right fun later => ⟨List.mem_cons_of_mem d later.1, later.2⟩

/-- No distance is below the least one, and one that is as low does not stand before it. -/
theorem firstLeast_first (ordered : (best :: found).Pairwise fun d d' => d.2 ≤ d'.2) :
    ∀ d ∈ best :: found, ¬ d.1 < (firstLeast best found).1 ∧
      (d.1 ≤ (firstLeast best found).1 → (firstLeast best found).2 ≤ d.2) := by
  induction found generalizing best with
  | nil => simp [firstLeast, Number.lt_irrefl]
  | cons e found ih =>
    obtain ⟨front, ordered⟩ := List.pairwise_cons.mp ordered
    obtain ⟨front', ordered'⟩ := List.pairwise_cons.mp ordered
    intro d mem
    by_cases nearer : e.1 < best.1
    · rw [firstLeast_of_lt nearer]
      have rest := ih ordered
      rcases List.mem_cons.mp mem with rfl | mem
      · have beyond : ¬ d.1 ≤ (firstLeast e found).1 := fun le =>
          (rest e List.mem_cons_self).1 (Number.lt_of_lt_of_le nearer le)
        exact ⟨fun lt => beyond (Number.le_of_lt lt), fun le => absurd le beyond⟩
      · exact rest d mem
    · rw [firstLeast_of_not_lt nearer]
      have kept := ih (List.pairwise_cons.mpr
        ⟨fun d' mem' => front d' (List.mem_cons_of_mem e mem'), ordered'⟩)
      rcases List.mem_cons.mp mem with rfl | mem
      · exact kept d List.mem_cons_self
      · rcases List.mem_cons.mp mem with rfl | mem
        · rcases firstLeast_mem best found with same | ⟨-, below⟩
          · rw [same]
            exact ⟨nearer, fun _ => front d List.mem_cons_self⟩
          · have beyond : ¬ d.1 ≤ (firstLeast best found).1 := fun le =>
              nearer (Number.lt_of_le_of_lt le below)
            exact ⟨fun lt => beyond (Number.le_of_lt lt), fun le => absurd le beyond⟩
        · exact kept d (List.mem_cons_of_mem best mem)

variable {ceiling : Float} {distances : List Float}

theorem zipIdx_ordered (ceiling : Float) (distances : List Float) :
    ((ceiling, 0) :: distances.zipIdx).Pairwise fun d d' => d.2 ≤ d'.2 := by
  refine List.pairwise_cons.mpr ⟨fun d _ => Nat.zero_le d.2, ?_⟩
  rw [← List.pairwise_map (f := Prod.snd), List.zipIdx_map_snd]
  exact List.pairwise_le_range'

theorem nearest_of_lt {x : Float} (mem : x ∈ distances) (below : x < ceiling) :
    ∃ least, distances[nearest ceiling distances]? = some least ∧ least < ceiling ∧
      ∀ (k : Nat) y, distances[k]? = some y →
        ¬ y < least ∧ (y ≤ least → nearest ceiling distances ≤ k) := by
  have first : ∀ (k : Nat) y, distances[k]? = some y →
      ¬ y < (firstLeast (ceiling, 0) distances.zipIdx).1 ∧
        (y ≤ (firstLeast (ceiling, 0) distances.zipIdx).1 → nearest ceiling distances ≤ k) := by
    intro k y hy
    exact firstLeast_first (zipIdx_ordered ceiling distances) (y, k)
      (List.mem_cons_of_mem _ (List.mk_mem_zipIdx_iff_getElem?.mpr hy))
  rcases firstLeast_mem (ceiling, 0) distances.zipIdx with kept | later
  · obtain ⟨k, hk⟩ := List.mem_iff_getElem?.mp mem
    have notBelow := (first k x hk).1
    rw [kept] at notBelow
    exact absurd below notBelow
  · exact ⟨_, List.mem_zipIdx_iff_getElem?.mp later.1, later.2, first⟩

theorem nearest_of_not_lt (above : ∀ x ∈ distances, ¬ x < ceiling) :
    nearest ceiling distances = 0 := by
  rw [nearest_eq]
  rcases firstLeast_mem (ceiling, 0) distances.zipIdx with kept | later
  · rw [kept]
  · have listed := List.mem_zipIdx_iff_getElem?.mp later.1
    exact absurd later.2 (above _ (List.mem_of_getElem? listed))

theorem nearest_lt_length (ceiling : Float) (nonempty : distances ≠ []) :
    nearest ceiling distances < distances.length := by
  by_cases below : ∃ x ∈ distances, x < ceiling
  · obtain ⟨x, mem, below⟩ := below
    obtain ⟨least, found, -⟩ := nearest_of_lt mem below
    exact (List.getElem?_eq_some_iff.mp found).1
  · rw [nearest_of_not_lt (by simpa using below)]
    exact List.length_pos_of_ne_nil nonempty

end Search

section Next

variable {ι : Type} [LinearOrder ι]

/-- Of the places ahead, `next` is the earliest of those at the least finite distance, and the
earliest of all where no distance is finite. -/
structure GoesOn (distance : ι → Float) (ahead : ι → Prop) (next : ι) : Prop where
  unvisited : ahead next
  nearest : ∀ i, ahead i → (distance i).isFinite = true →
    (distance next).isFinite = true ∧ distance next ≤ distance i ∧
      (distance i ≤ distance next → next ≤ i)
  earliest : (∀ i, ahead i → (distance i).isFinite = false) → ∀ i, ahead i → next ≤ i

/-- The distances that occur: numbers that are not negative, infinity, and what is no number. -/
def IsDistance (x : Float) : Prop :=
  x.isNaN = true ∨ 0 ≤ x

theorem IsDistance.lt_infinity_iff {x : Float} (h : IsDistance x) :
    x < 1 / 0 ↔ x.isFinite = true := by
  rcases h with nan | notNegative
  · refine iff_of_false (Number.not_lt_of_isNaN nan) fun finite => ?_
    rw [Number.isNaN_of_isFinite finite] at nan
    cases nan
  · exact Number.lt_infinity_iff notNegative

variable {distance : ι → Float} {remaining : List ι} {next : ι}

theorem le_of_ordered (ordered : remaining.Pairwise (· < ·)) {j k : Nat} {i i' : ι}
    (hj : remaining[j]? = some i) (hk : remaining[k]? = some i') (h : j ≤ k) : i ≤ i' := by
  obtain ⟨hj', rfl⟩ := List.getElem?_eq_some_iff.mp hj
  obtain ⟨hk', rfl⟩ := List.getElem?_eq_some_iff.mp hk
  rcases Nat.lt_or_eq_of_le h with less | rfl
  · exact (List.pairwise_iff_getElem.mp ordered j k hj' hk' less).le
  · exact le_rfl

theorem goesOn_nearest (distances : ∀ i, IsDistance (distance i))
    (ordered : remaining.Pairwise (· < ·))
    (found : remaining[nearest (1 / 0) (remaining.map distance)]? = some next) :
    GoesOn distance (· ∈ remaining) next := by
  have measured : (remaining.map distance)[nearest (1 / 0) (remaining.map distance)]? =
      some (distance next) := by
    rw [List.getElem?_map, found, Option.map_some]
  refine ⟨List.mem_of_getElem? found, fun i mem finite => ?_, fun infinite i mem => ?_⟩
  · have below := (distances i).lt_infinity_iff.mpr finite
    obtain ⟨least, first, inside, others⟩ := nearest_of_lt (List.mem_map_of_mem mem) below
    obtain rfl : distance next = least := Option.some.inj (measured.symm.trans first)
    have finite' := (distances next).lt_infinity_iff.mp inside
    obtain ⟨k, hk⟩ := List.mem_iff_getElem?.mp mem
    have placed : (remaining.map distance)[k]? = some (distance i) := by
      rw [List.getElem?_map, hk, Option.map_some]
    obtain ⟨notBelow, behind⟩ := others k (distance i) placed
    refine ⟨finite', ?_, fun le => le_of_ordered ordered found hk (behind le)⟩
    by_contra notLe
    exact notBelow (Number.lt_of_not_le (Number.isNaN_of_isFinite finite')
      (Number.isNaN_of_isFinite finite) notLe)
  · have above : ∀ x ∈ remaining.map distance, ¬ x < 1 / 0 := by
      intro x hx below
      obtain ⟨i, mem, rfl⟩ := List.mem_map.mp hx
      rw [(distances i).lt_infinity_iff, infinite i mem] at below
      cases below
    obtain ⟨k, hk⟩ := List.mem_iff_getElem?.mp mem
    rw [nearest_of_not_lt above] at found
    exact le_of_ordered ordered found hk (Nat.zero_le k)

end Next

section Walk

variable {α β δ : Type} [LT δ] [DecidableLT δ] (ceiling : δ)

/-- A tour of the names of places is a tour of the places. -/
theorem tourFrom_map (distance : β → β → δ) (place : α → β) (current : α) (steps : Nat)
    (remaining : List α) :
    tourFrom ceiling distance (place current) steps (remaining.map place) =
      (tourFrom ceiling (fun a b => distance (place a) (place b)) current steps remaining).map
        place := by
  induction steps generalizing current remaining with
  | zero => rfl
  | succ steps ih =>
    simp only [tourFrom, List.map_map, Function.comp_def, List.getElem?_map]
    cases remaining[nearest ceiling
        (remaining.map fun a => distance (place current) (place a))]? with
    | none => rfl
    | some next =>
      simp only [Option.map_some, List.map_cons, List.eraseIdx_map, ih]

theorem nearestTour_map (distance : β → β → δ) (place : α → β) (places : List α) :
    nearestTour ceiling distance (places.map place) =
      (nearestTour ceiling (fun a b => distance (place a) (place b)) places).map place := by
  cases places with
  | nil => rfl
  | cons first rest =>
    simp only [nearestTour, List.map_cons, List.length_map, tourFrom_map]

end Walk

section Tours

variable {ι : Type} {distance : ι → ι → Float} {current : ι} {remaining : List ι}

theorem exists_tourFrom_succ (distance : ι → ι → Float) (current : ι) (nonempty : remaining ≠ [])
    (steps : Nat) :
    ∃ next, remaining[nearest (1 / 0) (remaining.map (distance current))]? = some next ∧
      tourFrom (1 / 0) distance current (steps + 1) remaining =
        next :: tourFrom (1 / 0) distance next steps
          (remaining.eraseIdx (nearest (1 / 0) (remaining.map (distance current)))) := by
  have measured : remaining.map (distance current) ≠ [] := List.map_eq_nil_iff.not.mpr nonempty
  have inside := nearest_lt_length (1 / 0) measured
  rw [List.length_map] at inside
  have found := List.getElem?_eq_getElem inside
  refine ⟨_, found, ?_⟩
  rw [tourFrom, found]

theorem tourFrom_perm (distance : ι → ι → Float) (current : ι) {steps : Nat}
    (count : remaining.length = steps) :
    (tourFrom (1 / 0) distance current steps remaining).Perm remaining := by
  induction steps generalizing current remaining with
  | zero =>
    rw [List.length_eq_zero_iff.mp count]
    exact List.Perm.refl []
  | succ steps ih =>
    have nonempty : remaining ≠ [] := List.ne_nil_of_length_eq_add_one count
    obtain ⟨next, found, onward⟩ := exists_tourFrom_succ distance current nonempty steps
    obtain ⟨inside, rfl⟩ := List.getElem?_eq_some_iff.mp found
    have count' := List.length_eraseIdx_of_lt inside
    rw [onward]
    exact ((ih _ (by omega)).cons _).trans (List.getElem_cons_eraseIdx_perm inside)

variable [LinearOrder ι]

/-- From every place the tour goes on to the nearest of those it has still to visit. -/
theorem goesOn_tourFrom (distances : ∀ i j, IsDistance (distance i j)) {steps : Nat}
    (count : remaining.length = steps) (ordered : remaining.Pairwise (· < ·))
    {visited later : List ι} {here next : ι}
    (split : current :: tourFrom (1 / 0) distance current steps remaining =
      visited ++ here :: next :: later) :
    GoesOn (distance here) (· ∈ next :: later) next := by
  induction steps generalizing current remaining visited with
  | zero =>
    have short := congrArg List.length split
    simp [tourFrom] at short
    omega
  | succ steps ih =>
    have nonempty : remaining ≠ [] := List.ne_nil_of_length_eq_add_one count
    have visits := tourFrom_perm distance current count
    obtain ⟨nearest, found, onward⟩ := exists_tourFrom_succ distance current nonempty steps
    cases visited with
    | nil =>
      obtain ⟨rfl, rest⟩ := List.cons.inj split
      rw [rest] at onward visits
      obtain ⟨rfl, -⟩ := List.cons.inj onward
      have same : (· ∈ next :: later) = (· ∈ remaining) :=
        funext fun i => propext visits.mem_iff
      rw [same]
      exact goesOn_nearest (distances current) ordered found
    | cons first visited =>
      have rest := (List.cons.inj split).2
      rw [onward] at rest
      have inside := (List.getElem?_eq_some_iff.mp found).1
      have count' := List.length_eraseIdx_of_lt inside
      exact ih (by omega) (ordered.sublist (List.eraseIdx_sublist _ _)) rest

end Tours

section Orders

variable {n : Nat} {distance : Fin n → Fin n → Float} {order order' : List (Fin n)}

/-- An order in which places are visited: each once, from the first one, and onward by distance. -/
structure IsNearestTour (distance : Fin n → Fin n → Float) (order : List (Fin n)) : Prop where
  each : order.Perm (List.finRange n)
  start : ∀ i ∈ order.head?, i.val = 0
  onward : ∀ visited here next later, order = visited ++ here :: next :: later →
    GoesOn (distance here) (fun i => i ∉ visited ∧ i ≠ here) next

theorem unvisited_iff {visited later : List (Fin n)} {here : Fin n}
    (each : (visited ++ here :: later).Perm (List.finRange n)) (i : Fin n) :
    i ∉ visited ∧ i ≠ here ↔ i ∈ later := by
  have listed : i ∈ visited ++ here :: later := each.mem_iff.mpr (List.mem_finRange i)
  have once : (visited ++ here :: later).Nodup := each.nodup_iff.mpr (List.nodup_finRange n)
  rw [List.mem_append, List.mem_cons] at listed
  rw [List.nodup_append', List.nodup_cons] at once
  obtain ⟨-, ⟨absent, -⟩, apart⟩ := once
  constructor
  · rintro ⟨unvisited, elsewhere⟩
    simpa [unvisited, elsewhere] using listed
  · intro ahead
    refine ⟨fun visited => apart visited (List.mem_cons_of_mem here ahead), ?_⟩
    rintro rfl
    exact absent ahead

/-- The walk over places in their order is a nearest-neighbour tour. -/
theorem isNearestTour_nearestTour (distances : ∀ i j, IsDistance (distance i j)) :
    IsNearestTour distance (nearestTour (1 / 0) distance (List.finRange n)) := by
  cases n with
  | zero => exact ⟨List.Perm.refl [], by simp [nearestTour], by simp [nearestTour]⟩
  | succ n =>
    have ordered := List.pairwise_lt_finRange (n + 1)
    have places : List.finRange (n + 1) = 0 :: (List.finRange n).map Fin.succ :=
      List.finRange_succ
    generalize (List.finRange n).map Fin.succ = rest at places
    have each : (nearestTour (1 / 0) distance (0 :: rest)).Perm (List.finRange (n + 1)) := by
      rw [places]
      exact (tourFrom_perm distance 0 rfl).cons 0
    rw [places] at ordered ⊢
    refine ⟨places ▸ each, by simp [nearestTour], fun visited here next later split => ?_⟩
    rw [split] at each
    have same : (fun i => i ∉ visited ∧ i ≠ here) = (· ∈ next :: later) :=
      funext fun i => propext (unvisited_iff each i)
    rw [same]
    exact goesOn_tourFrom distances rfl (List.pairwise_cons.mp ordered).2 split

theorem GoesOn.unique {ι : Type} [LinearOrder ι] {distance : ι → Float} {ahead : ι → Prop}
    {next next' : ι} (h : GoesOn distance ahead next) (h' : GoesOn distance ahead next') :
    next = next' := by
  by_cases infinite : ∀ i, ahead i → (distance i).isFinite = false
  · exact le_antisymm (h.earliest infinite next' h'.unvisited)
      (h'.earliest infinite next h.unvisited)
  · push Not at infinite
    obtain ⟨i, unvisited, finite⟩ := infinite
    rw [ne_eq, Bool.not_eq_false] at finite
    have one := h.nearest next' h'.unvisited (h'.nearest i unvisited finite).1
    have other := h'.nearest next h.unvisited (h.nearest i unvisited finite).1
    exact le_antisymm (one.2.2 other.2.1) (other.2.2 one.2.1)

/-- Two tours that have come to one place in the same way go on in the same way. -/
theorem IsNearestTour.later_unique (visited : List (Fin n)) {later later' : List (Fin n)}
    {here : Fin n} (h : IsNearestTour distance (visited ++ here :: later))
    (h' : IsNearestTour distance (visited ++ here :: later')) : later = later' := by
  have count : later.length = later'.length := by
    simpa using (h.each.trans h'.each.symm).length_eq
  induction later generalizing visited here later' with
  | nil => exact (List.length_eq_zero_iff.mp count.symm).symm
  | cons next later ih =>
    cases later' with
    | nil => cases count
    | cons next' later' =>
      obtain rfl := (h.onward visited here next later rfl).unique
        (h'.onward visited here next' later' rfl)
      rw [List.append_cons] at h h'
      rw [ih _ h h' (Nat.succ.inj count)]

/-- There is one nearest-neighbour tour. -/
theorem IsNearestTour.unique (h : IsNearestTour distance order)
    (h' : IsNearestTour distance order') : order = order' := by
  cases order with
  | nil => exact (List.perm_nil.mp (h'.each.trans h.each.symm)).symm
  | cons i later =>
    cases order' with
    | nil => exact List.perm_nil.mp (h.each.trans h'.each.symm)
    | cons i' later' =>
      obtain rfl : i = i' := Fin.ext ((h.start i rfl).trans (h'.start i' rfl).symm)
      have same : later = later' := IsNearestTour.later_unique [] h h'
      rw [same]

end Orders

section Trip

variable {σ : Type} {km : Coordinate → Coordinate → Float} {cost : Coordinate → Coordinate → Cost}
  {waypoints : List Waypoint}

theorem getElem?_legs_tripOfTour {tour : List Waypoint} {k : Nat} {a b : Waypoint}
    (ha : tour[k]? = some a) (hb : tour[k + 1]? = some b) :
    (tripOfTour cost tour).legs[k]? = some ⟨k, k + 1, cost a.location b.location⟩ := by
  have pair : (tour.zip tour.tail)[k]? = some (a, b) :=
    List.getElem?_zip_eq_some.mpr ⟨ha, by rwa [List.getElem?_tail]⟩
  rw [tripOfTour, Leg.getElem?_chain, List.getElem?_map, pair]
  rfl

theorem length_legs_tripOfTour (tour : List Waypoint) :
    (tripOfTour cost tour).legs.length = tour.length - 1 := by
  simp [tripOfTour, Leg.length_chain]

theorem total_tripOfTour (tour : List Waypoint) :
    (tripOfTour cost tour).total = .sum ((tripOfTour cost tour).legs.map (·.cost)) := by
  simp only [tripOfTour, Leg.map_cost_chain]

def kmBetween (km : Coordinate → Coordinate → Float) (waypoints : List Waypoint)
    (i j : Fin waypoints.length) : Float :=
  km waypoints[i].location waypoints[j].location

theorem exists_tour (cost : Coordinate → Coordinate → Cost)
    (distances : ∀ a b, IsDistance (km a b)) (enough : 2 ≤ waypoints.length) :
    ∃ order, IsNearestTour (kmBetween km waypoints) order ∧
      offlineTrip km cost waypoints = .ok (tripOfTour cost (order.map waypoints.get)) := by
  refine ⟨_, isNearestTour_nearestTour fun i j => distances _ _, ?_⟩
  have tour := nearestTour_map (1 / 0) (fun a b : Waypoint => km a.location b.location)
    waypoints.get (List.finRange waypoints.length)
  rw [List.map_get_finRange] at tour
  rw [offlineTrip, if_neg (Nat.not_lt.mpr enough)]
  exact congrArg (fun tour => Except.ok (tripOfTour cost tour)) tour

/-- Offline, a request for a trip through two or more waypoints is answered by the one
nearest-neighbour tour of their positions. It visits them without street and bearing, and between
consecutive ones it takes one leg, at the cost that a query for that leg is answered with. The
totals add up the legs in their order. -/
theorem offlineOracle_tours_nearest (cost : Coordinate → Coordinate → Cost)
    (distances : ∀ a b, IsDistance (km a b)) (enough : 2 ≤ waypoints.length)
    (source : TripSource) (world : σ) :
    ∃ (plan : TripPlan) (order : List (Fin waypoints.length)),
      ((offlineOracle km cost).planTrip waypoints source).outcome world = (.ok plan, world) ∧
      (∀ other, IsNearestTour (kmBetween km waypoints) other ↔ other = order) ∧
      plan.ordered = order.map (waypoints[·].withoutStreet) ∧
      plan.legs.length = waypoints.length - 1 ∧
      (∀ (k : Nat) a b, plan.ordered[k]? = some a → plan.ordered[k + 1]? = some b →
        ∃ hop, plan.legs[k]? = some ⟨k, k + 1, hop⟩ ∧ ∀ approach (world' : σ),
          ((offlineOracle km cost).legCost a b approach).outcome world' = (.ok hop, world')) ∧
      plan.total = .sum (plan.legs.map (·.cost)) := by
  obtain ⟨order, tour, planned⟩ := exists_tour cost distances enough
  refine ⟨tripOfTour cost (order.map waypoints.get), order, ?_, fun other => ?_, ?_, ?_,
    fun k a b ha hb => ?_, total_tripOfTour _⟩
  · rw [offlineOracle, outcome_liftM, planned]
  · constructor
    · exact fun h => h.unique tour
    · rintro rfl
      exact tour
  · simp [tripOfTour]
  · rw [length_legs_tripOfTour, List.length_map, tour.each.length_eq, List.length_finRange]
  · rw [tripOfTour, List.getElem?_map] at ha hb
    obtain ⟨a', ha', rfl⟩ := Option.map_eq_some_iff.mp ha
    obtain ⟨b', hb', rfl⟩ := Option.map_eq_some_iff.mp hb
    exact ⟨_, getElem?_legs_tripOfTour ha' hb', fun _ _ => rfl⟩

end Trip

/-! Five waypoints of which two are equally near, one is out of reach and one cannot be measured. -/

namespace Islands

/-- Stops of one latitude are on one island, and no way leads to another. -/
def km (a b : Coordinate) : Float :=
  if b.lat.isNaN then Float.nan
  else if a.lat = b.lat then 2
  else 1 / 0

def cost (a b : Coordinate) : Cost :=
  ⟨km a b * 1000, 60⟩

def visit (id : StopId) (lat : Float) : Waypoint :=
  ⟨⟨3, lat⟩, .stop id, some "Elm St", some "EB"⟩

def request : List Waypoint :=
  [.depot ⟨0, 0⟩, visit "Lost" Float.nan, visit "Far" 7, visit "A" 0, visit "B" 0]

theorem isDistance_km (a b : Coordinate) : IsDistance (km a b) := by
  unfold km
  split_ifs
  · exact Or.inl rfl
  · exact Or.inr (by decide)
  · exact Or.inr (by decide)

def order : List (Fin request.length) :=
  [⟨0, by decide⟩, ⟨3, by decide⟩, ⟨4, by decide⟩, ⟨1, by decide⟩, ⟨2, by decide⟩]

theorem offlineTrip_request :
    offlineTrip km cost request = .ok (tripOfTour cost (order.map request.get)) := by
  have tour : nearestTour (1 / 0 : Float) (fun a b => km a.location b.location) request =
      order.map request.get := by decide +kernel
  rw [offlineTrip, if_neg (by decide)]
  exact congrArg (fun tour => Except.ok (tripOfTour cost tour)) tour

theorem withoutStreet_injective :
    Function.Injective fun i : Fin request.length => request[i].withoutStreet := by
  decide +kernel

end Islands

/-- The two stops in reach come first, in their order, and then the others in theirs. -/
theorem offlineOracle_tours_nearest_islands :
    (∀ a b, IsDistance (Islands.km a b)) ∧ 2 ≤ Islands.request.length ∧
    IsNearestTour (kmBetween Islands.km Islands.request) Islands.order ∧
    ∃ plan, ((offlineOracle Islands.km Islands.cost).planTrip Islands.request .first).outcome () =
        (.ok plan, ()) ∧
      plan.ordered = Islands.order.map (Islands.request[·].withoutStreet) ∧
      plan.legs.length = 4 ∧ plan.total = .sum (plan.legs.map (·.cost)) := by
  have enough : 2 ≤ Islands.request.length := by decide
  obtain ⟨plan, order, answer, tours, visits, legs, -, total⟩ :=
    offlineOracle_tours_nearest Islands.cost Islands.isDistance_km enough .first ()
  have known := congrArg Prod.fst answer
  rw [offlineOracle, outcome_liftM, Islands.offlineTrip_request] at known
  obtain rfl := Except.ok.inj known
  have same : order = Islands.order := by
    apply List.map_injective_iff.mpr Islands.withoutStreet_injective
    rw [← visits, tripOfTour, List.map_map]
    rfl
  rw [← same]
  exact ⟨Islands.isDistance_km, enough, (tours order).mpr rfl, _, answer, visits, legs, total⟩

end ServiceRoute.Tour
