import ServiceRoute.Proofs.Relocation.Positions

/-!
# The surveys of a pass

A pass surveys one anchor after the other, each time on the route that its pulls so far have led
to, until the anchors or the pulls are used up. `Passes` says so of the surveys of a pass that
succeeds, whatever happens in its world meanwhile. All else about a pass by positions follows from
that by induction, and from what a survey looks at.
-/

namespace ServiceRoute

namespace Planning

variable {σ ι α β : Type}

/-- Whatever the action finds satisfies `P`. It may find nothing. -/
def Finds (P : α → Prop) (act : OptionT (Planning σ) α) : Prop :=
  Ensures (fun found => ∀ a, found = some a → P a) act.run

theorem finds_pure {P : α → Prop} {a : α} (h : P a) : Finds P (pure a : OptionT (Planning σ) α) :=
  ensures_pure fun _ found => Option.some.inj found ▸ h

theorem finds_of_option (answer : Option α) :
    Finds (fun a => answer = some a) (.mk (pure answer) : OptionT (Planning σ) α) :=
  ensures_pure fun _ found => found

theorem finds_run (act : OptionT (Planning σ) α) :
    Finds (fun a => ∃ world world', act.run.outcome world = (.ok (some a), world')) act :=
  fun world _ world' run _ found => ⟨world, world', found ▸ run⟩

theorem Finds.bind {Q : α → Prop} {P : β → Prop} {act : OptionT (Planning σ) α}
    {f : α → OptionT (Planning σ) β} (first : Finds Q act) (next : ∀ a, Q a → Finds P (f a)) :
    Finds P (act >>= f) := by
  unfold Finds
  rw [OptionT.run_bind]
  refine Ensures.bind first fun found hfound => ?_
  cases found with
  | none => exact ensures_pure fun _ absurd => by cases absurd
  | some a => exact next a (hfound a rfl)

theorem Finds.and {P Q : α → Prop} {act : OptionT (Planning σ) α} (hP : Finds P act)
    (hQ : Finds Q act) : Finds (fun a => P a ∧ Q a) act :=
  fun _ _ _ run a found => ⟨hP run a found, hQ run a found⟩

theorem finds_mapM_pair (f : ι → OptionT (Planning σ) α) (xs : List ι) :
    Finds (fun pairs => pairs.map Prod.fst = xs) (xs.mapM fun x => return (x, ← f x)) := by
  induction xs with
  | nil => exact finds_pure rfl
  | cons x xs ih =>
    rw [List.mapM_cons]
    have first : Finds (fun pair => pair.1 = x) (do return (x, ← f x)) :=
      (finds_run (f x)).bind fun a _ => finds_pure rfl
    refine first.bind fun pair hpair => ih.bind fun pairs hpairs => finds_pure ?_
    rw [List.map_cons, hpair, hpairs]

end Planning

namespace Relocation

open Planning

variable {σ α δ : Type}

section Survey

variable [Add δ] [Sub δ]

/-- The survey was made on this route, in some world. -/
def Survey.Made (duration : α → α → Planning σ δ) (limits : Limits δ) (top : Nat)
    (route : List α) (survey : Survey δ) : Prop :=
  ∃ world world', (surveyAt duration limits top route survey.anchor).run.outcome world =
    (.ok (some survey), world')

theorem surveyAt_finds (duration : α → α → Planning σ δ) (limits : Limits δ) (top : Nat)
    (route : List α) (anchor : Nat) :
    Finds (fun survey => survey.anchor = anchor ∧
        survey.deltas.map Prod.fst = windowAt top limits.lookahead route.length anchor)
      (surveyAt duration limits top route anchor) :=
  (finds_mapM_pair _ _).bind fun _ hdeltas => finds_pure ⟨rfl, hdeltas⟩

theorem Survey.Made.positions {duration : α → α → Planning σ δ} {limits : Limits δ} {top : Nat}
    {route : List α} {survey : Survey δ} (h : survey.Made duration limits top route) :
    survey.deltas.map Prod.fst = windowAt top limits.lookahead route.length survey.anchor := by
  obtain ⟨world, world', run⟩ := h
  exact (surveyAt_finds duration limits top route survey.anchor run _ rfl).2

end Survey

section Pulls

variable [Neg δ] [LE δ] [LT δ] [DecidableLE δ] [DecidableLT δ]
variable {limits : Limits δ} {survey : Survey δ} {pull : Pull}

theorem pulls_cons_of_pull (leads : survey.pull? limits = some pull) (later : Surveyed α δ) :
    Surveyed.pulls limits ⟨later.stops, survey :: later.surveys⟩ = pull :: later.pulls limits :=
  List.filterMap_cons_some leads

theorem pulls_cons_of_stay (stays : survey.pull? limits = none) (later : Surveyed α δ) :
    Surveyed.pulls limits ⟨later.stops, survey :: later.surveys⟩ = later.pulls limits :=
  List.filterMap_cons_none stays

theorem anchor_of_pull? (leads : survey.pull? limits = some pull) :
    pull.anchor = survey.anchor := by
  obtain ⟨source, -, rfl⟩ := Option.map_eq_some_iff.mp leads
  rfl

end Pulls

section Pass

variable [Add δ] [Sub δ] [Neg δ] [LE δ] [LT δ] [DecidableLE δ] [DecidableLT δ]

/-- The surveys that a pass over these anchors may make, with `budget` pulls left. -/
inductive Passes (duration : α → α → Planning σ δ) (limits : Limits δ) (top : Nat) :
    List Nat → Nat → List α → Surveyed α δ → Prop
  | spent (anchors : List Nat) (route : List α) :
      Passes duration limits top anchors 0 route ⟨route, []⟩
  | done (budget : Nat) (route : List α) :
      Passes duration limits top [] budget route ⟨route, []⟩
  | pull {anchors : List Nat} {budget : Nat} {route moved : List α} {survey : Survey δ}
      {pull : Pull} {later : Surveyed α δ} (made : survey.Made duration limits top route)
      (leads : survey.pull? limits = some pull) (put : pull.after? route = some moved) :
      Passes duration limits top anchors budget moved later →
      Passes duration limits top (survey.anchor :: anchors) (budget + 1) route
        ⟨later.stops, survey :: later.surveys⟩
  | stay {anchors : List Nat} {budget : Nat} {route : List α} {survey : Survey δ}
      {later : Surveyed α δ} (made : survey.Made duration limits top route)
      (stays : survey.pull? limits = none) :
      Passes duration limits top anchors (budget + 1) route later →
      Passes duration limits top (survey.anchor :: anchors) (budget + 1) route
        ⟨later.stops, survey :: later.surveys⟩

variable {duration : α → α → Planning σ δ} {limits : Limits δ} {top budget : Nat}
variable {anchors : List Nat} {route : List α} {survey : Survey δ} {surveyed : Surveyed α δ}
variable {pull : Pull}

theorem passAt_finds (duration : α → α → Planning σ δ) (limits : Limits δ) (top : Nat)
    (anchors : List Nat) (budget : Nat) (route : List α) :
    Finds (Passes duration limits top anchors budget route)
      (passAt duration limits top anchors budget route) := by
  induction anchors generalizing budget route with
  | nil => exact finds_pure (.done budget route)
  | cons anchor anchors ih =>
    cases budget with
    | zero => exact finds_pure (.spent _ route)
    | succ budget =>
      have made := (finds_run _).and (surveyAt_finds duration limits top route anchor)
      refine made.bind fun survey ⟨run, atAnchor, _⟩ => ?_
      subst atAnchor
      cases leads : survey.pull? limits with
      | none =>
        refine (ih (budget + 1) route).bind fun later passed => finds_pure ?_
        exact .stay run leads passed
      | some pull =>
        refine (finds_of_option (pull.after? route)).bind fun moved put => ?_
        refine (ih budget moved).bind fun later passed => finds_pure ?_
        exact .pull run leads put passed

/-- The pulls of a pass lead from the route to its result. -/
theorem Passes.afterPulls (h : Passes duration limits top anchors budget route surveyed) :
    afterPulls? (surveyed.pulls limits) route = some surveyed.stops := by
  induction h with
  | spent | done => rfl
  | pull made leads put _ ih =>
    rw [pulls_cons_of_pull leads, afterPulls?_cons, put]
    exact ih
  | stay made stays _ ih =>
    rw [pulls_cons_of_stay stays]
    exact ih

theorem Passes.length_pulls_le (h : Passes duration limits top anchors budget route surveyed) :
    (surveyed.pulls limits).length ≤ budget := by
  induction h with
  | spent | done => exact Nat.zero_le _
  | pull made leads put _ ih =>
    rw [pulls_cons_of_pull leads]
    exact Nat.succ_le_succ ih
  | stay made stays _ ih =>
    rw [pulls_cons_of_stay stays]
    exact ih

theorem Passes.anchors_prefix (h : Passes duration limits top anchors budget route surveyed) :
    surveyed.surveys.map (·.anchor) <+: anchors := by
  induction h with
  | spent | done => exact List.nil_prefix
  | pull _ _ _ _ ih | stay _ _ _ ih => exact (List.prefix_cons_inj _).mpr ih

/-- As long as pulls are left, every anchor is surveyed. -/
theorem Passes.anchors_eq (h : Passes duration limits top anchors budget route surveyed)
    (left : (surveyed.pulls limits).length < budget) :
    surveyed.surveys.map (·.anchor) = anchors := by
  induction h with
  | spent => cases left
  | done => rfl
  | pull made leads put _ ih =>
    rw [pulls_cons_of_pull leads, List.length_cons] at left
    rw [List.map_cons, ih (Nat.lt_of_succ_lt_succ left)]
  | stay made stays _ ih =>
    rw [pulls_cons_of_stay stays] at left
    rw [List.map_cons, ih left]

/-- Every survey is made on the route that the pulls before it have led to. -/
theorem Passes.made (h : Passes duration limits top anchors budget route surveyed)
    {earlier later : List (Survey δ)} (split : surveyed.surveys = earlier ++ survey :: later) :
    ∃ reached, afterPulls? (earlier.filterMap (·.pull? limits)) route = some reached ∧
      survey.Made duration limits top reached := by
  induction h generalizing earlier with
  | spent | done => simp at split
  | @pull _ _ route moved first pull rest made leads put _ ih =>
    cases earlier with
    | nil =>
      obtain ⟨rfl, -⟩ := List.cons.inj split
      exact ⟨route, rfl, made⟩
    | cons _ earlier =>
      obtain ⟨rfl, behind⟩ := List.cons.inj split
      rw [List.filterMap_cons_some leads, afterPulls?_cons, put]
      exact ih behind
  | @stay _ _ route first rest made stays _ ih =>
    cases earlier with
    | nil =>
      obtain ⟨rfl, -⟩ := List.cons.inj split
      exact ⟨route, rfl, made⟩
    | cons _ earlier =>
      obtain ⟨rfl, behind⟩ := List.cons.inj split
      rw [List.filterMap_cons_none stays]
      exact ih behind

theorem Survey.Made.within (h : survey.Made duration limits top route)
    (leads : survey.pull? limits = some pull) :
    pull.Within limits.lookahead route.length := by
  obtain ⟨source, picked, rfl⟩ := Option.map_eq_some_iff.mp leads
  obtain ⟨saving, among, -⟩ := mem_of_pick picked
  have listed : source ∈ survey.deltas.map Prod.fst := List.mem_map_of_mem among
  rw [h.positions, windowAt, List.mem_range'_1] at listed
  constructor <;> dsimp only <;> omega

theorem Passes.advancing (h : Passes duration limits top anchors budget route surveyed)
    (ascending : anchors.Pairwise (· < ·)) :
    Advancing limits.lookahead route.length (surveyed.pulls limits) := by
  have surveys_ascending : surveyed.surveys.Pairwise (·.anchor < ·.anchor) :=
    List.pairwise_map.mp (ascending.sublist h.anchors_prefix.sublist)
  refine ⟨fun pull hpull => ?_, surveys_ascending.filterMap _ ?_⟩
  · obtain ⟨survey, hsurvey, leads⟩ := List.mem_filterMap.mp hpull
    obtain ⟨earlier, later, split⟩ := List.append_of_mem hsurvey
    obtain ⟨reached, pulled, made⟩ := h.made split
    exact length_afterPulls? pulled ▸ made.within leads
  · intro survey survey' behind pull leads pull' leads'
    rwa [anchor_of_pull? leads, anchor_of_pull? leads']

/-- The anchors of a route: all stops but the last one, unless the route is left alone. -/
def anchorsOf (maxStops : Nat) (stops : List α) : List Nat :=
  if stops.length > maxStops then [] else List.range (stops.length - 1)

theorem anchorsOf_ascending (maxStops : Nat) (stops : List α) :
    (anchorsOf maxStops stops).Pairwise (· < ·) := by
  unfold anchorsOf
  split_ifs
  · exact List.Pairwise.nil
  · exact List.pairwise_lt_range

theorem relocateAt_finds (duration : α → α → Planning σ δ) (limits : Limits δ)
    (top maxMoves maxStops : Nat) (stops : List α) :
    Finds (Passes duration limits top (anchorsOf maxStops stops) maxMoves stops)
      (relocateAt duration limits top maxMoves maxStops stops) := by
  unfold anchorsOf relocateAt
  split_ifs
  · exact finds_pure (.done maxMoves stops)
  · exact passAt_finds duration limits top _ maxMoves stops

/-- Relocation that succeeds makes surveys, and they account for its answer. -/
theorem exists_surveyed {maxMoves maxStops : Nat} (fits : maxStops ≤ top) {stops : List α}
    {world world' : σ} {result : Relocated α}
    (run : (relocate duration limits maxMoves maxStops stops).outcome world =
      (.ok result, world')) :
    ∃ surveyed : Surveyed α δ,
      (relocateAt duration limits top maxMoves maxStops stops).run.outcome world =
        (.ok (some surveyed), world') ∧
      surveyed.relocated limits = result ∧
      Passes duration limits top (anchorsOf maxStops stops) maxMoves stops surveyed := by
  have same : (Surveyed.relocated limits <$>
        relocateAt duration limits top maxMoves maxStops stops).run.outcome world =
      (OptionT.lift (relocate duration limits maxMoves maxStops stops)).run.outcome world := by
    rw [relocateAt_eq duration limits fits stops]
  rw [OptionT.run_map, OptionT.run_lift, bind_pure_comp, outcome_map, outcome_map, run] at same
  cases passed : (relocateAt duration limits top maxMoves maxStops stops).run.outcome world with
  | mk answer left =>
    rw [passed] at same
    obtain ⟨answers, worlds⟩ := Prod.mk.inj same
    rcases answer with _ | _ | surveyed
    · cases answers
    · cases answers
    · have relocated := Option.some.inj (Except.ok.inj answers)
      obtain rfl : left = world' := worlds
      exact ⟨surveyed, rfl, relocated,
        relocateAt_finds duration limits top maxMoves maxStops stops passed surveyed rfl⟩

/-- No relocation takes the last two stops for anchors. -/
theorem relocate_moves_le (duration : α → α → Planning σ δ) (limits : Limits δ)
    (maxMoves maxStops : Nat) (stops : List α) :
    Ensures (fun result => result.moves ≤ stops.length - 2)
      (relocate duration limits maxMoves maxStops stops) := by
  intro world result world' run
  obtain ⟨surveyed, -, rfl, passed⟩ := exists_surveyed (Nat.le_refl maxStops) run
  exact (passed.advancing (anchorsOf_ascending maxStops stops)).length_le

end Pass

end Relocation

end ServiceRoute
