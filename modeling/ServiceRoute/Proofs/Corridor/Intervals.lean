import ServiceRoute.Proofs.Corridor.Runs
import ServiceRoute.Proofs.Corridor.Travel

/-!
# The intervals of the runs

The runs of a list stand at intervals of positions, one behind the other, and together these cover
the positions with a key. Where they stand and which keys they have is known from the keys at the
positions alone. A list whose elements are rearranged within the runs therefore has the same runs.
-/

namespace ServiceRoute.Corridor

variable {α β κ : Type}

namespace Interval

def Covers (r : Interval κ) (i : Nat) : Prop :=
  r.start ≤ i ∧ i < r.stop

def stretch (r : Interval κ) (xs : List α) : List α :=
  (xs.take r.stop).drop r.start

theorem getElem?_stretch (r : Interval κ) (xs : List α) (j : Nat)
    (inside : r.Covers (r.start + j)) :
    (r.stretch xs)[j]? = xs[r.start + j]? := by
  rw [stretch, List.getElem?_drop, List.getElem?_take_of_lt inside.2]

theorem mem_stretch {r : Interval κ} {xs : List α} {i : Nat} {a : α} (inside : r.Covers i)
    (h : xs[i]? = some a) : a ∈ r.stretch xs := by
  obtain ⟨j, rfl⟩ := Nat.exists_eq_add_of_le inside.1
  rw [← r.getElem?_stretch xs j inside] at h
  exact List.mem_of_getElem? h

theorem stretch_append {r : Interval κ} {before run after : List α}
    (start : r.start = before.length) (stop : r.stop = before.length + run.length) :
    r.stretch (before ++ run ++ after) = run := by
  rw [stretch, start, stop, ← List.length_append, List.take_left, List.drop_left]

end Interval

section Cuts

variable {start i : Nat} {earlier cuts : List (Segment α κ)} {s : Segment α κ} {r : Interval κ}
  {a : α}

/-- The interval is that of a segment with a key, behind the members of the earlier segments. -/
structure Interval.IsOf (r : Interval κ) (start : Nat) (earlier : List (Segment α κ))
    (s : Segment α κ) : Prop where
  keyed : s.key = some r.key
  first : r.start = start + (earlier.flatMap (·.members)).length
  last : r.stop = r.start + s.members.length

theorem Interval.isOf_cons_iff {t : Segment α κ} :
    r.IsOf start (t :: earlier) s ↔ r.IsOf (start + t.members.length) earlier s := by
  have same : start + ((t :: earlier).flatMap (·.members)).length =
      start + t.members.length + (earlier.flatMap (·.members)).length := by
    rw [List.flatMap_cons, List.length_append, Nat.add_assoc]
  exact ⟨fun h => ⟨h.keyed, h.first.trans same, h.last⟩,
    fun h => ⟨h.keyed, h.first.trans same.symm, h.last⟩⟩

theorem exists_segment_of_mem (mem : r ∈ intervalsFrom start cuts) :
    ∃ (earlier : List (Segment α κ)) (s : Segment α κ) (later : List (Segment α κ)),
      cuts = earlier ++ s :: later ∧ r.IsOf start earlier s := by
  induction cuts generalizing start with
  | nil => cases mem
  | cons t later ih =>
    have behind (mem : r ∈ intervalsFrom (start + t.members.length) later) :
        ∃ (earlier : List (Segment α κ)) (s : Segment α κ) (later' : List (Segment α κ)),
          t :: later = earlier ++ s :: later' ∧ r.IsOf start earlier s := by
      obtain ⟨earlier, s, later', rfl, place⟩ := ih mem
      exact ⟨t :: earlier, s, later', rfl, Interval.isOf_cons_iff.mpr place⟩
    obtain ⟨k, members⟩ := t
    cases k with
    | none => exact behind mem
    | some k =>
      rcases List.mem_cons.mp mem with rfl | mem
      · exact ⟨[], ⟨some k, members⟩, later, rfl, rfl, rfl, rfl⟩
      · exact behind mem

theorem mem_intervalsFrom (later : List (Segment α κ)) (place : r.IsOf start earlier s) :
    r ∈ intervalsFrom start (earlier ++ s :: later) := by
  induction earlier generalizing start with
  | nil =>
    obtain ⟨first, last, k⟩ := r
    obtain ⟨_, members⟩ := s
    obtain ⟨keyed, first_eq, last_eq⟩ := place
    dsimp only at keyed first_eq last_eq
    subst keyed first_eq last_eq
    exact List.mem_cons_self
  | cons t earlier ih =>
    have behind := ih (Interval.isOf_cons_iff.mp place)
    obtain ⟨k', members⟩ := t
    cases k' with
    | none => exact behind
    | some k' => exact List.mem_cons_of_mem _ behind

theorem intervalsFrom_pairwise (start : Nat) (cuts : List (Segment α κ)) :
    (intervalsFrom start cuts).Pairwise fun r r' => r.stop ≤ r'.start := by
  induction cuts generalizing start with
  | nil => exact List.Pairwise.nil
  | cons s later ih =>
    obtain ⟨k, members⟩ := s
    cases k with
    | none => exact ih _
    | some k =>
      refine List.pairwise_cons.mpr ⟨fun r mem => ?_, ih _⟩
      obtain ⟨_, _, _, _, place⟩ := exists_segment_of_mem mem
      rw [place.first]
      exact Nat.le_add_right _ _

theorem exists_segment_at (h : (cuts.flatMap (·.members))[i]? = some a) :
    ∃ (earlier : List (Segment α κ)) (s : Segment α κ) (later : List (Segment α κ)),
      cuts = earlier ++ s :: later ∧ a ∈ s.members ∧
      (earlier.flatMap (·.members)).length ≤ i ∧
      i < (earlier.flatMap (·.members)).length + s.members.length := by
  induction cuts generalizing i with
  | nil => simp at h
  | cons s later ih =>
    rw [List.flatMap_cons] at h
    rcases Nat.lt_or_ge i s.members.length with inside | beyond
    · rw [List.getElem?_append_left inside] at h
      exact ⟨[], s, later, rfl, List.mem_of_getElem? h, Nat.zero_le i, by simpa using inside⟩
    · rw [List.getElem?_append_right beyond] at h
      obtain ⟨earlier, t, later, rfl, mem, first, last⟩ := ih h
      refine ⟨s :: earlier, t, later, rfl, mem, ?_, ?_⟩ <;>
        rw [List.flatMap_cons, List.length_append] <;> omega

def Segment.image (f : α → β) (s : Segment α κ) : Segment β κ :=
  ⟨s.key, s.members.map f⟩

/-- The intervals depend on the lengths of the segments and not on their members. -/
theorem intervalsFrom_image (f : α → β) (start : Nat) (cuts : List (Segment α κ)) :
    intervalsFrom start (cuts.map (Segment.image f)) = intervalsFrom start cuts := by
  induction cuts generalizing start with
  | nil => rfl
  | cons s later ih =>
    obtain ⟨k, members⟩ := s
    cases k <;> simp [Segment.image, intervalsFrom, ih]

variable [DecidableEq κ]

theorem prepend_image (key : β → Option κ) (f : α → β) (a : α) (cuts : List (Segment α κ)) :
    prepend key (f a) (cuts.map (Segment.image f)) =
      (prepend (fun a => key (f a)) a cuts).map (Segment.image f) := by
  cases h : key (f a) with
  | none => simp [prepend, h, Segment.image]
  | some k =>
    cases cuts with
    | nil => simp [prepend, h, Segment.image]
    | cons s later =>
      obtain ⟨k', members⟩ := s
      cases k' with
      | none => simp [prepend, h, Segment.image]
      | some k' => by_cases same : k = k' <;> simp [prepend, h, Segment.image, same]

theorem segments_map (key : β → Option κ) (f : α → β) (xs : List α) :
    segments key (xs.map f) = (segments (fun a => key (f a)) xs).map (Segment.image f) := by
  induction xs with
  | nil => rfl
  | cons a xs ih =>
    rw [segments, segments, List.map_cons, List.foldr_cons, List.foldr_cons, ← prepend_image]
    exact congrArg (prepend key (f a)) ih

theorem intervals_map_key (key : α → Option κ) (xs : List α) :
    intervals id (xs.map key) = intervals key xs := by
  rw [intervals, segments_map, intervalsFrom_image]
  rfl

end Cuts

section Runs

variable [DecidableEq κ] {key : α → Option κ} {xs ys : List α} {r : Interval κ} {i : Nat} {a : α}

theorem exists_run_of_mem (mem : r ∈ intervals key xs) :
    ∃ before run after, xs = before ++ run ++ after ∧ IsRun key r.key before run after ∧
      r.start = before.length ∧ r.stop = before.length + run.length := by
  obtain ⟨earlier, s, later, cuts, place⟩ := exists_segment_of_mem mem
  have first := place.first.trans (Nat.zero_add _)
  exact ⟨_, s.members, _, append_of_segments cuts, isRun_of_segments cuts place.keyed, first,
    first ▸ place.last⟩

theorem isRun_stretch (mem : r ∈ intervals key xs) : r.stop ≤ xs.length ∧
    IsRun key r.key (xs.take r.start) (r.stretch xs) (xs.drop r.stop) := by
  obtain ⟨before, run, after, rfl, isRun, first, last⟩ := exists_run_of_mem mem
  have front : (before ++ run ++ after).take before.length = before := by
    rw [List.append_assoc, List.take_left]
  rw [Interval.stretch_append first last, first, last, front, ← List.length_append,
    List.drop_left]
  exact ⟨(List.prefix_append (before ++ run) after).length_le, isRun⟩

theorem covered_iff (h : xs[i]? = some a) :
    (∃ r ∈ intervals key xs, r.Covers i) ↔ (key a).isSome := by
  constructor
  · rintro ⟨r, mem, inside⟩
    rw [(isRun_stretch mem).2.keyed a (Interval.mem_stretch inside h)]
    rfl
  · intro keyed
    obtain ⟨k, hk⟩ := Option.isSome_iff_exists.mp keyed
    rw [← segments_flatMap_members key xs] at h
    obtain ⟨earlier, s, later, cuts, mem, first, last⟩ := exists_segment_at h
    have uniform := (segmentation_segments key xs).uniform s (by simp [cuts])
    obtain ⟨r, place⟩ : ∃ r : Interval κ, r.IsOf 0 earlier s :=
      ⟨⟨_, 0 + (earlier.flatMap (·.members)).length + s.members.length, k⟩,
        (uniform.keyed a mem).symm.trans hk, rfl, rfl⟩
    have listed : r ∈ intervals key xs := by
      rw [intervals, cuts]
      exact mem_intervalsFrom later place
    refine ⟨r, listed, ?_⟩
    rw [Interval.Covers, place.last, place.first, Nat.zero_add]
    exact ⟨first, last⟩

end Runs

section Rearranging

variable {key : α → Option κ} {xs ys : List α}

/-- The elements of every interval are rearranged among themselves, and all others are left. -/
structure RearrangedWithin (intervals : List (Interval κ)) (xs ys : List α) : Prop where
  length_eq : ys.length = xs.length
  inside : ∀ r ∈ intervals, (r.stretch ys).Perm (r.stretch xs)
  outside : ∀ i, (∀ r ∈ intervals, ¬ r.Covers i) → ys[i]? = xs[i]?

variable [DecidableEq κ]

theorem RearrangedWithin.map_key (h : RearrangedWithin (intervals key xs) xs ys) :
    ys.map key = xs.map key := by
  refine List.ext_getElem? fun i => ?_
  rw [List.getElem?_map, List.getElem?_map]
  by_cases covered : ∃ r ∈ intervals key xs, r.Covers i
  · -- The elements of a run have one key, whichever of them stands here.
    obtain ⟨r, mem, inside⟩ := covered
    obtain ⟨bound, isRun⟩ := isRun_stretch mem
    have within : i < xs.length := inside.2.trans_le bound
    obtain ⟨a, ha⟩ : ∃ a, xs[i]? = some a := ⟨_, List.getElem?_eq_getElem within⟩
    obtain ⟨b, hb⟩ : ∃ b, ys[i]? = some b := ⟨_, List.getElem?_eq_getElem (h.length_eq ▸ within)⟩
    have listed : b ∈ r.stretch xs := (h.inside r mem).mem_iff.mp (Interval.mem_stretch inside hb)
    rw [ha, hb, Option.map_some, Option.map_some, isRun.keyed b listed,
      isRun.keyed a (Interval.mem_stretch inside ha)]
  · rw [h.outside i fun r mem inside => covered ⟨r, mem, inside⟩]

/-- A list rearranged within its runs has the same runs. -/
theorem RearrangedWithin.intervals_eq (h : RearrangedWithin (intervals key xs) xs ys) :
    intervals key ys = intervals key xs := by
  rw [← intervals_map_key, h.map_key, intervals_map_key]

end Rearranging

/-- The runs of a route stand at intervals in order that do not overlap and cover the stops on a
corridor, and at each of them stands a run. However the stops are rearranged within them, they are
the runs again, and each resolves to the order it had. -/
theorem runs_survive_reordering (route : List Waypoint) :
    (runs route).Pairwise (fun r r' => r.stop ≤ r'.start) ∧
    (∀ r ∈ runs route, r.start < r.stop ∧ r.stop ≤ route.length ∧
      IsRun signature r.key (route.take r.start) (r.stretch route) (route.drop r.stop)) ∧
    (∀ (i : Nat) w, route[i]? = some w →
      ((∃ r ∈ runs route, r.Covers i) ↔ (signature w).isSome)) ∧
    ∀ route', RearrangedWithin (runs route) route route' →
      runs route' = runs route ∧
      ∀ r ∈ runs route, ∀ bearing, RunOrder.resolve (r.stretch route') bearing =
        RunOrder.resolve (r.stretch route) bearing := by
  refine ⟨intervalsFrom_pairwise 0 _, fun r mem => ?_, fun i w place => covered_iff place,
    fun route' h => ⟨h.intervals_eq, fun r mem bearing => ?_⟩⟩
  · obtain ⟨bound, isRun⟩ := isRun_stretch mem
    have nonempty := List.length_pos_of_ne_nil isRun.nonempty
    rw [Interval.stretch, List.length_drop, List.length_take_of_le bound] at nonempty
    exact ⟨Nat.lt_of_sub_pos nonempty, bound, isRun⟩
  · exact RunOrder.resolve_perm (h.inside r mem) bearing

namespace Bridge

/-- Three stops on one eastbound street, with zeros of both signs and coordinates missing. -/
def below : Waypoint := ⟨⟨-0.0, Float.nan⟩, .stop "A", some "Bridge St", some "EB"⟩

def lost : Waypoint := ⟨⟨Float.nan, 0⟩, .stop "B", some " bridge st", some "eb"⟩

def above : Waypoint := ⟨⟨0, -0.0⟩, .stop "C", some "Bridge St ", some "EB"⟩

/-- A stop on no corridor, and behind it one on the other side of the street. -/
def yard : Waypoint := ⟨⟨2, 2⟩, .stop "D", some "Bridge St", none⟩

def back : Waypoint := ⟨⟨3, 1⟩, .stop "E", some "Bridge St", some "WB"⟩

def eastbound : Signature := ⟨"BRIDGE ST", "EB"⟩

def westbound : Signature := ⟨"BRIDGE ST", "WB"⟩

theorem runs_route :
    runs [below, lost, above, yard, back] = [⟨0, 3, eastbound⟩, ⟨4, 5, westbound⟩] := by
  have signatures : [below, lost, above, yard, back].map signature =
      [some eastbound, some eastbound, some eastbound, none, some westbound] := by
    decide +kernel
  rw [runs, ← intervals_map_key, signatures]
  decide

theorem rearrangedWithin_turned :
    RearrangedWithin (runs [below, lost, above, yard, back])
      [below, lost, above, yard, back] [above, lost, below, yard, back] := by
  rw [runs_route]
  have first : Interval.stretch ⟨0, 3, eastbound⟩ [above, lost, below, yard, back] =
      [below, lost, above].reverse := by simp [Interval.stretch]
  have second : Interval.stretch ⟨4, 5, westbound⟩ [above, lost, below, yard, back] = [back] := by
    simp [Interval.stretch]
  refine ⟨by simp, ?_, fun i uncovered => ?_⟩
  · rw [List.forall_mem_cons, List.forall_mem_singleton, first, second]
    exact ⟨List.reverse_perm [below, lost, above], List.Perm.refl [back]⟩
  · match i with
    | 0 | 1 | 2 => exact absurd ⟨by decide, by decide⟩ (uncovered ⟨0, 3, eastbound⟩ (by simp))
    | _ + 3 => simp

theorem resolve_run : RunOrder.resolve [below, lost, above] "EB" = some ⟨.lon, .ascending⟩ := by
  decide +kernel

end Bridge

/-- The stops of the first run stand the other way round, and it runs east along its longitude as
before. -/
theorem runs_survive_reordering_bridge :
    RearrangedWithin (runs [Bridge.below, Bridge.lost, Bridge.above, Bridge.yard, Bridge.back])
      [Bridge.below, Bridge.lost, Bridge.above, Bridge.yard, Bridge.back]
      [Bridge.above, Bridge.lost, Bridge.below, Bridge.yard, Bridge.back] ∧
    runs [Bridge.above, Bridge.lost, Bridge.below, Bridge.yard, Bridge.back] =
      [⟨0, 3, Bridge.eastbound⟩, ⟨4, 5, Bridge.westbound⟩] ∧
    RunOrder.resolve [Bridge.above, Bridge.lost, Bridge.below] "EB" =
      some ⟨.lon, .ascending⟩ := by
  obtain ⟨-, -, -, survive⟩ :=
    runs_survive_reordering [Bridge.below, Bridge.lost, Bridge.above, Bridge.yard, Bridge.back]
  obtain ⟨same, orders⟩ := survive _ Bridge.rearrangedWithin_turned
  rw [Bridge.runs_route] at same orders
  have order := orders ⟨0, 3, Bridge.eastbound⟩ (by simp) "EB"
  exact ⟨Bridge.rearrangedWithin_turned, same, order.trans Bridge.resolve_run⟩

end ServiceRoute.Corridor
