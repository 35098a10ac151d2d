import ServiceRoute.Proofs.Corridor.Regrouping
import ServiceRoute.Proofs.Corridor.Runs
import ServiceRoute.Proofs.Selection.FirstOccurrence

/-!
# Gathered routes

A route may be gathered in one walk from its first stop to its last: at the first stop of a
corridor all stops of the corridor are listed, at the later ones nothing, and a stop on no corridor
is listed by itself. A window as long as the route makes regrouping do just that. What is left to
regroup is at each moment the stops whose corridor the walk has not met, and so every corridor of
the route is one run of the regrouped route.
-/

namespace ServiceRoute.Corridor

variable {α κ : Type} [DecidableEq κ]

/-- The groups that begin at the listed elements. An element with a key among `seen` begins none,
and the group of any other key is all of `whole` that has this key. -/
def groupsFrom (key : α → Option κ) (whole : List α) (seen : List κ) :
    List α → List (Segment α κ)
  | [] => []
  | a :: rest =>
    match key a with
    | none => ⟨none, [a]⟩ :: groupsFrom key whole seen rest
    | some k =>
      if k ∈ seen then groupsFrom key whole seen rest
      else ⟨some k, whole.filter (key · = some k)⟩ :: groupsFrom key whole (k :: seen) rest

/-- The groups of a list in the order of their first elements. -/
def groups (key : α → Option κ) (xs : List α) : List (Segment α κ) :=
  groupsFrom key xs [] xs

def unseen (key : α → Option κ) (seen : List κ) (xs : List α) : List α :=
  xs.filter fun a => ∀ k ∈ seen, key a ≠ some k

section Walk

variable {key : α → Option κ} {whole rest : List α} {seen : List κ} {a : α} {k : κ}

theorem groupsFrom_none (h : key a = none) :
    groupsFrom key whole seen (a :: rest) = ⟨none, [a]⟩ :: groupsFrom key whole seen rest := by
  rw [groupsFrom, h]

theorem groupsFrom_seen (h : key a = some k) (hk : k ∈ seen) :
    groupsFrom key whole seen (a :: rest) = groupsFrom key whole seen rest := by
  rw [groupsFrom, h]
  exact if_pos hk

theorem groupsFrom_new (h : key a = some k) (hk : k ∉ seen) :
    groupsFrom key whole seen (a :: rest) =
      ⟨some k, whole.filter (key · = some k)⟩ :: groupsFrom key whole (k :: seen) rest := by
  rw [groupsFrom, h]
  exact if_neg hk

theorem unseen_none (h : key a = none) :
    unseen key seen (a :: rest) = a :: unseen key seen rest := by
  simp [unseen, h]

theorem unseen_seen (h : key a = some k) (hk : k ∈ seen) :
    unseen key seen (a :: rest) = unseen key seen rest := by
  simp [unseen, h, hk]

theorem unseen_new (h : key a = some k) (hk : k ∉ seen) :
    unseen key seen (a :: rest) = a :: unseen key seen rest := by
  refine List.filter_cons_of_pos (decide_eq_true fun k' hk' => ?_)
  rw [h]
  exact fun same => hk (Option.some.inj same ▸ hk')

theorem length_unseen_le (key : α → Option κ) (seen : List κ) (xs : List α) :
    (unseen key seen xs).length ≤ xs.length :=
  List.length_filter_le _ _

theorem filter_unseen (hk : k ∉ seen) (xs : List α) :
    (unseen key seen xs).filter (key · = some k) = xs.filter (key · = some k) := by
  rw [unseen, List.filter_filter]
  refine List.filter_congr fun a _ => ?_
  by_cases same : key a = some k
  · have apart : ∀ k' ∈ seen, k ≠ k' := fun k' hk' => (ne_of_mem_of_not_mem hk' hk).symm
    simpa [same] using apart
  · simp [same]

theorem unseen_cons (k : κ) (seen : List κ) (xs : List α) :
    (unseen key seen xs).filter (key · ≠ some k) = unseen key (k :: seen) xs := by
  rw [unseen, List.filter_filter, unseen]
  refine List.filter_congr fun a _ => ?_
  simp

theorem keys_groupsFrom (key : α → Option κ) (whole : List α) (seen : List κ) (xs : List α) :
    (groupsFrom key whole seen xs).filterMap (·.key) =
      (Selection.distinct (xs.filterMap key)).filter (· ∉ seen) := by
  induction seen, xs using groupsFrom.induct key with
  | case1 seen => rfl
  | case2 seen a rest hkey ih =>
    rw [groupsFrom_none hkey, List.filterMap_cons_none hkey, List.filterMap_cons_none rfl, ih]
  | case3 seen a rest k hkey hk ih =>
    rw [groupsFrom_seen hkey hk, ih, List.filterMap_cons_some hkey, Selection.distinct_cons,
      List.filter_cons_of_neg (by simpa using hk), List.filter_filter]
    refine List.filter_congr fun k' _ => ?_
    by_cases same : k' = k
    · simp [same, hk]
    · simp [same]
  | case4 seen a rest k hkey hk ih =>
    rw [groupsFrom_new hkey hk, List.filterMap_cons, ih, List.filterMap_cons_some hkey,
      Selection.distinct_cons, List.filter_cons_of_pos (by simpa using hk), List.filter_filter]
    refine congrArg (k :: ·) (List.filter_congr fun k' _ => ?_)
    simp [Bool.and_comm]

theorem key_notMem_of_mem_groupsFrom {s : Segment α κ}
    (mem : s ∈ groupsFrom key whole seen rest) (h : s.key = some k) : k ∉ seen := by
  have listed : k ∈ (groupsFrom key whole seen rest).filterMap (·.key) :=
    List.mem_filterMap.mpr ⟨s, mem, h⟩
  rw [keys_groupsFrom] at listed
  simpa using (List.mem_filter.mp listed).2

theorem members_of_mem_groupsFrom {s : Segment α κ}
    (mem : s ∈ groupsFrom key whole seen rest) (h : s.key = some k) :
    s.members = whole.filter (key · = some k) := by
  induction seen, rest using groupsFrom.induct key with
  | case1 seen => cases mem
  | case2 seen a rest hkey ih =>
    rw [groupsFrom_none hkey] at mem
    rcases List.mem_cons.mp mem with rfl | mem
    · cases h
    · exact ih mem
  | case3 seen a rest k' hkey hk ih =>
    rw [groupsFrom_seen hkey hk] at mem
    exact ih mem
  | case4 seen a rest k' hkey hk ih =>
    rw [groupsFrom_new hkey hk] at mem
    rcases List.mem_cons.mp mem with rfl | mem
    · rw [Option.some.inj h]
    · exact ih mem

theorem segmentation_groupsFrom (seen : List κ) (inside : rest ⊆ whole) :
    Segmentation key (groupsFrom key whole seen rest) := by
  induction seen, rest using groupsFrom.induct key with
  | case1 seen => exact segmentation_nil key
  | case2 seen a rest hkey ih =>
    rw [groupsFrom_none hkey]
    have later := ih (List.cons_subset.mp inside).2
    exact later.cons ⟨by simp [hkey], by simp, by simp⟩ fun _ _ => Or.inl rfl
  | case3 seen a rest k hkey hk ih =>
    rw [groupsFrom_seen hkey hk]
    exact ih (List.cons_subset.mp inside).2
  | case4 seen a rest k hkey hk ih =>
    rw [groupsFrom_new hkey hk]
    obtain ⟨ha, behind⟩ := List.cons_subset.mp inside
    have occupied : whole.filter (key · = some k) ≠ [] :=
      List.ne_nil_of_mem (List.mem_filter.mpr ⟨ha, by simpa using hkey⟩)
    -- The group behind has another key, for the walk has seen this one.
    refine (ih behind).cons ⟨by simp, occupied, by simp⟩ fun t ht => Or.inr fun same => ?_
    exact key_notMem_of_mem_groupsFrom (List.mem_of_mem_head? ht) same.symm (by simp)

end Walk

section Wide

variable {key : α → Option κ} {window : Nat} {k : κ} {xs : List α}

theorem pullForward_of_length_le {reach : Nat} (wide : xs.length ≤ reach) :
    pullForward key reach k xs = xs.filter (key · = some k) ++ xs.filter (key · ≠ some k) := by
  rw [pullForward, List.take_of_length_le wide, List.drop_of_length_le wide, List.append_nil]

/-- Behind the elements of one key that stand in front, regrouping goes on as if they were not
there. -/
theorem regroup_append_of_keyed {front back : List α} (keyed : ∀ a ∈ front, key a = some k)
    (others : ∀ b ∈ back, key b ≠ some k) :
    regroup key window (front ++ back) = front ++ regroup key window back := by
  induction front with
  | nil => rfl
  | cons a front ih =>
    obtain ⟨hkey, keyed⟩ := List.forall_mem_cons.mp keyed
    have settled : Fronted key (window - 1) k (front ++ back) :=
      (pairwise_append_of_keyed keyed others).sublist (List.take_sublist _ _)
    rw [List.cons_append, regroup_some hkey, settled.pullForward_eq, ih keyed, List.cons_append]

/-- What is left to regroup is what the walk has still to list. It has passed no element of a key
that it has not seen. -/
theorem regroup_unseen {whole rest : List α} {seen : List κ} (wide : rest.length ≤ window)
    (ahead : ∀ k ∉ seen, whole.filter (key · = some k) = rest.filter (key · = some k)) :
    regroup key window (unseen key seen rest) =
      (groupsFrom key whole seen rest).flatMap (·.members) := by
  induction seen, rest using groupsFrom.induct key with
  | case1 seen => simp [unseen, groupsFrom, regroup]
  | case2 seen a rest hkey ih =>
    have ahead' : ∀ k ∉ seen, whole.filter (key · = some k) = rest.filter (key · = some k) := by
      intro k hk
      simpa [hkey] using ahead k hk
    rw [unseen_none hkey, regroup_none hkey, ih (Nat.le_of_succ_le wide) ahead',
      groupsFrom_none hkey]
    rfl
  | case3 seen a rest k hkey hk ih =>
    rw [unseen_seen hkey hk, groupsFrom_seen hkey hk]
    refine ih (Nat.le_of_succ_le wide) fun k' hk' => ?_
    have apart : k ≠ k' := ne_of_mem_of_not_mem hk hk'
    simpa [hkey, apart] using ahead k' hk'
  | case4 seen a rest k hkey hk ih =>
    have group : whole.filter (key · = some k) = a :: rest.filter (key · = some k) := by
      simpa [hkey] using ahead k hk
    have ahead' : ∀ k' ∉ k :: seen,
        whole.filter (key · = some k') = rest.filter (key · = some k') := by
      intro k' hk'
      obtain ⟨apart, hk'⟩ := not_or.mp (mt List.mem_cons.mpr hk')
      simpa [hkey, Ne.symm apart] using ahead k' hk'
    -- The window reaches every element of the key, so that none of them is left behind.
    have pulled : pullForward key (window - 1) k (unseen key seen rest) =
        rest.filter (key · = some k) ++ unseen key (k :: seen) rest := by
      have fewer := length_unseen_le key seen rest
      have reached := Nat.le_sub_one_of_lt wide
      rw [pullForward_of_length_le (fewer.trans reached), filter_unseen hk, unseen_cons]
    have keyed : ∀ b ∈ rest.filter (key · = some k), key b = some k := fun b hb => by
      simpa using (List.mem_filter.mp hb).2
    have others : ∀ b ∈ unseen key (k :: seen) rest, key b ≠ some k := fun b hb => by
      rw [← unseen_cons] at hb
      simpa using (List.mem_filter.mp hb).2
    rw [unseen_new hkey hk, regroup_some hkey, pulled, regroup_append_of_keyed keyed others,
      ih (Nat.le_of_succ_le wide) ahead', groupsFrom_new hkey hk, List.flatMap_cons, group,
      List.cons_append]

theorem regroup_eq_groups (wide : xs.length ≤ window) :
    regroup key window xs = (groups key xs).flatMap (·.members) := by
  have start : regroup key window (unseen key [] xs) =
      (groupsFrom key xs [] xs).flatMap (·.members) := regroup_unseen wide fun _ _ => rfl
  simpa [unseen, groups] using start

theorem segments_regroup (wide : xs.length ≤ window) :
    segments key (regroup key window xs) = groups key xs := by
  rw [regroup_eq_groups wide]
  exact segments_of_segmentation (segmentation_groupsFrom [] (List.Subset.refl xs))

theorem isRun_regroup (wide : xs.length ≤ window) {a : α} (ha : a ∈ xs) (hkey : key a = some k) :
    ∃ before after, regroup key window xs = before ++ xs.filter (key · = some k) ++ after ∧
      IsRun key k before (xs.filter (key · = some k)) after := by
  have occurs : k ∈ (groups key xs).filterMap (·.key) := by
    rw [groups, keys_groupsFrom]
    simpa [Selection.mem_distinct] using ⟨a, ha, hkey⟩
  obtain ⟨s, mem, hs⟩ := List.mem_filterMap.mp occurs
  rw [← members_of_mem_groupsFrom mem hs]
  rw [← segments_regroup wide] at mem
  exact isRun_of_mem_segments mem hs

theorem keys_intervals_regroup (wide : xs.length ≤ window) :
    (intervals key (regroup key window xs)).map (·.key) =
      Selection.distinct (xs.filterMap key) := by
  rw [intervals, keys_intervalsFrom, segments_regroup wide, groups, keys_groupsFrom]
  simp

end Wide

/-- With a window as long as the route, regrouping gathers the route: it lists the stops of a
corridor where the first of them stood, and every other stop by itself at its turn. All stops of
a corridor are then one run, and the corridor has no other. -/
theorem regroupWithin_gathers {window : Nat} {route : List Waypoint}
    (wide : route.length ≤ window) :
    regroupWithin window route = (groups signature route).flatMap (·.members) ∧
    ∀ w ∈ route, ∀ corridor, signature w = some corridor →
      (∃ before after, regroupWithin window route =
          before ++ route.filter (signature · = some corridor) ++ after ∧
        IsRun signature corridor before (route.filter (signature · = some corridor)) after) ∧
      ((runs (regroupWithin window route)).map (·.key)).count corridor = 1 := by
  refine ⟨regroup_eq_groups wide, fun w hw corridor hkey => ⟨isRun_regroup wide hw hkey, ?_⟩⟩
  rw [runs, regroupWithin, keys_intervals_regroup wide]
  refine List.count_eq_one_of_mem (Selection.nodup_distinct _) ?_
  exact Selection.mem_distinct.mpr (List.mem_filterMap.mpr ⟨w, hw, hkey⟩)

namespace Crossing

/-- The stops of two streets in turn, with a stop off both between them. -/
def oak : Waypoint := ⟨⟨1, 0⟩, .stop "A", some "Oak St", some "NB"⟩

def birch : Waypoint := ⟨⟨4, 1⟩, .stop "B", some "Birch Ave", some "EB"⟩

def loose : Waypoint := ⟨⟨7, 7⟩, .stop "L", some "Oak St", none⟩

def oak' : Waypoint := ⟨⟨1, 2⟩, .stop "C", some "OAK ST ", some "nb"⟩

def birch' : Waypoint := ⟨⟨6, 1⟩, .stop "D", some "birch ave", some "Eb"⟩

def route : List Waypoint := [oak, birch, loose, oak', birch']

def northOnOak : Signature := ⟨"OAK ST", "NB"⟩

def eastOnBirch : Signature := ⟨"BIRCH AVE", "EB"⟩

theorem signature_oak : signature oak = some northOnOak := by decide

theorem signature_birch : signature birch = some eastOnBirch := by decide

theorem signature_loose : signature loose = none := by decide

theorem signature_oak' : signature oak' = some northOnOak := by decide

theorem signature_birch' : signature birch' = some eastOnBirch := by decide

theorem groups_route : groups signature route =
    [⟨some northOnOak, [oak, oak']⟩, ⟨some eastOnBirch, [birch, birch']⟩, ⟨none, [loose]⟩] := by
  have apart : northOnOak ≠ eastOnBirch := by decide
  simp [groups, groupsFrom, route, signature_oak, signature_birch, signature_loose, signature_oak',
    signature_birch', apart, apart.symm]

end Crossing

/-- Both streets are gathered at their first stops, before the stop off them. -/
theorem regroupWithin_gathers_crossing :
    Crossing.route.length ≤ 5 ∧
    regroupWithin 5 Crossing.route =
      [Crossing.oak, Crossing.oak', Crossing.birch, Crossing.birch', Crossing.loose] ∧
    signature Crossing.birch = some Crossing.eastOnBirch ∧
    ((runs (regroupWithin 5 Crossing.route)).map (·.key)).count Crossing.eastOnBirch = 1 := by
  have wide : Crossing.route.length ≤ 5 := Nat.le_refl 5
  have occurs : Crossing.birch ∈ Crossing.route := by simp [Crossing.route]
  obtain ⟨gathered, single⟩ := regroupWithin_gathers wide
  rw [Crossing.groups_route] at gathered
  exact ⟨wide, gathered, Crossing.signature_birch,
    (single Crossing.birch occurs _ Crossing.signature_birch).2⟩

end ServiceRoute.Corridor
