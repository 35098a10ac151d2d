import ServiceRoute.Proofs.Corridor.Segmentation

/-!
# Runs

A run is a stretch of one key that cannot be made longer. The runs of a list are
its segments that have a key.
-/

namespace ServiceRoute.Corridor

variable {α κ : Type}

/-- Between `before` and `after` stands a stretch of elements with key `k`, and it goes on
neither to the left nor to the right. -/
structure IsRun (key : α → Option κ) (k : κ) (before run after : List α) : Prop where
  nonempty : run ≠ []
  keyed : ∀ a ∈ run, key a = some k
  left : ∀ a ∈ before.getLast?, key a ≠ some k
  right : ∀ a ∈ after.head?, key a ≠ some k

variable {key : α → Option κ} {k : κ} {before run after xs : List α}

theorem IsRun.uniform (h : IsRun key k before run after) :
    Segment.Uniform key ⟨some k, run⟩ :=
  ⟨h.keyed, h.nonempty, by simp⟩

theorem Segmentation.key_getLast {cuts : List (Segment α κ)} (h : Segmentation key cuts)
    {s : Segment α κ} (last : s ∈ cuts.getLast?) :
    ∃ a ∈ (cuts.flatMap (·.members)).getLast?, key a = s.key := by
  obtain ⟨earlier, rfl⟩ := List.getLast?_eq_some_iff.mp last
  have uniform := h.uniform s (by simp)
  refine ⟨s.members.getLast uniform.nonempty, ?_, uniform.keyed _ (List.getLast_mem _)⟩
  simp [List.getLast?_append, List.getLast?_eq_some_getLast uniform.nonempty]

theorem Segmentation.key_head {cuts : List (Segment α κ)} (h : Segmentation key cuts)
    {s : Segment α κ} (first : s ∈ cuts.head?) :
    ∃ a ∈ (cuts.flatMap (·.members)).head?, key a = s.key := by
  obtain ⟨later, rfl⟩ := List.head?_eq_some_iff.mp first
  have uniform := h.uniform s (by simp)
  refine ⟨s.members.head uniform.nonempty, ?_, uniform.keyed _ (List.head_mem _)⟩
  simp [List.head?_append, List.head?_eq_some_head uniform.nonempty]

theorem keys_intervalsFrom (start : Nat) (cuts : List (Segment α κ)) :
    (intervalsFrom start cuts).map (·.key) = cuts.filterMap (·.key) := by
  induction cuts generalizing start with
  | nil => rfl
  | cons s later ih =>
    obtain ⟨k, members⟩ := s
    cases k with
    | none => rw [intervalsFrom, ih, List.filterMap_cons]
    | some k => rw [intervalsFrom, List.map_cons, ih, List.filterMap_cons]

variable [DecidableEq κ]

/-- A stretch of one key that its neighbours do not share is one of the segments. -/
theorem segments_append_append {s : Segment α κ} (uniform : s.Uniform key)
    (left : s.key = none ∨ ∀ a ∈ before.getLast?, key a ≠ s.key)
    (right : s.key = none ∨ ∀ a ∈ after.head?, key a ≠ s.key) :
    segments key (before ++ s.members ++ after) =
      segments key before ++ s :: segments key after := by
  have cut := segmentation_segments key before
  have cut' := segmentation_segments key after
  have back : Segmentation key (s :: segments key after) := by
    refine cut'.cons uniform fun t ht => ?_
    obtain ⟨a, ha, same⟩ := cut'.key_head ht
    rw [segments_flatMap_members] at ha
    exact right.imp id fun apart => same ▸ (apart a ha).symm
  have whole : Segmentation key (segments key before ++ s :: segments key after) := by
    refine cut.append back fun t ht t' ht' => ?_
    obtain ⟨a, ha, same⟩ := cut.key_getLast ht
    rw [segments_flatMap_members] at ha
    obtain rfl : s = t' := Option.some.inj ht'
    rcases left with unkeyed | apart
    · by_cases unkeyed' : t.key = none
      · exact Or.inl unkeyed'
      · exact Or.inr (unkeyed ▸ unkeyed')
    · exact Or.inr (same ▸ apart a ha)
  have flat := segments_of_segmentation whole
  simpa [segments_flatMap_members] using flat

variable {f : κ → List α → List α}

theorem rearrange_append_append {s : Segment α κ} (uniform : s.Uniform key)
    (left : s.key = none ∨ ∀ a ∈ before.getLast?, key a ≠ s.key)
    (right : s.key = none ∨ ∀ a ∈ after.head?, key a ≠ s.key) :
    rearrange key f (before ++ s.members ++ after) =
      rearrange key f before ++ (s.rewrite f).members ++ rearrange key f after := by
  rw [rearrange_eq, segments_append_append uniform left right, rearrange_eq, rearrange_eq]
  simp

theorem IsRun.rearrange_split (h : IsRun key k before run after) :
    rearrange key f (before ++ run ++ after) =
      rearrange key f before ++ f k run ++ rearrange key f after :=
  rearrange_append_append h.uniform (Or.inr h.left) (Or.inr h.right)

theorem IsRun.rewrite (h : IsRun key k before run after)
    (perm : ∀ k members, (f k members).Perm members) :
    IsRun key k (rearrange key f before) (f k run) (rearrange key f after) := by
  have left : (before.map key).getLast? ≠ some (some k) := by
    rw [List.getLast?_map]
    intro last
    obtain ⟨a, ha, hkey⟩ := Option.map_eq_some_iff.mp last
    exact h.left a ha hkey
  have right : (after.map key).head? ≠ some (some k) := by
    rw [List.head?_map]
    intro first
    obtain ⟨a, ha, hkey⟩ := Option.map_eq_some_iff.mp first
    exact h.right a ha hkey
  rw [← map_key_rearrange (f := f) perm, List.getLast?_map] at left
  rw [← map_key_rearrange (f := f) perm, List.head?_map] at right
  refine ⟨fun empty => ?_, fun a ha => ?_, fun a ha hkey => ?_, fun a ha hkey => ?_⟩
  · exact h.nonempty (List.nil_perm.mp (empty ▸ perm k run))
  · exact h.keyed a ((perm k run).mem_iff.mp ha)
  · exact left (Option.map_eq_some_iff.mpr ⟨a, ha, hkey⟩)
  · exact right (Option.map_eq_some_iff.mpr ⟨a, ha, hkey⟩)

theorem getElem?_rearrange_alone (perm : ∀ k members, (f k members).Perm members) {a : α}
    (alone : ∀ k, key a = some k → IsRun key k before [a] after) :
    (rearrange key f (before ++ [a] ++ after))[before.length]? = some a := by
  have uniform : Segment.Uniform key ⟨key a, [a]⟩ := ⟨by simp, by simp, by simp⟩
  have split : rearrange key f (before ++ [a] ++ after) = rearrange key f before ++
      (Segment.rewrite f ⟨key a, [a]⟩).members ++ rearrange key f after := by
    cases hkey : key a with
    | none =>
      rw [hkey] at uniform
      exact rearrange_append_append uniform (Or.inl rfl) (Or.inl rfl)
    | some k => exact (alone k hkey).rearrange_split
  have same : (Segment.rewrite f ⟨key a, [a]⟩).members = [a] :=
    List.perm_singleton.mp (Segment.rewrite_perm perm ⟨key a, [a]⟩)
  have place : (rearrange key f before).length = before.length :=
    (rearrange_perm key perm before).length_eq
  rw [split, same, ← place]
  simp

theorem eq_rewrite_of_rearrange (perm : ∀ k members, (f k members).Perm members)
    {s : Segment α κ} (uniform : s.Uniform key)
    (left : s.key = none ∨ ∀ a ∈ before.getLast?, key a ≠ s.key)
    (right : s.key = none ∨ ∀ a ∈ after.head?, key a ≠ s.key)
    (split : rearrange key f xs = before ++ s.members ++ after) :
    s = Segment.rewrite f ⟨s.key, (xs.drop before.length).take s.members.length⟩ := by
  have cuts : segments key (rearrange key f xs) = _ := segments_rearrange perm xs
  rw [split, segments_append_append uniform left right] at cuts
  obtain ⟨earlier, rest, hcuts, hearlier, hrest⟩ := List.map_eq_append_iff.mp cuts.symm
  obtain ⟨t, later, rfl, rfl, -⟩ := List.map_eq_cons_iff.mp hrest
  have hbefore : (earlier.flatMap (·.members)).length = before.length := by
    rw [← segments_flatMap_members key before, ← hearlier, List.flatMap_map,
      List.length_flatMap, List.length_flatMap]
    congr 1
    exact List.map_congr_left fun t _ => (t.rewrite_perm perm).length_eq.symm
  have hxs := segments_flatMap_members key xs
  rw [hcuts, List.flatMap_append, List.flatMap_cons] at hxs
  rw [← hxs, ← hbefore, List.drop_left, (t.rewrite_perm perm).length_eq, List.take_left,
    t.key_rewrite]

theorem IsRun.eq_of_rearrange (h : IsRun key k before run after)
    (perm : ∀ k members, (f k members).Perm members)
    (split : rearrange key f xs = before ++ run ++ after) :
    run = f k ((xs.drop before.length).take run.length) :=
  congrArg Segment.members
    (eq_rewrite_of_rearrange perm h.uniform (Or.inr h.left) (Or.inr h.right) split)

theorem isRun_of_segments {earlier later : List (Segment α κ)} {s : Segment α κ}
    (cuts : segments key xs = earlier ++ s :: later) (keyed : s.key = some k) :
    IsRun key k (earlier.flatMap (·.members)) s.members (later.flatMap (·.members)) := by
  have cut := segmentation_segments key xs
  rw [cuts] at cut
  obtain ⟨chain, chain', boundary⟩ := List.isChain_append.mp cut.apart
  obtain ⟨boundary', chain'⟩ := List.isChain_cons.mp chain'
  have front : Segmentation key earlier := ⟨fun t ht => cut.uniform t (by simp [ht]), chain⟩
  have back : Segmentation key later := ⟨fun t ht => cut.uniform t (by simp [ht]), chain'⟩
  have uniform := cut.uniform s (by simp)
  refine ⟨uniform.nonempty, fun a ha => (uniform.keyed a ha).trans keyed, ?_, ?_⟩
  · intro a ha hkey
    cases last : earlier.getLast? with
    | none => simp [List.getLast?_eq_none_iff.mp last] at ha
    | some t =>
      obtain ⟨b, hb, same⟩ := front.key_getLast last
      obtain rfl : b = a := Option.some.inj (hb.symm.trans ha)
      have apart := boundary t last s rfl
      simp [Segment.Apart, ← same, hkey, keyed] at apart
  · intro a ha hkey
    cases first : later.head? with
    | none => simp [List.head?_eq_none_iff.mp first] at ha
    | some t =>
      obtain ⟨b, hb, same⟩ := back.key_head first
      obtain rfl : b = a := Option.some.inj (hb.symm.trans ha)
      have apart := boundary' t first
      simp [Segment.Apart, ← same, hkey, keyed] at apart

theorem append_of_segments {earlier later : List (Segment α κ)} {s : Segment α κ}
    (cuts : segments key xs = earlier ++ s :: later) :
    xs = earlier.flatMap (·.members) ++ s.members ++ later.flatMap (·.members) := by
  have flat := segments_flatMap_members key xs
  rw [cuts, List.flatMap_append, List.flatMap_cons, ← List.append_assoc] at flat
  exact flat.symm

theorem isRun_of_mem_segments {s : Segment α κ} (mem : s ∈ segments key xs)
    (keyed : s.key = some k) :
    ∃ before after, xs = before ++ s.members ++ after ∧ IsRun key k before s.members after := by
  obtain ⟨earlier, later, cuts⟩ := List.append_of_mem mem
  exact ⟨_, _, append_of_segments cuts, isRun_of_segments cuts keyed⟩

/-- A rewriting leaves a list as it is if and only if it leaves every run as it is. -/
theorem rearrange_eq_self_iff (perm : ∀ k members, (f k members).Perm members) :
    rearrange key f xs = xs ↔ ∀ k before run after, xs = before ++ run ++ after →
      IsRun key k before run after → f k run = run := by
  constructor
  · intro fixed k before run after split isRun
    have rewritten := isRun.eq_of_rearrange perm (fixed.trans split)
    have found : (xs.drop before.length).take run.length = run := by simp [split]
    rw [found] at rewritten
    exact rewritten.symm
  · intro fixed
    rw [rearrange_eq, List.flatMap_map]
    conv_rhs => rw [← segments_flatMap_members key xs]
    refine List.flatMap_congr fun s mem => ?_
    unfold Segment.rewrite
    split
    · rename_i k keyed
      obtain ⟨before, after, split, isRun⟩ := isRun_of_mem_segments mem keyed
      exact fixed k before s.members after split isRun
    · rfl

/-- An element without a key stays where it is, and no other comes to stand there. -/
theorem getElem?_rearrange_iff (perm : ∀ k members, (f k members).Perm members) {i : Nat} {a : α}
    (unkeyed : key a = none) : (rearrange key f xs)[i]? = some a ↔ xs[i]? = some a := by
  have kept : ∀ b, key b = none → xs[i]? = some b → (rearrange key f xs)[i]? = some b := by
    intro b unkeyed' found
    obtain ⟨hi, rfl⟩ := List.getElem?_eq_some_iff.mp found
    have split : xs.take i ++ [xs[i]] ++ xs.drop (i + 1) = xs := by simp
    have alone : ∀ k, key xs[i] = some k → IsRun key k (xs.take i) [xs[i]] (xs.drop (i + 1)) := by
      simp [unkeyed']
    have place := getElem?_rearrange_alone perm alone
    rwa [split, List.length_take_of_le hi.le] at place
  refine ⟨fun found => ?_, kept a unkeyed⟩
  have same_keys : (rearrange key f xs).map key = xs.map key := map_key_rearrange perm xs
  have keys := congrArg (·[i]?) same_keys
  simp only [List.getElem?_map, found, Option.map_some, unkeyed] at keys
  obtain ⟨b, hb, unkeyed'⟩ := Option.map_eq_some_iff.mp keys.symm
  have same : b = a := Option.some.inj ((kept b unkeyed' hb).symm.trans found)
  rw [hb, same]

end ServiceRoute.Corridor
