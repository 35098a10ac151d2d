import Mathlib.Data.List.Chain
import ServiceRoute.Proofs.Corridor.Permutation

/-!
# Segmentations

There is one way to cut a list into maximal stretches of one key, and `segments`
finds it. A list that is rewritten segment by segment, every segment by a
permutation of it, is therefore cut at the same places again.
-/

namespace ServiceRoute.Corridor

variable {α κ : Type}

/-- The members have the key of the segment. A segment without a key is one element. -/
structure Segment.Uniform (key : α → Option κ) (s : Segment α κ) : Prop where
  keyed : ∀ a ∈ s.members, key a = s.key
  nonempty : s.members ≠ []
  single : s.key = none → s.members.length = 1

/-- Neighbours that are two segments and not one. -/
def Segment.Apart (s t : Segment α κ) : Prop :=
  s.key = none ∨ s.key ≠ t.key

/-- A list cut into maximal stretches of one key. -/
structure Segmentation (key : α → Option κ) (cuts : List (Segment α κ)) : Prop where
  uniform : ∀ s ∈ cuts, s.Uniform key
  apart : cuts.IsChain Segment.Apart

theorem segmentation_nil (key : α → Option κ) : Segmentation key [] :=
  ⟨by simp, by simp⟩

theorem Segmentation.tail {key : α → Option κ} {s : Segment α κ} {later : List (Segment α κ)}
    (h : Segmentation key (s :: later)) : Segmentation key later :=
  ⟨fun t ht => h.uniform t (List.mem_cons_of_mem s ht), h.apart.tail⟩

theorem Segmentation.cons {key : α → Option κ} {s : Segment α κ} {later : List (Segment α κ)}
    (h : Segmentation key later) (uniform : s.Uniform key)
    (apart : ∀ t ∈ later.head?, s.Apart t) : Segmentation key (s :: later) :=
  ⟨List.forall_mem_cons.mpr ⟨uniform, h.uniform⟩, List.isChain_cons.mpr ⟨apart, h.apart⟩⟩

theorem Segmentation.append {key : α → Option κ} {earlier later : List (Segment α κ)}
    (h : Segmentation key earlier) (h' : Segmentation key later)
    (apart : ∀ s ∈ earlier.getLast?, ∀ t ∈ later.head?, s.Apart t) :
    Segmentation key (earlier ++ later) :=
  ⟨fun s hs => (List.mem_append.mp hs).elim (h.uniform s) (h'.uniform s),
    List.isChain_append.mpr ⟨h.apart, h'.apart, apart⟩⟩

section Cuts

variable [DecidableEq κ] {key : α → Option κ}

theorem prepend_none {a : α} (h : key a = none) (later : List (Segment α κ)) :
    prepend key a later = ⟨none, [a]⟩ :: later := by
  simp [prepend, h]

theorem prepend_join {a : α} {k : κ} (h : key a = some k) (members : List α)
    (later : List (Segment α κ)) :
    prepend key a (⟨some k, members⟩ :: later) = ⟨some k, a :: members⟩ :: later := by
  simp [prepend, h]

theorem prepend_apart {a : α} {k : κ} (h : key a = some k) {later : List (Segment α κ)}
    (apart : ∀ s ∈ later.head?, s.key ≠ some k) :
    prepend key a later = ⟨some k, [a]⟩ :: later := by
  match later with
  | [] => simp [prepend, h]
  | ⟨none, members⟩ :: later => simp [prepend, h]
  | ⟨some k', members⟩ :: later =>
    have different : k ≠ k' := by
      rintro rfl
      exact apart _ rfl rfl
    simp [prepend, h, different]

theorem Segmentation.prepend {cuts : List (Segment α κ)} (h : Segmentation key cuts) (a : α) :
    Segmentation key (prepend key a cuts) := by
  cases hkey : key a with
  | none =>
    rw [prepend_none hkey]
    exact h.cons ⟨by simp [hkey], by simp, by simp⟩ fun _ _ => Or.inl rfl
  | some k =>
    by_cases joined : ∃ members later, cuts = ⟨some k, members⟩ :: later
    · obtain ⟨members, later, rfl⟩ := joined
      rw [prepend_join hkey]
      have front := h.uniform ⟨some k, members⟩ (by simp)
      refine h.tail.cons ⟨List.forall_mem_cons.mpr ⟨hkey, front.keyed⟩, by simp, by simp⟩ ?_
      exact (List.isChain_cons.mp h.apart).1
    · have apart : ∀ s ∈ cuts.head?, s.key ≠ some k := by
        intro s hs hsk
        obtain ⟨later, rfl⟩ : ∃ later, cuts = s :: later := List.head?_eq_some_iff.mp hs
        exact joined ⟨s.members, later, by rw [← hsk]⟩
      rw [prepend_apart hkey apart]
      exact h.cons ⟨by simp [hkey], by simp, by simp⟩ fun s hs => Or.inr (apart s hs).symm

theorem segmentation_segments (key : α → Option κ) (xs : List α) :
    Segmentation key (segments key xs) := by
  induction xs with
  | nil => exact segmentation_nil key
  | cons a xs ih => exact ih.prepend a

theorem Segment.Uniform.foldr_prepend {s : Segment α κ} (h : s.Uniform key)
    {later : List (Segment α κ)} (apart : ∀ t ∈ later.head?, s.Apart t) :
    s.members.foldr (Corridor.prepend key) later = s :: later := by
  obtain ⟨k, members⟩ := s
  cases k with
  | none =>
    obtain ⟨a, rfl⟩ := List.length_eq_one_iff.mp (h.single rfl)
    exact prepend_none (h.keyed a (by simp)) later
  | some k =>
    have front : ∀ t ∈ later.head?, t.key ≠ some k := by
      intro t ht same
      rcases apart t ht with unkeyed | different
      · cases unkeyed
      · exact different same.symm
    have keyed := h.keyed
    have nonempty := h.nonempty
    clear h apart
    induction members with
    | nil => exact absurd rfl nonempty
    | cons a members ih =>
      have hkey : key a = some k := keyed a (by simp)
      cases members with
      | nil => exact prepend_apart hkey front
      | cons b members =>
        rw [List.foldr_cons, ih (fun c hc => keyed c (by simp [hc])) (by simp)]
        exact prepend_join hkey _ _

/-- A list is cut in one way only. -/
theorem segments_of_segmentation {cuts : List (Segment α κ)} (h : Segmentation key cuts) :
    segments key (cuts.flatMap (·.members)) = cuts := by
  induction cuts with
  | nil => rfl
  | cons s later ih =>
    have front := (List.isChain_cons.mp h.apart).1
    have rest := ih h.tail
    rw [segments] at rest
    rw [List.flatMap_cons, segments, List.foldr_append, rest]
    exact (h.uniform s (by simp)).foldr_prepend front

end Cuts

section Rewriting

/-- The segment with its members rewritten, if it has a key. -/
def Segment.rewrite (f : κ → List α → List α) (s : Segment α κ) : Segment α κ :=
  match s.key with
  | some k => { s with members := f k s.members }
  | none => s

variable {f g : κ → List α → List α}

theorem Segment.key_rewrite (s : Segment α κ) : (s.rewrite f).key = s.key := by
  unfold rewrite
  split <;> rfl

theorem Segment.rewrite_perm (perm : ∀ k members, (f k members).Perm members)
    (s : Segment α κ) : (s.rewrite f).members.Perm s.members := by
  unfold rewrite
  split
  · exact perm _ _
  · exact List.Perm.refl _

theorem Segment.rewrite_rewrite (s : Segment α κ) :
    (s.rewrite f).rewrite g = s.rewrite fun k members => g k (f k members) := by
  obtain ⟨k, members⟩ := s
  cases k <;> rfl

variable {key : α → Option κ}

theorem Segment.Uniform.rewrite {s : Segment α κ} (h : s.Uniform key)
    (perm : ∀ k members, (f k members).Perm members) : (s.rewrite f).Uniform key := by
  have same := s.rewrite_perm perm
  refine ⟨fun a ha => ?_, fun empty => ?_, fun unkeyed => ?_⟩
  · rw [s.key_rewrite]
    exact h.keyed a (same.mem_iff.mp ha)
  · exact h.nonempty (List.nil_perm.mp (empty ▸ same))
  · rw [s.key_rewrite] at unkeyed
    rw [same.length_eq, h.single unkeyed]

theorem Segmentation.rewrite {cuts : List (Segment α κ)} (h : Segmentation key cuts)
    (perm : ∀ k members, (f k members).Perm members) :
    Segmentation key (cuts.map (Segment.rewrite f)) := by
  refine ⟨?_, ?_⟩
  · intro s hs
    obtain ⟨t, ht, rfl⟩ := List.mem_map.mp hs
    exact (h.uniform t ht).rewrite perm
  · refine (List.isChain_map _).mpr (h.apart.imp fun s t apart => ?_)
    unfold Segment.Apart at apart ⊢
    rwa [s.key_rewrite, t.key_rewrite]

theorem map_key_members {cuts : List (Segment α κ)} (h : Segmentation key cuts) :
    (cuts.flatMap (·.members)).map key =
      cuts.flatMap fun s => List.replicate s.members.length s.key := by
  rw [List.map_flatMap]
  refine List.flatMap_congr fun s hs => ?_
  rw [List.eq_replicate_iff]
  simpa using (h.uniform s hs).keyed

variable [DecidableEq κ]

theorem rearrange_eq (key : α → Option κ) (f : κ → List α → List α) (xs : List α) :
    rearrange key f xs = ((segments key xs).map (Segment.rewrite f)).flatMap (·.members) := by
  rw [rearrange, List.flatMap_map]
  congr 1
  funext s
  unfold Segment.rewrite
  split <;> simp_all

/-- A list rewritten within its segments keeps its segments. -/
theorem segments_rearrange (perm : ∀ k members, (f k members).Perm members) (xs : List α) :
    segments key (rearrange key f xs) = (segments key xs).map (Segment.rewrite f) := by
  rw [rearrange_eq]
  exact segments_of_segmentation ((segmentation_segments key xs).rewrite perm)

theorem rearrange_rearrange (perm : ∀ k members, (f k members).Perm members) (xs : List α) :
    rearrange key g (rearrange key f xs) =
      rearrange key (fun k members => g k (f k members)) xs := by
  rw [rearrange_eq, segments_rearrange perm, rearrange_eq, List.map_map]
  congr 2
  funext s
  exact s.rewrite_rewrite

theorem map_key_rearrange (perm : ∀ k members, (f k members).Perm members) (xs : List α) :
    (rearrange key f xs).map key = xs.map key := by
  have cut := segmentation_segments key xs
  have keys := map_key_members cut
  rw [segments_flatMap_members] at keys
  rw [rearrange_eq, map_key_members (cut.rewrite perm), keys, List.flatMap_map]
  refine List.flatMap_congr fun s _ => ?_
  rw [s.key_rewrite, (s.rewrite_perm perm).length_eq]

end Rewriting

end ServiceRoute.Corridor
