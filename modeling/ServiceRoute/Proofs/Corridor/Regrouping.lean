import Mathlib.Tactic.SplitIfs
import ServiceRoute.Proofs.Corridor.Permutation

/-!
# Regrouping settles

A list is settled when regrouping would pull nothing: within the window of every
element, those that share its key stand right behind it. Only the keys decide about
that. One pass of regrouping settles a list, because what it pulls forward for one
element never brings elements of another key any closer.
-/

namespace ServiceRoute.Corridor

variable {α κ : Type}

/-- Among the first `reach` elements those with key `k` come first. -/
def Fronted (key : α → Option κ) (reach : Nat) (k : κ) (xs : List α) : Prop :=
  (xs.take reach).Pairwise fun a b => key b = some k → key a = some k

/-- None of the first `reach` elements has key `k`. -/
def Absent (key : α → Option κ) (reach : Nat) (k : κ) (xs : List α) : Prop :=
  ∀ a ∈ xs.take reach, key a ≠ some k

/-- Nothing is left to pull behind any element. -/
def Settled (key : α → Option κ) (window : Nat) : List α → Prop
  | [] => True
  | a :: rest => (∀ k, key a = some k → Fronted key (window - 1) k rest) ∧
      Settled key window rest

section Reach

variable {key : α → Option κ} {reach reach' : Nat} {k : κ} {a : α} {xs : List α}

theorem Fronted.mono (h : Fronted key reach k xs) (le : reach' ≤ reach) :
    Fronted key reach' k xs := by
  have front := h.sublist (List.take_sublist reach' _)
  rwa [List.take_take, Nat.min_eq_left le] at front

theorem Absent.fronted (h : Absent key reach k xs) : Fronted key reach k xs :=
  List.pairwise_of_forall_mem_list fun _ _ b hb hkey => absurd hkey (h b hb)

theorem pairwise_append_of_keyed {front back : List α} (keyed : ∀ a ∈ front, key a = some k)
    (others : ∀ b ∈ back, key b ≠ some k) :
    (front ++ back).Pairwise fun a b => key b = some k → key a = some k := by
  refine List.pairwise_append.mpr ⟨?_, ?_, fun a ha _ _ _ => keyed a ha⟩
  · exact List.pairwise_of_forall_mem_list fun a ha _ _ _ => keyed a ha
  · exact List.pairwise_of_forall_mem_list fun _ _ b hb hkey => absurd hkey (others b hb)

theorem Absent.cons (h : Absent key reach k xs) (other : key a ≠ some k) :
    Absent key (reach + 1) k (a :: xs) := by
  simpa [Absent] using ⟨other, h⟩

theorem Fronted.cons_match (h : Fronted key reach k xs) (same : key a = some k) :
    Fronted key (reach + 1) k (a :: xs) := by
  rw [Fronted, List.take_succ_cons, List.pairwise_cons]
  exact ⟨fun _ _ _ => same, h⟩

theorem Fronted.absent_tail (h : Fronted key (reach + 1) k (a :: xs)) (other : key a ≠ some k) :
    Absent key reach k xs := by
  rw [Fronted, List.take_succ_cons, List.pairwise_cons] at h
  exact fun b hb hkey => other (h.1 b hb hkey)

theorem Fronted.of_map_key {ys : List α} (h : Fronted key reach k xs)
    (same : xs.map key = ys.map key) : Fronted key reach k ys := by
  have onKeys : ∀ zs : List α, Fronted key reach k zs ↔
      ((zs.map key).take reach).Pairwise fun p q => q = some k → p = some k := by
    intro zs
    rw [← List.map_take, List.pairwise_map]
    rfl
  rw [onKeys] at h ⊢
  rwa [← same]

theorem Settled.of_map_key {window : Nat} {ys : List α} (h : Settled key window xs)
    (same : xs.map key = ys.map key) : Settled key window ys := by
  induction xs generalizing ys with
  | nil =>
    obtain rfl : ys = [] := by simpa using same.symm
    trivial
  | cons a xs ih =>
    cases ys with
    | nil => simp at same
    | cons b ys =>
      obtain ⟨head, tail⟩ := List.cons.inj same
      exact ⟨fun k hk => (h.1 k (head.trans hk)).of_map_key tail, ih h.2 tail⟩

end Reach

section Pull

variable [DecidableEq κ] {key : α → Option κ} {reach : Nat} {k k' : κ} {xs : List α}

theorem length_partition (key : α → Option κ) (k : κ) (near : List α) :
    (near.filter (key · = some k) ++ near.filter (key · ≠ some k)).length = near.length := by
  have split := (List.filter_append_perm (fun a => key a = some k) near).length_eq
  simpa using split

theorem take_pullForward (key : α → Option κ) (reach : Nat) (k : κ) (xs : List α) :
    (pullForward key reach k xs).take reach =
      (xs.take reach).filter (key · = some k) ++ (xs.take reach).filter (key · ≠ some k) := by
  have near := length_partition key k (xs.take reach)
  rw [List.length_take] at near
  rw [pullForward, List.take_append, List.take_of_length_le (by omega), near]
  by_cases whole : xs.length ≤ reach
  · rw [List.drop_of_length_le whole]
    simp
  · rw [Nat.min_eq_left (by omega)]
    simp

theorem fronted_pullForward (key : α → Option κ) (reach : Nat) (k : κ) (xs : List α) :
    Fronted key reach k (pullForward key reach k xs) := by
  rw [Fronted, take_pullForward]
  refine pairwise_append_of_keyed (fun a ha => ?_) fun b hb => ?_
  · simpa using (List.mem_filter.mp ha).2
  · simpa using (List.mem_filter.mp hb).2

theorem partition_of_pairwise {near : List α}
    (h : near.Pairwise fun a b => key b = some k → key a = some k) :
    near.filter (key · = some k) ++ near.filter (key · ≠ some k) = near := by
  induction near with
  | nil => rfl
  | cons a near ih =>
    obtain ⟨front, rest⟩ := List.pairwise_cons.mp h
    by_cases hkey : key a = some k
    · simpa [hkey] using ih rest
    · have absent : ∀ b ∈ a :: near, key b ≠ some k := by
        refine List.forall_mem_cons.mpr ⟨hkey, fun b hb hb' => hkey (front b hb hb')⟩
      rw [List.filter_eq_nil_iff.mpr (by simpa using absent),
        List.filter_eq_self.mpr (by simpa using absent), List.nil_append]

theorem Fronted.pullForward_eq (h : Fronted key reach k xs) : pullForward key reach k xs = xs := by
  rw [pullForward, partition_of_pairwise h, List.take_append_drop]

theorem pullForward_append_of_le {front : List α} (le : reach ≤ front.length) (back : List α) :
    pullForward key reach k (front ++ back) = pullForward key reach k front ++ back := by
  simp [pullForward, List.take_append_of_le_length le, List.drop_append_of_le_length le]

/-- Pulling from beyond a stretch puts the elements with the key, and then the rest of the
stretch, in front of anything else. -/
theorem pullForward_append_of_ge (key : α → Option κ) (k : κ) {front : List α}
    (ge : front.length ≤ reach) (back : List α) :
    ∃ pulled rest, pullForward key reach k (front ++ back) =
        front.filter (key · = some k) ++ pulled ++ front.filter (key · ≠ some k) ++ rest ∧
      ∀ a ∈ pulled, key a = some k := by
  refine ⟨(back.take (reach - front.length)).filter (key · = some k),
    (back.take (reach - front.length)).filter (key · ≠ some k) ++
      back.drop (reach - front.length), ?_, fun a ha => ?_⟩
  · rw [pullForward, List.take_append, List.drop_append, List.take_of_length_le ge,
      List.drop_of_length_le ge]
    simp
  · simpa using (List.mem_filter.mp ha).2

/-- Behind a stretch without the key `k`, pulling for another key leaves such a stretch, at
least as long. -/
theorem exists_front_pullForward (reach' : Nat) (other : k' ≠ k) {front : List α}
    (absent : ∀ a ∈ front, key a ≠ some k) (back : List α) :
    ∃ front' back', pullForward key reach' k' (front ++ back) = front' ++ back' ∧
      front.length ≤ front'.length ∧ ∀ a ∈ front', key a ≠ some k := by
  rcases Nat.le_total reach' front.length with le | ge
  · refine ⟨pullForward key reach' k' front, back, pullForward_append_of_le le back,
      Nat.le_of_eq (length_pullForward key reach' k' front).symm, fun a ha => ?_⟩
    exact absent a ((pullForward_perm key reach' k' front).mem_iff.mp ha)
  · obtain ⟨pulled, rest, split, keyed⟩ := pullForward_append_of_ge key k' ge back
    refine ⟨_, rest, split, ?_, fun a ha => ?_⟩
    · have partition := length_partition key k' front
      simp only [List.length_append] at partition ⊢
      omega
    · rcases List.mem_append.mp ha with ha | ha
      · rcases List.mem_append.mp ha with ha | ha
        · exact absent a (List.mem_of_mem_filter ha)
        · simpa [keyed a ha] using other
      · exact absent a (List.mem_of_mem_filter ha)

/-- What is pulled forward for one key does not bring another key closer. -/
theorem Absent.pullForward {reach' : Nat} (h : Absent key reach k xs) (other : k' ≠ k) :
    Absent key reach k (pullForward key reach' k' xs) := by
  obtain ⟨front, back, split, longer, absent⟩ :=
    exists_front_pullForward reach' other h (xs.drop reach)
  rw [List.take_append_drop] at split
  intro a ha
  by_cases whole : xs.length ≤ reach
  · rw [Absent, List.take_of_length_le whole] at h
    exact h a ((pullForward_perm key reach' k' xs).mem_iff.mp (List.mem_of_mem_take ha))
  · rw [List.length_take] at longer
    rw [split, List.take_append_of_le_length (by omega)] at ha
    exact absent a (List.mem_of_mem_take ha)

end Pull

section Regroup

variable [DecidableEq κ] {key : α → Option κ} {window : Nat} {k : κ} {xs : List α}

theorem regroup_none {a : α} (h : key a = none) (rest : List α) :
    regroup key window (a :: rest) = a :: regroup key window rest := by
  rw [regroup, h]

theorem regroup_some {a : α} (h : key a = some k) (rest : List α) :
    regroup key window (a :: rest) =
      a :: regroup key window (pullForward key (window - 1) k rest) := by
  rw [regroup, h]

theorem Absent.regroup {reach : Nat} (h : Absent key reach k xs) :
    Absent key reach k (regroup key window xs) := by
  induction xs using regroup.induct key window generalizing reach with
  | case1 => simpa [Corridor.regroup] using h
  | case2 a rest hkey ih =>
    cases reach with
    | zero => simp [Absent]
    | succ reach =>
      rw [regroup_none hkey]
      have behind : Absent key reach k rest := fun b hb => h b (by simp [hb])
      exact (ih behind).cons (by simp [hkey])
  | case3 a rest k' hkey ih =>
    cases reach with
    | zero => simp [Absent]
    | succ reach =>
      rw [regroup_some hkey]
      have other : key a ≠ some k := h a (by simp)
      have behind : Absent key reach k rest := fun b hb => h b (by simp [hb])
      refine (ih (behind.pullForward ?_)).cons other
      rintro rfl
      exact other hkey

theorem Fronted.regroup {reach : Nat} (h : Fronted key reach k xs) (le : reach ≤ window - 1) :
    Fronted key reach k (regroup key window xs) := by
  induction xs using regroup.induct key window generalizing reach with
  | case1 => simpa [Corridor.regroup] using h
  | case2 a rest hkey ih =>
    cases reach with
    | zero => simp [Fronted]
    | succ reach =>
      have other : key a ≠ some k := by simp [hkey]
      rw [regroup_none hkey]
      exact ((h.absent_tail other).regroup.cons other).fronted
  | case3 a rest k' hkey ih =>
    cases reach with
    | zero => simp [Fronted]
    | succ reach =>
      rw [regroup_some hkey]
      by_cases same : k' = k
      · subst same
        have pulled := (fronted_pullForward key (window - 1) k' rest).mono
          (Nat.le_of_succ_le le)
        exact (ih pulled (Nat.le_of_succ_le le)).cons_match hkey
      · have other : key a ≠ some k := by simpa [hkey] using same
        exact (((h.absent_tail other).pullForward same).regroup.cons other).fronted

theorem settled_regroup (key : α → Option κ) (window : Nat) (xs : List α) :
    Settled key window (regroup key window xs) := by
  induction xs using regroup.induct key window with
  | case1 =>
    rw [regroup]
    trivial
  | case2 a rest hkey ih =>
    rw [regroup_none hkey]
    exact ⟨by simp [hkey], ih⟩
  | case3 a rest k hkey ih =>
    rw [regroup_some hkey]
    refine ⟨fun k' hk' => ?_, ih⟩
    obtain rfl : k = k' := Option.some.inj (hkey.symm.trans hk')
    exact (fronted_pullForward key (window - 1) k rest).regroup (Nat.le_refl _)

theorem Settled.regroup_eq (h : Settled key window xs) : regroup key window xs = xs := by
  induction xs with
  | nil => simp [regroup]
  | cons a rest ih =>
    cases hkey : key a with
    | none => rw [regroup_none hkey, ih h.2]
    | some k => rw [regroup_some hkey, (h.1 k hkey).pullForward_eq, ih h.2]

end Regroup

end ServiceRoute.Corridor
