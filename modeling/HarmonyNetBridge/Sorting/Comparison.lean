import Mathlib.Data.List.Perm.Subperm
import Mathlib.Tactic.Common

/-! Lists that are sorted by a comparison which is a strict total order on their elements. -/
namespace Sorting
open List

variable {α : Type*}

/-- The comparison is a strict total order on the elements of a list. -/
structure StrictTotalOn (less : α → α → Bool) (xs : List α) : Prop where
  irrefl : ∀ a ∈ xs, less a a = false
  trans : ∀ a ∈ xs, ∀ b ∈ xs, ∀ c ∈ xs, less a b = true → less b c = true → less a c = true
  total : ∀ a ∈ xs, ∀ b ∈ xs, a ≠ b → less a b = true ∨ less b a = true

/-- No element comes after one that it is less than. -/
def Sorted (less : α → α → Bool) (xs : List α) : Prop := xs.Pairwise fun a b => less b a = false

section order
variable {less : α → α → Bool} {xs ys : List α}

theorem StrictTotalOn.mono (h : StrictTotalOn less xs) (hsub : ∀ a ∈ ys, a ∈ xs) :
    StrictTotalOn less ys where
  irrefl a ha := h.irrefl a (hsub a ha)
  trans a ha b hb c hc := h.trans a (hsub a ha) b (hsub b hb) c (hsub c hc)
  total a ha b hb := h.total a (hsub a ha) b (hsub b hb)

theorem StrictTotalOn.asymm (h : StrictTotalOn less xs) {a b : α} (ha : a ∈ xs) (hb : b ∈ xs)
    (hless : less a b = true) : less b a = false := by
  rw [← Bool.not_eq_true]
  intro hback
  have hself := h.trans a ha b hb a ha hless hback
  rw [h.irrefl a ha] at hself
  cases hself

theorem StrictTotalOn.eq_of_sorted (h : StrictTotalOn less xs) (hxs : Sorted less xs)
    (hys : Sorted less ys) (hperm : xs.Perm ys) : xs = ys := by
  apply List.Perm.eq_of_pairwise _ hxs hys hperm
  intro a b ha hb hab hba
  by_contra hne
  rcases h.total a ha b (hperm.mem_iff.mpr hb) hne with hless | hless
  · rw [hless] at hba
    cases hba
  · rw [hless] at hab
    cases hab

end order

/-- An element moves to the front as long as it is less than the one before it. The list is in
reverse order. -/
def insertBack (less : α → α → Bool) (x : α) : List α → List α
  | [] => [x]
  | y :: ys => if less x y then y :: insertBack less x ys else x :: y :: ys

/-- The insertion sort, which takes the elements from the front. -/
def insertionSort (less : α → α → Bool) (xs : List α) : List α :=
  (xs.foldl (fun done x => insertBack less x done) []).reverse

section insertion
variable {less : α → α → Bool}

theorem insertBack_perm (x : α) (ys : List α) : (insertBack less x ys).Perm (x :: ys) := by
  induction ys with
  | nil => exact List.Perm.refl _
  | cons y ys ih =>
    unfold insertBack
    split
    · exact (ih.cons y).trans (List.Perm.swap x y ys)
    · exact List.Perm.refl _

theorem foldl_insertBack_perm (xs done : List α) :
    (xs.foldl (fun done x => insertBack less x done) done).Perm (xs ++ done) := by
  induction xs generalizing done with
  | nil => exact List.Perm.refl _
  | cons x xs ih =>
    rw [foldl_cons]
    apply (ih _).trans
    apply ((insertBack_perm x done).append_left xs).trans
    exact perm_middle

theorem insertionSort_pair {a b : α} (h : less b a = false) : insertionSort less [a, b] = [a, b] := by
  simp [insertionSort, insertBack, h]

theorem insertionSort_perm (less : α → α → Bool) (xs : List α) :
    (insertionSort less xs).Perm xs := by
  have hperm : (xs.foldl (fun done x => insertBack less x done) []).Perm (xs ++ []) :=
    foldl_insertBack_perm xs []
  rw [append_nil] at hperm
  exact (reverse_perm _).trans hperm

theorem insertBack_sorted {x : α} {ys : List α} (h : StrictTotalOn less (x :: ys))
    (hys : ys.Pairwise fun a b => less a b = false) :
    (insertBack less x ys).Pairwise fun a b => less a b = false := by
  induction ys with
  | nil => exact pairwise_singleton _ _
  | cons y ys ih =>
    obtain ⟨hy, hrest⟩ := pairwise_cons.mp hys
    have hx : x ∈ x :: y :: ys := mem_cons_self
    have hfirst : y ∈ x :: y :: ys := by simp
    unfold insertBack
    split
    · rename_i hless
      apply List.Pairwise.cons
      · intro z hz
        rcases mem_cons.mp ((insertBack_perm x ys).mem_iff.mp hz) with rfl | hmem
        · exact h.asymm hx hfirst hless
        · exact hy z hmem
      · exact ih (h.mono (by simp +contextual)) hrest
    · rename_i hnot
      rw [Bool.not_eq_true] at hnot
      apply List.Pairwise.cons _ hys
      intro z hz
      rcases mem_cons.mp hz with rfl | hmem
      · exact hnot
      · -- Otherwise it would be less than the last element too.
        rw [← Bool.not_eq_true]
        intro hless
        have hz' : z ∈ x :: y :: ys := by simp [hmem]
        by_cases heq : z = y
        · rw [heq, hnot] at hless
          cases hless
        · rcases h.total z hz' y hfirst heq with hzy | hyz
          · have hxy := h.trans x hx z hz' y hfirst hless hzy
            rw [hnot] at hxy
            cases hxy
          · rw [hy z hmem] at hyz
            cases hyz

theorem foldl_insertBack_sorted (xs done : List α) (h : StrictTotalOn less (xs ++ done))
    (hdone : done.Pairwise fun a b => less a b = false) :
    (xs.foldl (fun done x => insertBack less x done) done).Pairwise fun a b => less a b = false := by
  induction xs generalizing done with
  | nil => exact hdone
  | cons x xs ih =>
    apply ih
    · apply h.mono
      intro a ha
      rw [mem_append, (insertBack_perm x done).mem_iff] at ha
      simp only [mem_cons, cons_append, mem_append] at ha ⊢
      tauto
    · apply insertBack_sorted _ hdone
      apply h.mono
      intro a ha
      simp only [mem_cons, cons_append, mem_append] at ha ⊢
      tauto

theorem insertionSort_sorted (xs : List α) (h : StrictTotalOn less xs) :
    Sorted less (insertionSort less xs) := by
  unfold Sorted insertionSort
  rw [pairwise_reverse]
  apply foldl_insertBack_sorted xs [] _ List.Pairwise.nil
  rwa [append_nil]

/-! An insertion never reorders what is there -/

theorem sublist_insertBack (x : α) (ys : List α) : ys.Sublist (insertBack less x ys) := by
  induction ys with
  | nil => exact nil_sublist _
  | cons y ys ih =>
    unfold insertBack
    split
    · exact ih.cons_cons y
    · exact sublist_cons_self x (y :: ys)

theorem sublist_foldl_insertBack (xs done : List α) :
    done.Sublist (xs.foldl (fun done x => insertBack less x done) done) := by
  induction xs generalizing done with
  | nil => exact List.Sublist.refl _
  | cons x xs ih => exact (sublist_insertBack x done).trans (ih _)

/-- Elements that stand in front, and that the sort leaves as they are, keep their order. -/
theorem front_sublist_insertionSort {front rest : List α} (h : insertionSort less front = front) :
    front.Sublist (insertionSort less (front ++ rest)) := by
  have hsub := (@sublist_foldl_insertBack α less rest
    (front.foldl (fun done x => insertBack less x done) [])).reverse
  rw [← foldl_append] at hsub
  rw [insertionSort] at h
  rwa [h] at hsub

theorem not_sublist_swap {xs : List α} {a b : α} (hnodup : xs.Nodup) (hab : [a, b].Sublist xs)
    (hba : [b, a].Sublist xs) : False := by
  induction xs with
  | nil => cases hab
  | cons x xs ih => grind

/-- A comparison by which the insertion sort has one result for all orders of its input is a strict
total order: two equal elements, or three in a circle, come out as they stand in front. -/
theorem strictTotalOn_of_insertionSort {xs : List α} (hnodup : xs.Nodup)
    (hirrefl : ∀ a, less a a = false) (hasymm : ∀ a b, less a b = true → less b a = false)
    (h : ∀ ys, ys.Perm xs → insertionSort less ys = insertionSort less xs) :
    StrictTotalOn less xs := by
  have hfront (front : List α) (hmem : ∀ a ∈ front, a ∈ xs) (hne : front.Nodup)
      (hsame : insertionSort less front = front) : front.Sublist (insertionSort less xs) := by
    obtain ⟨front', hperm, hsub⟩ := hne.subperm hmem
    obtain ⟨rest, hrest⟩ := hsub.exists_perm_append
    rw [← h (front ++ rest) ((hrest.trans (hperm.append_right rest)).symm)]
    exact front_sublist_insertionSort hsame
  have hsorted : (insertionSort less xs).Nodup := (insertionSort_perm less xs).nodup_iff.mpr hnodup
  have htotal : ∀ a ∈ xs, ∀ b ∈ xs, a ≠ b → less a b = true ∨ less b a = true := by
    intro a ha b hb hne
    by_contra hnot
    rw [not_or, Bool.not_eq_true, Bool.not_eq_true] at hnot
    apply not_sublist_swap hsorted (a := a) (b := b)
    · exact hfront _ (by simp [ha, hb]) (by simp [hne]) (insertionSort_pair hnot.2)
    · exact hfront _ (by simp [ha, hb]) (by simp [hne.symm]) (insertionSort_pair hnot.1)
  refine ⟨fun a _ => hirrefl a, fun a ha b hb c hc hab hbc => ?_, htotal⟩
  have hne {x y : α} (hless : less x y = true) : x ≠ y := by
    rintro rfl
    rw [hirrefl x] at hless
    cases hless
  have hac : a ≠ c := by
    rintro rfl
    rw [hasymm a b hab] at hbc
    cases hbc
  refine (htotal a ha c hc hac).resolve_right fun hca => ?_
  have hbacks := hasymm a b hab
  have hbacks' := hasymm b c hbc
  have hbacks'' := hasymm c a hca
  have hfirst := hfront [a, b, c] (by simp [ha, hb, hc])
    (by simp [hne hab, hac, hne hbc]) (by simp [insertionSort, insertBack, hbacks, hbacks'])
  have hsecond := hfront [b, c, a] (by simp [ha, hb, hc])
    (by simp [hne hbc, (hne hab).symm, hac.symm])
    (by simp [insertionSort, insertBack, hbacks', hbacks''])
  refine not_sublist_swap hsorted (a := a) (b := b) (.trans ?_ hfirst) (.trans ?_ hsecond)
  · simp
  · simp

end insertion

end Sorting
