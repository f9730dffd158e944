import Mathlib

/-!
# What a sort by a comparison gives

A sort is known by what it promises: it moves elements and leaves none before one that the
comparison puts in front of it. Where elements that the comparison does not tell apart are
equal, that leaves one list only.

## Key results

- `ite_ne_lt_iff`: a comparison that looks at one key after another is lexicographic
- `flatMap_filter_perm`: a list is put together from its classes
- `Sorts.eq_of_perm`: two sorts of the same elements give the same list
- `Sorts.pairwise_before`: what the comparison tells apart is in strict order
-/

/-- Compare one key, and go on where it does not decide. -/
theorem ite_ne_lt_iff {β : Type*} [LT β] [Std.Irrefl fun a b : β => a < b] {x y : β}
    [Decidable (x ≠ y)] [Decidable (x < y)] {rest : Bool} :
    (if x ≠ y then decide (x < y) else rest) = true ↔ x < y ∨ x = y ∧ rest = true := by
  by_cases heq : x = y
  · subst heq
    have hirrefl : ¬x < x := Std.Irrefl.irrefl x
    simp [hirrefl]
  · simp [heq]

namespace List

variable {α β : Type*}

/-- A rearrangement of images is the images of a rearrangement. -/
theorem Perm.exists_map {f : α → β} {l : List α} {m : List β} (h : m.Perm (l.map f)) :
    ∃ l' : List α, l'.Perm l ∧ m = l'.map f := by
  have himages : Forall₂ (fun b a => b = f a) (l.map f) l := by
    rw [forall₂_map_left_iff]
    exact forall₂_same.mpr fun _ _ => rfl
  obtain ⟨l', himages', hperm⟩ := perm_comp_forall₂ h himages
  refine ⟨l', hperm, ?_⟩
  rw [← forall₂_map_right_iff, forall₂_eq_eq_eq] at himages'
  exact himages'

/-- A list put together from the classes of its elements. -/
theorem flatMap_filter_perm [DecidableEq β] {f : α → β} {classes : List β} (h : classes.Nodup)
    (l : List α) :
    (classes.flatMap fun c => l.filter fun a => f a = c).Perm (l.filter fun a => f a ∈ classes) := by
  induction classes with
  | nil => simp
  | cons c classes ih =>
    obtain ⟨hc, hclasses⟩ := nodup_cons.mp h
    -- Split by the first class: its own elements, and those of the other classes, since no class
    -- is listed twice.
    have hfirst : (l.filter fun a => f a ∈ c :: classes).filter (fun a => f a = c) =
        l.filter fun a => f a = c := by
      rw [filter_filter]
      refine filter_congr fun a _ => ?_
      by_cases heq : f a = c
      · simp [heq]
      · simp [heq]
    have hrest : (l.filter fun a => f a ∈ c :: classes).filter (fun a => !decide (f a = c)) =
        l.filter fun a => f a ∈ classes := by
      rw [filter_filter]
      refine filter_congr fun a _ => ?_
      by_cases heq : f a = c
      · simp [heq, hc]
      · simp [heq]
    have hsplit := filter_append_perm (fun a => decide (f a = c))
      (l.filter fun a => f a ∈ c :: classes)
    rw [hfirst, hrest] at hsplit
    rw [flatMap_cons]
    exact ((ih hclasses).append_left _).trans hsplit

/-- `sort` sorts by `before`. -/
structure Sorts (before : α → α → Bool) (sort : List α → List α) : Prop where
  perm : ∀ l, (sort l).Perm l
  pairwise : ∀ l, (sort l).Pairwise fun a b => before b a = false

namespace Sorts

variable {before : α → α → Bool} {sort sort' : List α → List α} {l l' : List α}

/-- Sorting keeps the elements. -/
theorem mem_iff (h : Sorts before sort) {a : α} : a ∈ sort l ↔ a ∈ l := (h.perm l).mem_iff

/-- Whatever the sort and the order of the elements, the sorted list is the same. -/
theorem eq_of_perm (h : Sorts before sort) (h' : Sorts before sort') (hperm : l.Perm l')
    (hties : ∀ a ∈ l, ∀ b ∈ l, before b a = false → before a b = false → a = b) :
    sort l = sort' l' := by
  refine Perm.eq_of_pairwise (fun a b ha hb => ?_) (h.pairwise l) (h'.pairwise l')
    ((h.perm l).trans (hperm.trans (h'.perm l').symm))
  exact hties a (h.mem_iff.mp ha) b (hperm.mem_iff.mpr (h'.mem_iff.mp hb))

/-- Sorted elements that the comparison tells apart are in strict order. -/
theorem pairwise_before (h : Sorts before sort) (hnodup : l.Nodup)
    (hties : ∀ a ∈ l, ∀ b ∈ l, before b a = false → before a b = false → a = b) :
    (sort l).Pairwise fun a b => before a b = true := by
  have hsorted := (h.pairwise l).and ((h.perm l).nodup_iff.mpr hnodup)
  refine hsorted.imp_of_mem fun {a b} ha hb ⟨hle, hne⟩ => ?_
  by_contra hnot
  exact hne (hties a (h.mem_iff.mp ha) b (h.mem_iff.mp hb) hle (by simpa using hnot))

/-- Elements that the comparison of their keys does not tell apart are equal if their keys
    tell them apart. -/
theorem eq_of_ties {κ : Type*} [LinearOrder κ] {key : α → κ}
    (h : ∀ a b, before a b = true ↔ key a < key b)
    (hkey : ∀ a ∈ l, ∀ b ∈ l, key a = key b → a = b) :
    ∀ a ∈ l, ∀ b ∈ l, before b a = false → before a b = false → a = b := by
  intro a ha b hb hba hab
  have hle : ¬key b < key a := by rw [← h b a, hba]; exact Bool.false_ne_true
  have hge : ¬key a < key b := by rw [← h a b, hab]; exact Bool.false_ne_true
  exact hkey a ha b hb (le_antisymm (not_lt.mp hle) (not_lt.mp hge))

/-- A merge sort by keys is one. -/
theorem mergeSort {κ : Type*} [LinearOrder κ] {key : α → κ}
    (h : ∀ a b, before a b = true ↔ key a < key b) :
    Sorts before fun l => l.mergeSort fun a b => decide (key a ≤ key b) where
  perm l := mergeSort_perm l _
  pairwise l := by
    have hsorted : (l.mergeSort fun a b => decide (key a ≤ key b)).Pairwise
        fun a b => decide (key a ≤ key b) = true := pairwise_mergeSort
      (fun a b c hab hbc => by simp only [decide_eq_true_eq] at *; exact le_trans hab hbc)
      (fun a b => by simpa using le_total (key a) (key b)) l
    refine hsorted.imp fun {a b} hle => ?_
    have hnot : ¬key b < key a := not_lt.mpr (of_decide_eq_true hle)
    rw [← h b a] at hnot
    simpa using hnot

end Sorts

end List
