import Mathlib.Data.List.Nodup
import Mathlib.Data.List.Perm.Subperm
import Mathlib.Order.Lattice

/-!
# The largest elements seen so far

A scan that keeps at most `n` elements, those with the largest keys. Which of several
elements with equal keys it keeps is left open. The three lemmas about one more element
are the three things a scan can do with it: keep it next to the others, keep it in the
place of a smallest one, or pass it over.

Which elements are kept is determined exactly when no key is `TiedAtCut`.
-/

variable {α β : Type} [LinearOrder β]

/-- `kept` are `n` elements of `seen` with the largest keys, or all of them if there are
    fewer. -/
structure IsLargest (key : α → β) (n : Nat) (seen kept : List α) : Prop where
  length : kept.length = min n seen.length
  /-- The others have no larger keys. -/
  split : ∃ left, (kept ++ left).Perm seen ∧ ∀ a ∈ left, ∀ b ∈ kept, key a ≤ key b

/-- The last of the `n` places falls among elements with one key, of which some get a
    place and some do not. -/
def TiedAtCut (key : α → β) (n : Nat) (seen : List α) : Prop :=
  ∃ c, seen.countP (fun a => c < key a) < n ∧ n < seen.countP fun a => c ≤ key a

/-- Around a tie at the cut: the elements above the tied key, two at least at the key, and
    the elements below it. -/
theorem TiedAtCut.exists_split {key : α → β} {n : Nat} {seen : List α}
    (h : TiedAtCut key n seen) :
    ∃ above x level below, (above ++ x :: (level ++ below)).Perm seen ∧ above.length < n ∧
      n ≤ above.length + level.length ∧
      (∀ a ∈ above ++ level, key x ≤ key a) ∧ ∀ b ∈ level ++ below, key b ≤ key x := by
  obtain ⟨c, habove, hlevel⟩ := h
  -- Elements at or above `c`, and of these the ones above it.
  have hout := List.filter_append_perm (fun a => decide (c ≤ key a)) seen
  generalize hatLeast : seen.filter (fun a => decide (c ≤ key a)) = atLeast at hout
  have hin := List.filter_append_perm (fun a => decide (c < key a)) atLeast
  have hlength : (atLeast.filter fun a => decide (c < key a)).length < n := by
    refine Nat.lt_of_le_of_lt ?_ habove
    rw [← hatLeast, List.countP_eq_length_filter]
    exact (List.filter_sublist.filter _).length_le
  have htotal : n < atLeast.length := by
    rw [← hatLeast, ← List.countP_eq_length_filter]
    exact hlevel
  have hsum := hin.length_eq
  rw [List.length_append] at hsum
  cases hties : atLeast.filter (fun a => !decide (c < key a)) with
  | nil =>
    rw [hties, List.length_nil] at hsum
    omega
  | cons x level =>
    rw [hties] at hin hsum
    rw [List.length_cons] at hsum
    have hties' : ∀ a ∈ x :: level, key a = c := by
      intro a ha
      rw [← hties, ← hatLeast] at ha
      simp only [List.mem_filter, decide_eq_true_eq, Bool.not_eq_true', decide_eq_false_iff_not,
        not_lt] at ha
      exact le_antisymm ha.2 ha.1.2
    have hx : key x = c := hties' x List.mem_cons_self
    refine ⟨atLeast.filter fun a => decide (c < key a), x, level,
      seen.filter fun a => !decide (c ≤ key a), ?_, hlength, by omega, ?_, ?_⟩
    · rw [← List.cons_append, ← List.append_assoc]
      exact (hin.append_right _).trans hout
    · intro a ha
      rw [hx]
      cases List.mem_append.mp ha with
      | inl hmem => exact (of_decide_eq_true (List.mem_filter.mp hmem).2).le
      | inr hmem => exact (hties' a (List.mem_cons_of_mem x hmem)).ge
    · intro b hb
      rw [hx]
      cases List.mem_append.mp hb with
      | inl hmem => exact (hties' b (List.mem_cons_of_mem x hmem)).le
      | inr hmem =>
        have hlt : ¬c ≤ key b := by simpa using (List.mem_filter.mp hmem).2
        exact (not_le.mp hlt).le

namespace IsLargest

variable {key : α → β} {n : Nat} {seen kept : List α} {a b : α}

/-- Of nothing, nothing is kept. -/
theorem nil (key : α → β) (n : Nat) : IsLargest key n [] [] :=
  ⟨by simp, [], .refl _, fun _ h => nomatch h⟩

/-- The order in which the largest elements are kept does not matter. -/
theorem congr {kept' : List α} (h : IsLargest key n seen kept) (hperm : kept'.Perm kept) :
    IsLargest key n seen kept' := by
  obtain ⟨left, hsplit, hle⟩ := h.split
  refine ⟨hperm.length_eq.trans h.length, left, (hperm.append_right left).trans hsplit, ?_⟩
  exact fun x hx y hy => hle x hx y (hperm.subset hy)

/-- The order in which the elements were seen does not matter. -/
theorem of_perm {seen' : List α} (h : IsLargest key n seen kept) (hperm : seen.Perm seen') :
    IsLargest key n seen' kept := by
  obtain ⟨left, hsplit, hle⟩ := h.split
  exact ⟨by rw [h.length, hperm.length_eq], left, hsplit.trans hperm, hle⟩

/-- All elements are kept where there are places for them. -/
theorem perm_of_length_le (h : IsLargest key n seen kept) (hroom : seen.length ≤ n) :
    kept.Perm seen := by
  have hlength := h.length
  obtain ⟨left, hsplit, -⟩ := h.split
  have htotal := hsplit.length_eq
  rw [List.length_append] at htotal
  obtain rfl : left = [] := List.eq_nil_of_length_eq_zero (by omega)
  rwa [List.append_nil] at hsplit

/-- As long as there is room, the next element is kept. -/
theorem push (h : IsLargest key n seen kept) (hroom : kept.length < n) :
    IsLargest key n (seen ++ [a]) (a :: kept) := by
  have hlength := h.length
  obtain ⟨left, hsplit, -⟩ := h.split
  have htotal := hsplit.length_eq
  rw [List.length_append] at htotal
  -- Everything seen so far is kept.
  obtain rfl : left = [] := List.eq_nil_of_length_eq_zero (by omega)
  rw [List.append_nil] at hsplit
  constructor
  · simp only [List.length_cons, List.length_append]
    omega
  · refine ⟨[], ?_, fun _ hx => nomatch hx⟩
    rw [List.append_nil]
    exact (hsplit.cons a).trans (List.perm_append_singleton a seen).symm

/-- Without room, an element above the smallest kept one takes its place. -/
theorem replace (h : IsLargest key n seen (b :: kept)) (hfull : n ≤ kept.length + 1)
    (hleast : ∀ c ∈ kept, key b ≤ key c) (hlt : key b < key a) :
    IsLargest key n (seen ++ [a]) (a :: kept) := by
  have hlength := h.length
  obtain ⟨left, hsplit, hle⟩ := h.split
  rw [List.length_cons] at hlength
  constructor
  · simp only [List.length_cons, List.length_append]
    omega
  · refine ⟨b :: left, ?_, ?_⟩
    · have hmove : (a :: kept ++ b :: left).Perm (a :: (b :: kept ++ left)) :=
        List.perm_middle.cons a
      exact hmove.trans ((hsplit.cons a).trans (List.perm_append_singleton a seen).symm)
    · intro x hx y hy
      -- What goes out is below all that stays, and what was out is below what goes out.
      have hxb : key x ≤ key b := by
        cases List.mem_cons.mp hx with
        | inl heq => rw [heq]
        | inr hmem => exact hle x hmem b List.mem_cons_self
      cases List.mem_cons.mp hy with
      | inl heq => exact heq ▸ hxb.trans hlt.le
      | inr hmem => exact hxb.trans (hleast y hmem)

/-- Without room, an element that is not above the smallest kept one is left out. -/
theorem skip (h : IsLargest key n seen (b :: kept)) (hfull : n ≤ kept.length + 1)
    (hleast : ∀ c ∈ kept, key b ≤ key c) (hle : key a ≤ key b) :
    IsLargest key n (seen ++ [a]) (b :: kept) := by
  have hlength := h.length
  obtain ⟨left, hsplit, hleft⟩ := h.split
  rw [List.length_cons] at hlength
  constructor
  · simp only [List.length_cons, List.length_append]
    omega
  · refine ⟨a :: left, ?_, ?_⟩
    · have hmove : (b :: kept ++ a :: left).Perm (a :: (b :: kept ++ left)) := List.perm_middle
      exact hmove.trans ((hsplit.cons a).trans (List.perm_append_singleton a seen).symm)
    -- The newcomer is below the least of the kept ones, and so below all of them.
    · intro x hx y hy
      have hby : key b ≤ key y := by
        cases List.mem_cons.mp hy with
        | inl heq => rw [heq]
        | inr hmem => exact hleast y hmem
      cases List.mem_cons.mp hx with
      | inl heq => exact heq ▸ hle.trans hby
      | inr hmem => exact hleft x hmem y hy

/-- An element that one scan keeps and another does not has a key at the cut. -/
theorem tiedAtCut_of_ne {kept' : List α} (hnodup : seen.Nodup) (h : IsLargest key n seen kept)
    (h' : IsLargest key n seen kept') (ha : a ∈ kept) (hnot : a ∉ kept') :
    TiedAtCut key n seen := by
  have hlength := h.length
  have hlength' := h'.length
  obtain ⟨left, hsplit, hle⟩ := h.split
  obtain ⟨left', hsplit', hle'⟩ := h'.split
  have hkept' : kept'.Nodup := (hsplit'.nodup_iff.mpr hnodup).of_append_left
  -- In its place the other scan keeps some `b`.
  obtain ⟨b, hb, hbnot⟩ : ∃ b ∈ kept', b ∉ kept := by
    by_contra hall
    push Not at hall
    have hperm : kept'.Perm kept :=
      (hkept'.subperm hall).perm_of_length_le (by omega)
    exact hnot (hperm.symm.subset ha)
  have hamem : a ∈ kept' ++ left' :=
    hsplit'.symm.subset (hsplit.subset (List.mem_append_left left ha))
  have haleft : a ∈ left' := (List.mem_append.mp hamem).resolve_left hnot
  have hbmem : b ∈ kept ++ left :=
    hsplit.symm.subset (hsplit'.subset (List.mem_append_left left' hb))
  have hbleft : b ∈ left := (List.mem_append.mp hbmem).resolve_left hbnot
  have hkey : key a = key b := le_antisymm (hle' a haleft b hb) (hle b hbleft a ha)
  have htotal := hsplit.length_eq
  rw [List.length_append] at htotal
  have hpos : 0 < left.length := List.length_pos_of_mem hbleft
  refine ⟨key a, ?_, ?_⟩
  · -- Above the key of `a` there are only elements that are kept, and `a` is not one of them.
    have hout : left.countP (fun x => key a < key x) = 0 := by
      rw [List.countP_eq_zero]
      intro x hx
      simpa using hle x hx a ha
    have hin : kept.countP (fun x => key a < key x) < kept.length := by
      refine Nat.lt_of_le_of_ne List.countP_le_length fun hall => ?_
      have hself := List.countP_eq_length.mp hall a ha
      simp at hself
    rw [← hsplit.countP_eq, List.countP_append, hout]
    omega
  · -- All that is kept is at or above it, and so is `b`.
    have hin : kept.countP (fun x => key a ≤ key x) = kept.length := by
      rw [List.countP_eq_length]
      intro x hx
      simpa [hkey] using hle b hbleft x hx
    have hout : 0 < left.countP (fun x => key a ≤ key x) := by
      rw [List.countP_pos_iff]
      exact ⟨b, hbleft, by simp [hkey]⟩
    rw [← hsplit.countP_eq, List.countP_append, hin]
    omega

/-- Where there is no tie at the cut, two scans keep the same elements. -/
theorem perm_of_not_tied {kept' : List α} (hnodup : seen.Nodup) (h : IsLargest key n seen kept)
    (h' : IsLargest key n seen kept') (hcut : ¬TiedAtCut key n seen) : kept.Perm kept' := by
  have hkept : kept.Nodup := by
    obtain ⟨left, hsplit, -⟩ := h.split
    exact (hsplit.nodup_iff.mpr hnodup).of_append_left
  -- The two have one length, so it is enough that one is contained in the other.
  have hlength : kept'.length ≤ kept.length := by
    have hlength := h.length
    have hlength' := h'.length
    omega
  refine (hkept.subperm fun a ha => ?_).perm_of_length_le hlength
  by_contra hnot
  exact hcut (tiedAtCut_of_ne hnodup h h' ha hnot)

end IsLargest
