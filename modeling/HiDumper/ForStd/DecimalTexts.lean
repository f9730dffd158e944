import Mathlib.Data.Nat.Basic
import Mathlib.Data.String.Basic

/-!
# The order of decimal texts

Texts of numbers are compared by their length first and then letter by letter. Without
leading zeros that is the order of the numbers.

## Key results

- `Nat.toString_before_iff`: the shorter text, or the smaller one of the same length, is the
  one of the smaller number
-/

namespace Nat

/-- Digits are ordered like their characters. -/
theorem digitChar_lt_digitChar {m n : Nat} (h : m < n) (hn : n < 10) :
    m.digitChar < n.digitChar := by
  have hall : ∀ n < 10, ∀ m < n, m.digitChar < n.digitChar := by decide
  exact hall n hn m h

/-- A smaller number has no longer text. -/
theorem length_toDigits_le {m n : Nat} (h : m ≤ n) :
    (toDigits 10 m).length ≤ (toDigits 10 n).length := by
  have hpos : 0 < (toDigits 10 n).length := length_toDigits_pos
  rw [length_toDigits_le_iff (by decide) hpos]
  have hn := (length_toDigits_le_iff (n := n) (b := 10) (by decide) hpos).mp (Nat.le_refl _)
  omega

end Nat

namespace List

/-- What stands behind two different lists of the same length does not matter. -/
theorem append_lt_append_of_length_eq {α : Type*} [LT α] {l₁ l₂ r₁ r₂ : List α} (h : l₁ < l₂)
    (hlength : l₁.length = l₂.length) : l₁ ++ r₁ < l₂ ++ r₂ := by
  induction h with
  | nil => simp at hlength
  | rel hlt => exact .rel hlt
  | cons _ ih => exact .cons (ih (by simpa using hlength))

end List

namespace Nat

/-- Of two texts of the same length the one of the smaller number is smaller. -/
theorem toDigits_lt_toDigits {m n : Nat} (h : m < n)
    (hlength : (toDigits 10 m).length = (toDigits 10 n).length) :
    toDigits 10 m < toDigits 10 n := by
  induction n using Nat.strongRecOn generalizing m with
  | ind n ih =>
    by_cases hn : n < 10
    · rw [toDigits_of_lt_base hn, toDigits_of_lt_base (by omega)]
      exact .rel (digitChar_lt_digitChar h hn)
    · have hm : ¬m < 10 := by
        intro hm
        rw [toDigits_of_lt_base hm, toDigits_of_base_le (by decide) (by omega),
          List.length_append] at hlength
        have hpos := length_toDigits_pos (b := 10) (n := n / 10)
        simp only [List.length_cons, List.length_nil] at hlength
        omega
      rw [toDigits_of_base_le (by decide) (by omega : 10 ≤ m),
        toDigits_of_base_le (by decide) (by omega : 10 ≤ n)] at hlength ⊢
      simp only [List.length_append, List.length_cons, List.length_nil] at hlength
      by_cases hq : m / 10 < n / 10
      · exact List.append_lt_append_of_length_eq (ih (n / 10) (by omega) hq (by omega)) (by omega)
      · -- The numbers differ in the last digit only.
        have heq : m / 10 = n / 10 := by omega
        rw [heq]
        exact List.append_left_lt (.rel (digitChar_lt_digitChar (by omega) (by omega)))

/-- Texts compared by length and then letter by letter are in the order of the numbers. -/
theorem toString_before_iff {m n : Nat} :
    ((toString m).length < (toString n).length ∨
      (toString m).length = (toString n).length ∧ toString m < toString n) ↔ m < n := by
  have htext : ∀ k : Nat, (toString k).toList = toDigits 10 k := fun k => toList_repr
  have hlen : ∀ k : Nat, (toString k).length = (toDigits 10 k).length := fun k => by
    rw [← htext, String.length_toList]
  rw [hlen, hlen, String.lt_iff_toList_lt, htext, htext]
  constructor
  · intro h
    -- A larger number never has the shorter text, nor one before it of the same length.
    by_contra hle
    rcases h with hlt | ⟨heq, hlt⟩
    · have hback := length_toDigits_le (Nat.le_of_not_lt hle)
      omega
    · rcases Nat.lt_or_eq_of_le (Nat.le_of_not_lt hle) with hgt | hsame
      · exact absurd (List.lt_trans hlt (toDigits_lt_toDigits hgt heq.symm)) (List.lt_irrefl _)
      · exact absurd (hsame ▸ hlt) (List.lt_irrefl _)
  · intro h
    rcases Nat.lt_or_eq_of_le (length_toDigits_le (Nat.le_of_lt h)) with hlt | heq
    · exact .inl hlt
    · exact .inr ⟨heq, toDigits_lt_toDigits h heq⟩

/-- Different numbers have different texts. -/
theorem eq_of_toString_eq {m n : Nat} (h : toString m = toString n) : m = n := by
  by_contra hne
  rcases Nat.lt_or_gt_of_ne hne with hlt | hlt
  · have hbefore := toString_before_iff.mpr hlt
    rw [h] at hbefore
    exact hbefore.elim (Nat.lt_irrefl _) fun hsame => absurd hsame.2 (lt_irrefl _)
  · have hbefore := toString_before_iff.mpr hlt
    rw [h] at hbefore
    exact hbefore.elim (Nat.lt_irrefl _) fun hsame => absurd hsame.2 (lt_irrefl _)

end Nat
