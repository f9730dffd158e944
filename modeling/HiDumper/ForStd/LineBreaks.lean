import Mathlib.Data.List.Basic
import Mathlib.Data.Nat.Digits.Defs

/-!
# Line breaks in a text

The number of line breaks of a text, which is the number of lines that are ended by one.
Numbers in a text add none.
-/

namespace String

/-- The number of line breaks. -/
def lineBreaks (text : String) : Nat := text.toList.count '\n'

/-- The line breaks of two texts add up. -/
theorem lineBreaks_append (a b : String) : (a ++ b).lineBreaks = a.lineBreaks + b.lineBreaks := by
  rw [lineBreaks, toList_append, List.count_append]
  rfl

/-- A run of another character has no line break. -/
theorem lineBreaks_ofList_replicate (n : Nat) {c : Char} (h : c ≠ '\n') :
    (ofList (List.replicate n c)).lineBreaks = 0 := by
  rw [lineBreaks, toList_ofList, List.count_replicate]
  simp [h]

/-- The line breaks of joined texts add up. -/
theorem lineBreaks_join (texts : List String) :
    (join texts).lineBreaks = (texts.map lineBreaks).sum := by
  induction texts with
  | nil => rfl
  | cons text texts ih =>
    rw [join_cons, lineBreaks_append, ih, List.map_cons, List.sum_cons]

/-- A numeral has no line break. -/
theorem lineBreaks_natToString (n : Nat) : (toString n).lineBreaks = 0 := by
  rw [lineBreaks, List.count_eq_zero]
  intro hmem
  rw [show toString n = n.repr from rfl, Nat.toList_repr] at hmem
  have hdigit := Nat.isDigit_of_mem_toDigits (by decide) (by decide) hmem
  exact absurd hdigit (by decide)

theorem lineBreaks_intToString (n : Int) : (toString n).lineBreaks = 0 := by
  rw [Int.toString_eq_repr, Int.repr_eq_if]
  split
  · exact lineBreaks_natToString _
  · rw [lineBreaks_append]
    show "-".lineBreaks + (toString (-n).toNat).lineBreaks = 0
    rw [lineBreaks_natToString]
    rfl

end String
