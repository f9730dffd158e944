import Mathlib.Data.List.Dedup
import Mathlib.Data.List.Nodup

/-!
# First occurrences

`List.dedup` keeps the last occurrence of each element. A program that passes over a list
and drops what it has met before keeps the first one.
-/

namespace List

variable {α : Type*} [DecidableEq α]

/-- The elements in the order of their first occurrence, each once. -/
def firstOccurrences (l : List α) : List α := l.reverse.dedup.reverse

@[simp] theorem firstOccurrences_nil : ([] : List α).firstOccurrences = [] := rfl

/-- Every element stays in the list, where it occurs first. -/
@[simp] theorem mem_firstOccurrences {a : α} {l : List α} : a ∈ l.firstOccurrences ↔ a ∈ l := by
  simp [firstOccurrences]

/-- No element is kept twice. -/
theorem nodup_firstOccurrences (l : List α) : l.firstOccurrences.Nodup :=
  nodup_reverse.mpr (nodup_dedup _)

/-- One more element stays if it is new. -/
theorem firstOccurrences_concat (l : List α) (a : α) :
    (l ++ [a]).firstOccurrences =
      if a ∈ l then l.firstOccurrences else l.firstOccurrences ++ [a] := by
  unfold firstOccurrences
  rw [reverse_append, reverse_singleton, singleton_append]
  split
  · rename_i hmem
    rw [dedup_cons_of_mem (mem_reverse.mpr hmem)]
  · rename_i hmem
    rw [dedup_cons_of_notMem (by simpa using hmem), reverse_cons]

end List
