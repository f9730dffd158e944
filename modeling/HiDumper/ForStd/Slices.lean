import Mathlib.Data.List.Basic

/-!
# Slices of a list

A list cut into slices of one length, the last ones shorter or empty. However the number of
slices is chosen, together they are a beginning of the list, so enough of them are all of it.

## Key results

- `flatten_slices`: the first `n` slices one after the other
- `flatten_slices_of_le`: enough slices
-/

namespace List

variable {α : Type*}

/-- The `i`-th slice of length `size`. -/
def slice (size : Nat) (l : List α) (i : Nat) : List α := (l.drop (i * size)).take size

/-- The next slice is the same slice of the rest. -/
theorem slice_succ (size : Nat) (l : List α) (i : Nat) :
    slice size l (i + 1) = slice size (l.drop size) i := by
  rw [slice, slice, drop_drop, Nat.add_mul, Nat.one_mul, Nat.add_comm]

/-- The slices one after the other are the list. -/
theorem flatten_slices (size : Nat) (l : List α) (n : Nat) :
    ((range n).map (slice size l)).flatten = l.take (n * size) := by
  induction n generalizing l with
  | zero => simp
  | succ n ih =>
    have hrest : (range n).map (fun i => slice size l (i + 1)) =
        (range n).map (slice size (l.drop size)) :=
      map_congr_left fun i _ => slice_succ size l i
    rw [range_succ_eq_map, map_cons, map_map, flatten_cons, Function.comp_def, hrest, ih]
    rw [slice, Nat.zero_mul, drop_zero, Nat.add_mul, Nat.one_mul, Nat.add_comm, take_add]

/-- Slices that reach the end of the list make up the list. -/
theorem flatten_slices_of_le {size n : Nat} {l : List α} (h : l.length ≤ n * size) :
    ((range n).map (slice size l)).flatten = l := by
  rw [flatten_slices, take_of_length_le h]

end List
