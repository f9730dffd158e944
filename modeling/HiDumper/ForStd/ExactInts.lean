import Mathlib.Data.UInt

/-!
# Exact integers behind wrapping ones

A sum of 64-bit values is the residue of the exact sum, however often it has wrapped around on
the way. So a result can be computed with integers first (`UInt64.ofInt` goes through sums and
differences), and only the last value has to be in range.
-/

namespace UInt64

/-- Wrapping a natural number does not depend on its type. -/
theorem ofInt_natCast (n : Nat) : UInt64.ofInt n = UInt64.ofNat n := by
  apply UInt64.toNat_inj.mp
  rw [UInt64.ofInt, UInt64.toNat_ofNat', UInt64.toNat_ofNat']
  omega

/-- Reading a 64-bit number as a natural one and wrapping it again changes nothing. -/
theorem ofInt_toNat (x : UInt64) : UInt64.ofInt x.toNat = x := by
  rw [ofInt_natCast, UInt64.ofNat_toNat]

/-- Wrapping goes through differences. -/
theorem ofInt_sub (m n : Int) : UInt64.ofInt (m - n) = UInt64.ofInt m - UInt64.ofInt n := by
  rw [Int.sub_eq_add_neg, ofInt_add, UInt64.ofInt_neg, UInt64.sub_eq_add_neg]

/-- A value in range is exact. -/
theorem toNat_ofInt {n : Int} (hlow : 0 ≤ n) (hhigh : n < 2 ^ 64) :
    ((UInt64.ofInt n).toNat : Int) = n := by
  rw [UInt64.ofInt, UInt64.toNat_ofNat']
  omega

/-- The same residue as a signed value. -/
theorem toInt64_ofInt (n : Int) : (UInt64.ofInt n).toInt64 = Int64.ofInt n := by
  have hresidue : 0 ≤ n % 2 ^ 64 := by omega
  rw [UInt64.ofInt, UInt64.toInt64_ofNat', ← Int64.ofInt_eq_ofNat, Int.toNat_of_nonneg hresidue]
  apply Int64.toInt.inj
  rw [Int64.toInt_ofInt, Int64.toInt_ofInt]
  exact Int.emod_bmod n Int64.size

/-- A wrapped sum is the residue of the exact one. -/
theorem toNat_sum (l : List UInt64) : l.sum.toNat = (l.map (·.toNat)).sum % 2 ^ 64 := by
  induction l with
  | nil => rfl
  | cons x l ih =>
    rw [List.sum_cons, List.map_cons, List.sum_cons, UInt64.toNat_add, ih]
    omega

end UInt64
