import HiDumper.ForStd.UnorderedMap
import Mathlib.Algebra.BigOperators.Group.List.Basic

/-!
# Sums over maps that are filled in step by step

`upsert` is the pattern of a counter or of a table of totals: the first time a key is
seen it gets a fresh value, later its value is updated. When a measure of the values
grows by the same amount in both cases, its sum over the map grows by that amount,
whatever the keys are. So the sum over a table filled from a list is the sum over the
list (`sumVals_foldl_upsert`). When the values are added up themselves, each key of the
table has the sum over its own items (`lookup_foldl_tally`).
-/

namespace AList

variable {α ν M : Type*} [AddCommMonoid M]

/-- The sum of a measure over the values of a map. -/
def sumVals (f : ν → M) (s : UnorderedMap α ν) : M := (s.entries.map fun e => f e.2).sum

/-- The empty map sums to zero. -/
@[simp] theorem sumVals_empty (f : ν → M) : sumVals f (∅ : UnorderedMap α ν) = 0 := rfl

variable [DecidableEq α]

/-- A new key adds its value to the sum. -/
theorem sumVals_insert_of_notMem (f : ν → M) {s : UnorderedMap α ν} {a : α} (b : ν)
    (h : a ∉ s) : sumVals f (s.insert a b) = f b + sumVals f s := by
  unfold sumVals
  rw [entries_insert_of_notMem h, List.map_cons, List.sum_cons]

/-- An erased value is missing from the sum. -/
theorem sumVals_erase (f : ν → M) {s : UnorderedMap α ν} {a : α} {v : ν}
    (h : s.lookup a = some v) : f v + sumVals f (s.erase a) = sumVals f s := by
  unfold sumVals
  rw [((entries_perm_cons_erase h).map _).sum_eq, List.map_cons, List.sum_cons]

/-- Replacing the value of a key. -/
theorem sumVals_insert_of_lookup (f : ν → M) {s : UnorderedMap α ν} {a : α} {v b : ν} {δ : M}
    (h : s.lookup a = some v) (hb : f b = f v + δ) :
    sumVals f (s.insert a b) = sumVals f s + δ := by
  rw [← sumVals_erase f h]
  show ((⟨a, b⟩ :: (s.erase a).entries).map fun e : Sigma fun _ : α => ν => f e.2).sum = _
  rw [List.map_cons, List.sum_cons, hb, add_right_comm]
  rfl

/-- Give a new key the value `fresh`, and update the value of a known one. -/
def upsert (s : UnorderedMap α ν) (a : α) (fresh : ν) (update : ν → ν) : UnorderedMap α ν :=
  match s.lookup a with
  | none => s.insert a fresh
  | some v => s.insert a (update v)

/-- An update is seen under its own key only. -/
theorem lookup_upsert (s : UnorderedMap α ν) (a : α) (fresh : ν) (update : ν → ν) (k : α) :
    (s.upsert a fresh update).lookup k =
      if k = a then some ((s.lookup a).elim fresh update) else s.lookup k := by
  unfold upsert
  by_cases hk : k = a
  · subst hk
    cases s.lookup k <;> simp
  · cases s.lookup a <;> simp [lookup_insert_ne hk, hk]

/-- An update that adds the same amount to a fresh and to an old value adds it to the sum. -/
theorem sumVals_upsert (f : ν → M) {s : UnorderedMap α ν} {a : α} {fresh : ν} {update : ν → ν}
    {δ : M} (hfresh : f fresh = δ) (hupdate : ∀ v, f (update v) = f v + δ) :
    sumVals f (s.upsert a fresh update) = sumVals f s + δ := by
  unfold upsert
  cases h : s.lookup a with
  | none => rw [sumVals_insert_of_notMem f _ (lookup_eq_none.mp h), hfresh, add_comm]
  | some v => exact sumVals_insert_of_lookup f h (hupdate v)

/-- The sum over a table filled from a list is the sum over the list. -/
theorem sumVals_foldl_upsert {ι : Type*} (f : ν → M) (δ : ι → M) (key : ι → α) (fresh : ι → ν)
    (update : ι → ν → ν) (hfresh : ∀ i, f (fresh i) = δ i)
    (hupdate : ∀ i v, f (update i v) = f v + δ i) (items : List ι) (s : UnorderedMap α ν) :
    sumVals f (items.foldl (fun s i => s.upsert (key i) (fresh i) (update i)) s) =
      sumVals f s + (items.map δ).sum := by
  induction items generalizing s with
  | nil => simp
  | cons item items ih =>
    rw [List.foldl_cons, ih, sumVals_upsert f (hfresh item) (hupdate item), List.map_cons,
      List.sum_cons, add_assoc]

/-! ## Adding up by key -/

/-- A table of totals, to which every item adds its amount under its key. -/
def tally {ι : Type*} (key : ι → α) (amount : ι → M) (s : UnorderedMap α M) (item : ι) :
    UnorderedMap α M :=
  s.upsert (key item) (amount item) (· + amount item)

/-- A tally has the keys that were counted, and those that were there before. -/
theorem mem_foldl_tally {ι : Type*} (key : ι → α) (amount : ι → M) (items : List ι)
    (s : UnorderedMap α M) (k : α) :
    k ∈ items.foldl (tally key amount) s ↔ k ∈ s ∨ ∃ item ∈ items, key item = k := by
  induction items generalizing s with
  | nil => simp
  | cons item items ih =>
    have hone : k ∈ tally key amount s item ↔ k ∈ s ∨ key item = k := by
      rw [← lookup_isSome, tally, lookup_upsert]
      by_cases hk : k = key item
      · simp [hk]
      · rw [if_neg hk, lookup_isSome]
        simp [eq_comm, hk]
    rw [List.foldl_cons, ih, hone, or_assoc]
    simp

/-- Each key has the sum over its own items. -/
theorem getD_lookup_foldl_tally {ι : Type*} (key : ι → α) (amount : ι → M) (items : List ι)
    (s : UnorderedMap α M) (k : α) :
    ((items.foldl (tally key amount) s).lookup k).getD 0 =
      (s.lookup k).getD 0 + ((items.filter fun item => key item = k).map amount).sum := by
  induction items generalizing s with
  | nil => simp
  | cons item items ih =>
    rw [List.foldl_cons, ih, tally, lookup_upsert]
    by_cases hk : k = key item
    · subst hk
      rw [if_pos rfl, List.filter_cons_of_pos (by simp), List.map_cons, List.sum_cons, ← add_assoc]
      cases s.lookup (key item) with
      | none => simp
      | some v => simp
    · rw [if_neg hk, List.filter_cons_of_neg (by simpa using Ne.symm hk)]

/-- After a tally there is under each key the sum of the amounts that were counted for it. -/
theorem lookup_foldl_tally {ι : Type*} (key : ι → α) (amount : ι → M) (items : List ι) (k : α) :
    (items.foldl (tally key amount) ∅).lookup k =
      if ∃ item ∈ items, key item = k then
        some ((items.filter fun item => key item = k).map amount).sum
      else none := by
  have hmem := mem_foldl_tally key amount items ∅ k
  have hsum := getD_lookup_foldl_tally key amount items ∅ k
  split
  · rename_i hex
    obtain ⟨v, hv⟩ := Option.isSome_iff_exists.mp (lookup_isSome.mpr (hmem.mpr (.inr hex)))
    rw [hv, Option.getD_some, lookup_empty, Option.getD_none, zero_add] at hsum
    rw [hv, hsum]
  · rename_i hnot
    rw [lookup_eq_none]
    intro hk
    obtain hempty | hex := hmem.mp hk
    · exact notMem_empty k hempty
    · exact hnot hex

end AList
