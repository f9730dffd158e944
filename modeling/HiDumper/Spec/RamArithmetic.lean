import HiDumper.ForStd.ExactInts
import HiDumper.Native.RamInfo
import Mathlib.Algebra.Order.BigOperators.Group.List

/-!
# The RAM of the device is computed exactly

`GetRam` negates one entry by wrapping around, subtracts it back by another wrap, and takes
the difference of two totals inside a longer sum. All of it is arithmetic modulo 2^64, so each
value is the residue of the exact integer, and the results are exact as soon as these
integers are in range.

## Key results

- `getValueMapValue_eq`, `getGroupMapValue_eq`: the exact integers behind the totals
- `getCachedInfo_eq`: the cached memory is never negative
- `exactRam_getRam`: all of `Ram`
-/

namespace HiDumper.Spec

open HiDumper.Native GetRamInfo MemoryFilter

/-! ## The exact values -/

/-- The entry of a key; a missing one counts as zero. -/
def entry (infos : ValueMap) (key : String) : Int := ((infos.lookup key).getD 0).toNat

/-- The sum of the entries of a key over all groups. -/
def groupTotal (infos : GroupMap) (key : String) : Int :=
  AList.sumVals (fun values => entry values key) infos

/-- What is reclaimable is counted once. -/
def cached (meminfo : ValueMap) : Int :=
  max 0 (entry meminfo "Buffers" + entry meminfo "Cached" + entry meminfo "KReclaimable" +
    (if entry meminfo "KReclaimable" = 0 then entry meminfo "SReclaimable" else 0) -
      entry meminfo "Mapped")

def kernelUsed (meminfo : ValueMap) : Int :=
  entry meminfo "Shmem" + entry meminfo "Slab" + entry meminfo "VmallocUsed" +
    entry meminfo "PageTables" + entry meminfo "KernelStack"

/-- All results are the exact integers. -/
structure ExactRam (smapsInfo : GroupMap) (meminfo : ValueMap) (ram : Ram) : Prop where
  total : (ram.total.toNat : Int) = entry meminfo "MemTotal"
  cachedInfo : (ram.cachedInfo.toNat : Int) = cached meminfo
  freeInfo : (ram.freeInfo.toNat : Int) = entry meminfo "MemFree"
  free : (ram.free.toNat : Int) = cached meminfo + entry meminfo "MemFree"
  totalPss : (ram.totalPss.toNat : Int) = groupTotal smapsInfo "Pss"
  kernelUsed : (ram.kernelUsed.toNat : Int) = kernelUsed meminfo
  used : (ram.used.toNat : Int) = groupTotal smapsInfo "Pss" + Spec.kernelUsed meminfo
  lost : ram.lost.toInt = entry meminfo "MemTotal" -
    ((groupTotal smapsInfo "Pss" - groupTotal smapsInfo "SwapPss") + entry meminfo "MemFree" +
      cached meminfo + Spec.kernelUsed meminfo)

/-- At most 2^10 groups, and all entries below 2^50. -/
structure InRange (smapsInfo : GroupMap) (meminfo : ValueMap) : Prop where
  groups : smapsInfo.entries.length ≤ 2 ^ 10
  smaps : ∀ info ∈ smapsInfo.entries, ∀ key value, info.2.lookup key = some value →
    value.toNat < 2 ^ 50
  meminfo : ∀ key value, meminfo.lookup key = some value → value.toNat < 2 ^ 50

/-! ## Wrapped totals -/

/-- The share of a key in a total. -/
def signedEntry (infos : ValueMap) (key : String) : Int :=
  if key = "Mapped" then -entry infos key else entry infos key

/-- A value in the map, read as a number. -/
private theorem ofInt_entry {infos : ValueMap} {key : String} {value : UInt64}
    (h : infos.lookup key = some value) : UInt64.ofInt (entry infos key) = value := by
  rw [entry, h, Option.getD_some, UInt64.ofInt_toNat]

/-- A missing key counts as 0. -/
private theorem entry_of_none {infos : ValueMap} {key : String} (h : infos.lookup key = none) :
    entry infos key = 0 := by
  rw [entry, h]
  rfl

/-- The loop over the keys adds the values up, `Mapped` with a minus. -/
private theorem foldl_values (infos : ValueMap) (strs : List String) (n : Int) :
    strs.foldl (fun totalValue str =>
      match infos.lookup str with
      | some value => if str = "Mapped" then totalValue - value else totalValue + value
      | none => totalValue) (UInt64.ofInt n) =
      UInt64.ofInt (n + (strs.map (signedEntry infos)).sum) := by
  induction strs generalizing n with
  | nil => simp
  | cons str strs ih =>
    have hstep : (match infos.lookup str with
        | some value =>
          if str = "Mapped" then UInt64.ofInt n - value else UInt64.ofInt n + value
        | none => UInt64.ofInt n) = UInt64.ofInt (n + signedEntry infos str) := by
      unfold signedEntry
      cases hstr : infos.lookup str with
      | none => simp [entry_of_none hstr]
      | some value =>
        -- `Mapped` is the one entry that is taken off; in wrapping arithmetic it is one more
        -- summand.
        by_cases hmapped : str = "Mapped"
        · simp only [hmapped, if_true]
          rw [← Int.sub_eq_add_neg, UInt64.ofInt_sub, ofInt_entry (hmapped ▸ hstr)]
        · simp only [hmapped, if_false]
          rw [UInt64.ofInt_add, ofInt_entry hstr]
    rw [List.foldl_cons, hstep, ih, List.map_cons, List.sum_cons, add_assoc]

/-- The total of some keys. -/
theorem getValueMapValue_eq (infos : ValueMap) (strs : List String) :
    getValueMapValue infos strs = UInt64.ofInt (strs.map (signedEntry infos)).sum := by
  have hfold := foldl_values infos strs 0
  rwa [Int.zero_add] at hfold

/-- The loop over the groups adds the values of one key up. -/
private theorem foldl_groups (key : String) (infos : List (Sigma fun _ : String => ValueMap))
    (n : Int) :
    infos.foldl (fun totalValue info =>
      [key].foldl (fun totalValue str =>
        match info.2.lookup str with
        | some value => totalValue + value
        | none => totalValue) totalValue) (UInt64.ofInt n) =
      UInt64.ofInt (n + (infos.map fun info => entry info.2 key).sum) := by
  induction infos generalizing n with
  | nil => simp
  | cons info infos ih =>
    have hstep : (match info.2.lookup key with
        | some value => UInt64.ofInt n + value
        | none => UInt64.ofInt n) = UInt64.ofInt (n + entry info.2 key) := by
      cases hkey : info.2.lookup key with
      | none => simp [entry_of_none hkey]
      | some value => rw [UInt64.ofInt_add, ofInt_entry hkey]
    rw [List.foldl_cons, List.foldl_cons, List.foldl_nil, hstep, ih, List.map_cons, List.sum_cons,
      add_assoc]

/-- The total of a key over the groups. -/
theorem getGroupMapValue_eq (infos : GroupMap) (key : String) :
    getGroupMapValue infos [key] = UInt64.ofInt (groupTotal infos key) := by
  have hfold := foldl_groups key infos.entries 0
  rwa [Int.zero_add] at hfold

/-! ## Ranges -/

section Ranges

variable {smapsInfo : GroupMap} {meminfo : ValueMap}

private theorem entry_nonneg (infos : ValueMap) (key : String) : 0 ≤ entry infos key :=
  Int.natCast_nonneg _

/-- In range a value is below `2 ^ 50`. -/
private theorem entry_lt {infos : ValueMap}
    (h : ∀ key value, infos.lookup key = some value → value.toNat < 2 ^ 50) (key : String) :
    entry infos key < 2 ^ 50 := by
  cases hkey : infos.lookup key with
  | none =>
    rw [entry_of_none hkey]
    decide
  | some value =>
    have hvalue := h key value hkey
    rw [entry, hkey, Option.getD_some]
    omega

private theorem groupTotal_nonneg (infos : GroupMap) (key : String) : 0 ≤ groupTotal infos key := by
  apply List.sum_nonneg
  intro value hvalue
  obtain ⟨info, -, rfl⟩ := List.mem_map.mp hvalue
  exact entry_nonneg info.2 key

private theorem groupTotal_le (h : InRange smapsInfo meminfo) (key : String) :
    groupTotal smapsInfo key ≤ 2 ^ 60 := by
  have hsum := List.sum_le_card_nsmul (smapsInfo.entries.map fun info => entry info.2 key)
    (2 ^ 50 : Int) (by
      intro value hvalue
      obtain ⟨info, hinfo, rfl⟩ := List.mem_map.mp hvalue
      exact (entry_lt (h.smaps info hinfo) key).le)
  have hgroups := h.groups
  rw [List.length_map, nsmul_eq_mul] at hsum
  rw [groupTotal, AList.sumVals]
  omega

/-- A value in range is zero just when its residue is. -/
private theorem ofInt_eq_zero_iff {n : Int} (hlow : 0 ≤ n) (hhigh : n < 2 ^ 64) :
    UInt64.ofInt n = 0 ↔ n = 0 := by
  constructor
  · intro heq
    rw [← UInt64.toNat_ofInt hlow hhigh, heq]
    rfl
  · rintro rfl
    rfl

/-- The comparison in front of a subtraction. -/
private theorem sub_or_zero {m n : Int} (hm : 0 ≤ m) (hm' : m < 2 ^ 64) (hn : 0 ≤ n)
    (hn' : n < 2 ^ 64) :
    (if UInt64.ofInt m > UInt64.ofInt n then UInt64.ofInt m - UInt64.ofInt n else 0) =
      UInt64.ofInt (max 0 (m - n)) := by
  have hlt : UInt64.ofInt m > UInt64.ofInt n ↔ n < m := by
    rw [gt_iff_lt, UInt64.lt_iff_toNat_lt, ← Int.ofNat_lt, UInt64.toNat_ofInt hm hm',
      UInt64.toNat_ofInt hn hn']
  by_cases h : n < m
  · rw [if_pos (hlt.mpr h), ← UInt64.ofInt_sub, max_eq_right (by omega)]
  · rw [if_neg (mt hlt.mp h), max_eq_left (by omega)]
    rfl

/-- The cached memory: what is reclaimable is taken out once, and the negated entry is
    subtracted. -/
theorem getCachedInfo_eq (h : ∀ key value, meminfo.lookup key = some value →
    value.toNat < 2 ^ 50) : getCachedInfo meminfo = UInt64.ofInt (cached meminfo) := by
  have hlow := entry_nonneg meminfo
  have hhigh := entry_lt h
  have htotal : getValueMapValue meminfo calcCached =
      UInt64.ofInt (entry meminfo "Buffers" + entry meminfo "Cached" +
        entry meminfo "KReclaimable" + entry meminfo "SReclaimable") := by
    rw [getValueMapValue_eq]
    simp [calcCached, signedEntry, add_assoc]
  have hkrecl : getKreclInfo meminfo = UInt64.ofInt (entry meminfo "KReclaimable") := by
    simp [getKreclInfo, getValueMapValue_eq, calcKrecl, signedEntry]
  have hsrecl : getSreclInfo meminfo = UInt64.ofInt (entry meminfo "SReclaimable") := by
    simp [getSreclInfo, getValueMapValue_eq, calcSrecl, signedEntry]
  have hmapped : 0 - getMappedInfo meminfo = UInt64.ofInt (entry meminfo "Mapped") := by
    simp [getMappedInfo, getValueMapValue_eq, calcMapped, signedEntry]
  have hzero : getKreclInfo meminfo ≠ 0 ↔ entry meminfo "KReclaimable" ≠ 0 := by
    rw [hkrecl, ne_eq, ne_eq, ofInt_eq_zero_iff (hlow _)]
    have hrange := hhigh "KReclaimable"
    omega
  -- A reclaimable part that is counted by itself is taken out of the total again.
  have hreclaimed : (if getKreclInfo meminfo ≠ 0
      then getValueMapValue meminfo calcCached - getSreclInfo meminfo
      else getValueMapValue meminfo calcCached) =
      UInt64.ofInt (entry meminfo "Buffers" + entry meminfo "Cached" +
        entry meminfo "KReclaimable" +
          if entry meminfo "KReclaimable" = 0 then entry meminfo "SReclaimable" else 0) := by
    by_cases hnone : entry meminfo "KReclaimable" = 0
    · rw [if_neg (mt hzero.mp (not_not.mpr hnone)), if_pos hnone, htotal]
    · rw [if_pos (hzero.mpr hnone), if_neg hnone, htotal, hsrecl, ← UInt64.ofInt_sub]
      congr 1
      omega
  unfold getCachedInfo
  simp only [hreclaimed, hmapped]
  have hB := hlow "Buffers"
  have hC := hlow "Cached"
  have hK := hlow "KReclaimable"
  have hS := hlow "SReclaimable"
  have hB' := hhigh "Buffers"
  have hC' := hhigh "Cached"
  have hK' := hhigh "KReclaimable"
  have hS' := hhigh "SReclaimable"
  have hM' := hhigh "Mapped"
  rw [sub_or_zero (by split <;> omega) (by split <;> omega) (hlow "Mapped") (by omega), cached]

private theorem cached_nonneg (meminfo : ValueMap) : 0 ≤ cached meminfo := le_max_left 0 _

private theorem cached_lt
    (h : ∀ key value, meminfo.lookup key = some value → value.toNat < 2 ^ 50) :
    cached meminfo < 2 ^ 52 := by
  have hB := entry_lt h "Buffers"
  have hC := entry_lt h "Cached"
  have hK := entry_lt h "KReclaimable"
  have hS := entry_lt h "SReclaimable"
  have hM := entry_nonneg meminfo "Mapped"
  unfold cached
  split
  · omega
  · omega

/-- The memory of the kernel in wrapping arithmetic. -/
private theorem getKernelUsedInfo_eq (meminfo : ValueMap) :
    getKernelUsedInfo meminfo = UInt64.ofInt (kernelUsed meminfo) := by
  rw [getKernelUsedInfo, getValueMapValue_eq]
  simp [calcKernelUsed, signedEntry, kernelUsed, add_assoc]

private theorem kernelUsed_nonneg (meminfo : ValueMap) : 0 ≤ kernelUsed meminfo := by
  have hShmem := entry_nonneg meminfo "Shmem"
  have hSlab := entry_nonneg meminfo "Slab"
  have hVmalloc := entry_nonneg meminfo "VmallocUsed"
  have hTables := entry_nonneg meminfo "PageTables"
  have hStack := entry_nonneg meminfo "KernelStack"
  unfold kernelUsed
  omega

private theorem kernelUsed_lt (h : ∀ key value, meminfo.lookup key = some value →
    value.toNat < 2 ^ 50) : kernelUsed meminfo < 2 ^ 53 := by
  have hShmem := entry_lt h "Shmem"
  have hSlab := entry_lt h "Slab"
  have hVmalloc := entry_lt h "VmallocUsed"
  have hTables := entry_lt h "PageTables"
  have hStack := entry_lt h "KernelStack"
  unfold kernelUsed
  omega

/-- The free memory. -/
private theorem getFreeInfo_eq (meminfo : ValueMap) :
    getFreeInfo meminfo = UInt64.ofInt (entry meminfo "MemFree") := by
  simp [getFreeInfo, getValueMapValue_eq, calcFree, signedEntry]

/-- All memory. -/
private theorem getTotalRam_eq (meminfo : ValueMap) :
    getTotalRam meminfo = UInt64.ofInt (entry meminfo "MemTotal") := by
  simp [getTotalRam, getValueMapValue_eq, calcTotal, signedEntry]

/-- The lost memory: the unsigned difference may have wrapped around, and what is added to it
    wraps back or the cast does. -/
private theorem toInt_getLostRam (h : InRange smapsInfo meminfo) :
    (getLostRam smapsInfo meminfo).toInt = entry meminfo "MemTotal" -
      ((groupTotal smapsInfo "Pss" - groupTotal smapsInfo "SwapPss") + entry meminfo "MemFree" +
        cached meminfo + kernelUsed meminfo) := by
  have hlost : getLostRam smapsInfo meminfo = Int64.ofInt (entry meminfo "MemTotal" -
      ((groupTotal smapsInfo "Pss" - groupTotal smapsInfo "SwapPss") + entry meminfo "MemFree" +
        cached meminfo + kernelUsed meminfo)) := by
    have hzram : getZramTotalInfo meminfo = 0 := rfl
    rw [Int64.ofInt_sub, ← UInt64.toInt64_ofInt, ← UInt64.toInt64_ofInt, UInt64.ofInt_add,
      UInt64.ofInt_add, UInt64.ofInt_add, UInt64.ofInt_sub, ← getTotalRam_eq, ← getFreeInfo_eq,
      ← getCachedInfo_eq h.meminfo, ← getKernelUsedInfo_eq, ← getGroupMapValue_eq,
      ← getGroupMapValue_eq]
    unfold getLostRam
    simp only [hzram, UInt64.add_zero]
    rfl
  have hfree := entry_lt h.meminfo "MemFree"
  have htotal := entry_lt h.meminfo "MemTotal"
  have hfree' := entry_nonneg meminfo "MemFree"
  have htotal' := entry_nonneg meminfo "MemTotal"
  have hpss := groupTotal_le h "Pss"
  have hswap := groupTotal_le h "SwapPss"
  have hpss' := groupTotal_nonneg smapsInfo "Pss"
  have hswap' := groupTotal_nonneg smapsInfo "SwapPss"
  have hcached := cached_lt h.meminfo
  have hcached' := cached_nonneg meminfo
  have hkernel := kernelUsed_lt h.meminfo
  have hkernel' := kernelUsed_nonneg meminfo
  -- Only the last value has to be in range.
  rw [hlost, Int64.toInt_ofInt_of_le (by omega) (by omega)]

/-- `GetRam` is exact. -/
theorem exactRam_getRam (smapsInfo : GroupMap) (meminfo : ValueMap)
    (h : InRange smapsInfo meminfo) :
    ExactRam smapsInfo meminfo (getRam smapsInfo meminfo) := by
  -- The bounds first: no sum that `GetRam` makes leaves 64 bits.
  have hfree := entry_lt h.meminfo "MemFree"
  have htotal := entry_lt h.meminfo "MemTotal"
  have hfree' := entry_nonneg meminfo "MemFree"
  have hpss := groupTotal_le h "Pss"
  have hpss' := groupTotal_nonneg smapsInfo "Pss"
  have hcached := cached_lt h.meminfo
  have hcached' := cached_nonneg meminfo
  have hkernel := kernelUsed_lt h.meminfo
  have hkernel' := kernelUsed_nonneg meminfo
  have hcachedInfo := getCachedInfo_eq h.meminfo
  have hfreeInfo := getFreeInfo_eq meminfo
  have htotalPss : getTotalPss smapsInfo = _ := getGroupMapValue_eq smapsInfo "Pss"
  have hkernelUsed := getKernelUsedInfo_eq meminfo
  constructor
  · show ((getTotalRam meminfo).toNat : Int) = _
    rw [getTotalRam_eq, UInt64.toNat_ofInt (entry_nonneg meminfo _) (by omega)]
  · show ((getCachedInfo meminfo).toNat : Int) = _
    rw [hcachedInfo, UInt64.toNat_ofInt hcached' (by omega)]
  · show ((getFreeInfo meminfo).toNat : Int) = _
    rw [hfreeInfo, UInt64.toNat_ofInt hfree' (by omega)]
  · show ((getCachedInfo meminfo + getFreeInfo meminfo).toNat : Int) = _
    rw [hcachedInfo, hfreeInfo, ← UInt64.ofInt_add, UInt64.toNat_ofInt (by omega) (by omega)]
  · show ((getTotalPss smapsInfo).toNat : Int) = _
    rw [htotalPss, UInt64.toNat_ofInt hpss' (by omega)]
  · show ((getKernelUsedInfo meminfo).toNat : Int) = _
    rw [hkernelUsed, UInt64.toNat_ofInt hkernel' (by omega)]
  · show ((getTotalPss smapsInfo + getKernelUsedInfo meminfo).toNat : Int) = _
    rw [htotalPss, hkernelUsed, ← UInt64.ofInt_add, UInt64.toNat_ofInt (by omega) (by omega)]
  · exact toInt_getLostRam h

end Ranges

/-- One group, with more swap than memory. -/
def swappedGroups : GroupMap :=
  (∅ : GroupMap).insert "Anonymous Page#other"
    (((∅ : ValueMap).insert "Pss" 1).insert "SwapPss" 5)

/-- Entries of which more is mapped than cached. -/
def mappedMeminfo : ValueMap :=
  (((∅ : ValueMap).insert "MemTotal" 100).insert "Cached" 10).insert "Mapped" 30

/-- The example is in range. -/
private theorem inRange_swapped : InRange swappedGroups mappedMeminfo where
  groups := by decide
  smaps := by
    intro info hinfo key value hvalue
    have hmem := AList.lookup_eq_some_iff.mp hvalue
    exact (by decide : ∀ info ∈ swappedGroups.entries, ∀ e ∈ info.2.entries,
      e.2.toNat < 2 ^ 50) info hinfo ⟨key, value⟩ hmem
  meminfo := by
    intro key value hvalue
    have hmem := AList.lookup_eq_some_iff.mp hvalue
    exact (by decide : ∀ e ∈ mappedMeminfo.entries, e.2.toNat < 2 ^ 50) ⟨key, value⟩ hmem

/-- The difference of the totals is negative, and more is lost than there is. -/
theorem exactRam_swapped : InRange swappedGroups mappedMeminfo ∧
    ExactRam swappedGroups mappedMeminfo (getRam swappedGroups mappedMeminfo) ∧
    (getRam swappedGroups mappedMeminfo).lost = 104 :=
  ⟨inRange_swapped, exactRam_getRam swappedGroups mappedMeminfo inRange_swapped, by decide⟩

end HiDumper.Spec
