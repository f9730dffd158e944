import HiDumper.ForStd.Runs
import HiDumper.ForStd.Slices
import HiDumper.Native.HardwareInfo

/-!
# Groups of paths

The parallel sum of `GetHardwareInfo::GetHardwareUsage`. The paths are divided into as many
groups as there are threads; the size of the groups is rounded up, so the last ones may be
short or empty. Every path is in one group, and the groups add up to what `CalcHardware`
adds up for all paths.

## Key results

- `getGroupOfPaths_eq`: a group is a slice of the list
- `exists_groupsOfPaths`: the groups make up the list
- `getHardwareUsage_eq`: both, for the whole function
-/

namespace HiDumper.Spec

open HiDumper.Native GetHardwareInfo

/-! ## One group -/

/-- Below the limit a `size_t` counts. -/
private theorem toNat_add_one {i : UInt64} (h : i.toNat + 1 < UInt64.size) :
    (i + 1).toNat = i.toNat + 1 := by
  rw [UInt64.toNat_add]
  exact Nat.mod_eq_of_lt h

/-- A list of paths is shorter than the limit. -/
private theorem toNat_length_sub_one {paths : List String} (hne : paths ≠ [])
    (hlen : paths.length < UInt64.size) :
    (UInt64.ofNat paths.length - 1).toNat = paths.length - 1 := by
  have hpos := List.length_pos_iff.mpr hne
  have htoNat : (UInt64.ofNat paths.length).toNat = paths.length :=
    UInt64.toNat_ofNat_of_lt' hlen
  have hle : (1 : UInt64) ≤ UInt64.ofNat paths.length := by
    rw [UInt64.le_iff_toNat_le, htoNat]
    exact hpos
  rw [UInt64.toNat_sub_of_le _ _ hle, htoNat]
  rfl

/-- The loop appends the paths from `i` to `last`, as far as there are any. -/
private theorem groupLoop_eq {paths : List String} (hne : paths ≠ [])
    (hlen : paths.length < UInt64.size)
    {last : UInt64} (hlast : last.toNat + 1 < UInt64.size) (i : UInt64) (groupPaths : List String) :
    groupLoop paths last i groupPaths =
      some (groupPaths ++ (paths.drop i.toNat).take (last.toNat + 1 - i.toNat)) := by
  have hend := toNat_length_sub_one hne hlen
  have hpos := List.length_pos_iff.mpr hne
  -- Induction on the rounds that are left.
  induction hrounds : last.toNat + 1 - i.toNat generalizing i groupPaths with
  | zero =>
    have hdone : ¬i ≤ last := by
      rw [UInt64.le_iff_toNat_le]
      omega
    rw [groupLoop, if_neg hdone, List.take_zero, List.append_nil]
  | succ rounds ih =>
    have hgo : i ≤ last := by
      rw [UInt64.le_iff_toNat_le]
      omega
    have hsmall : i.toNat + 1 < UInt64.size := by omega
    have hnext := toNat_add_one hsmall
    have hleft : last.toNat + 1 - (i + 1).toNat = rounds := by omega
    rw [groupLoop, if_pos hgo]
    by_cases hinside : i.toNat < paths.length
    · have hindex : i ≤ UInt64.ofNat paths.length - 1 := by
        rw [UInt64.le_iff_toNat_le, hend]
        omega
      rw [if_pos hindex, List.getElem?_eq_getElem hinside, Option.map_some]
      show (if i.toNat + 1 = UInt64.size then none else _) = _
      rw [if_neg hsmall.ne, ih _ _ hleft, hnext, List.drop_eq_getElem_cons hinside,
        List.take_succ_cons, List.append_assoc, List.singleton_append]
    · have hindex : ¬i ≤ UInt64.ofNat paths.length - 1 := by
        rw [UInt64.le_iff_toNat_le, hend]
        omega
      rw [if_neg hindex]
      show (if i.toNat + 1 = UInt64.size then none else _) = _
      rw [if_neg hsmall.ne, ih _ _ hleft, hnext, List.drop_eq_nil_of_le (by omega),
        List.drop_eq_nil_of_le (by omega), List.take_nil, List.take_nil]

/-- A group is a slice of the list, as long as the numbers do not wrap around. -/
theorem getGroupOfPaths_eq {paths : List String} (hne : paths ≠ [])
    (hlen : paths.length < UInt64.size) {i size : Nat} (hsize : 0 < size)
    (hfits : (i + 1) * size < UInt64.size) :
    getGroupOfPaths (UInt64.ofNat i) (UInt64.ofNat size) paths =
      some (List.slice size paths i) := by
  have hstep : i * size + size = (i + 1) * size := by
    rw [Nat.add_mul, Nat.one_mul]
  -- None of the numbers in the bounds of the loop wraps around.
  have hi : i < UInt64.size := lt_of_le_of_lt (Nat.le_mul_of_pos_right i hsize) (by omega)
  have hnext : (UInt64.ofNat i + 1) * UInt64.ofNat size = UInt64.ofNat ((i + 1) * size) := by
    rw [UInt64.ofNat_mul, UInt64.ofNat_add]
    rfl
  have hfirst : (UInt64.ofNat i * UInt64.ofNat size).toNat = i * size := by
    rw [← UInt64.ofNat_mul]
    exact UInt64.toNat_ofNat_of_lt' (by omega)
  have hbound : (UInt64.ofNat ((i + 1) * size)).toNat = (i + 1) * size :=
    UInt64.toNat_ofNat_of_lt' hfits
  have hlast : (UInt64.ofNat ((i + 1) * size) - 1).toNat = (i + 1) * size - 1 := by
    rw [UInt64.toNat_sub_of_le]
    · rw [hbound]
      rfl
    · rw [UInt64.le_iff_toNat_le, hbound]
      show 1 ≤ (i + 1) * size
      omega
  have hgo : ¬UInt64.ofNat ((i + 1) * size) ≤ 0 := by
    rw [UInt64.le_iff_toNat_le, hbound]
    show ¬(i + 1) * size ≤ 0
    omega
  rw [getGroupOfPaths, hnext, if_neg hgo, groupLoop_eq hne hlen (by omega), hlast, hfirst,
    List.nil_append, List.slice]
  congr 2
  omega

/-! ## All groups -/

/-- The size of the groups. -/
def groupSize (threadNum : UInt64) (paths : List String) : Nat :=
  (paths.length - 1) / threadNum.toNat + 1

/-- A `vector` has no more elements than `ptrdiff_t` can count, and so the bounds of the
    groups do not wrap around. -/
private theorem mul_groupSize_lt {threadNum : UInt64} {paths : List String}
    (hlen : paths.length < 2 ^ 63) :
    threadNum.toNat * groupSize threadNum paths < UInt64.size := by
  have hthreads := threadNum.toNat_lt_size
  have hsize : UInt64.size = 2 ^ 63 + 2 ^ 63 := by decide
  rw [groupSize, Nat.mul_add, Nat.mul_one]
  by_cases hfew : paths.length - 1 < threadNum.toNat
  · -- More threads than paths: each group has at most one path.
    rw [Nat.div_eq_of_lt hfew]
    omega
  · have hmul := Nat.mul_div_le (paths.length - 1) threadNum.toNat
    omega

/-- The groups reach the end of the list. -/
private theorem length_le_mul_groupSize {threadNum : UInt64} (hthreads : 0 < threadNum)
    (paths : List String) : paths.length ≤ threadNum.toNat * groupSize threadNum paths := by
  have hpos : 0 < threadNum.toNat := UInt64.lt_iff_toNat_lt.mp hthreads
  have hlt := Nat.lt_mul_div_succ (paths.length - 1) hpos
  rw [groupSize]
  omega

/-- The size of a group in `size_t` arithmetic is the one in numbers. -/
private theorem groupSize_eq {threadNum : UInt64} {paths : List String} (hne : paths ≠ [])
    (hlen : paths.length < 2 ^ 63) :
    (UInt64.ofNat paths.length - 1) / threadNum + 1 =
      UInt64.ofNat (groupSize threadNum paths) := by
  have hfit : paths.length < UInt64.size := hlen.trans (by decide)
  have hdiv : (UInt64.ofNat paths.length - 1) / threadNum =
      UInt64.ofNat ((paths.length - 1) / threadNum.toNat) := by
    apply UInt64.toNat.inj
    have hle := Nat.div_le_self (paths.length - 1) threadNum.toNat
    rw [UInt64.toNat_div, toNat_length_sub_one hne hfit,
      UInt64.toNat_ofNat_of_lt' (by omega)]
  rw [hdiv, groupSize, UInt64.ofNat_add]
  rfl

/-- There is a group for each thread, and together they are the list: every path is in one
    group. -/
theorem exists_groupsOfPaths {threadNum : UInt64} (hthreads : 0 < threadNum)
    {paths : List String} (hne : paths ≠ []) (hlen : paths.length < 2 ^ 63) :
    ∃ groups, groupsOfPaths threadNum paths = some groups ∧
      groups.length = threadNum.toNat ∧ groups.flatten = paths := by
  have hfits : threadNum.toNat * groupSize threadNum paths < UInt64.size := mul_groupSize_lt hlen
  have hgroup : ∀ i ∈ List.range threadNum.toNat,
      getGroupOfPaths (UInt64.ofNat i) ((UInt64.ofNat paths.length - 1) / threadNum + 1) paths =
        some (List.slice (groupSize threadNum paths) paths i) := by
    intro i hi
    rw [groupSize_eq hne hlen]
    have hi' := List.mem_range.mp hi
    have hle : (i + 1) * groupSize threadNum paths ≤
        threadNum.toNat * groupSize threadNum paths := Nat.mul_le_mul_right _ hi'
    exact getGroupOfPaths_eq hne (hlen.trans (by decide)) (Nat.succ_pos _) (by omega)
  refine ⟨_, Runs.mapM_eq_some_map hgroup, by rw [List.length_map, List.length_range], ?_⟩
  exact List.flatten_slices_of_le (length_le_mul_groupSize hthreads paths)

/-! ## The sum -/

section Sum

variable (src : HardwareSource)

/-- What a path adds to the total. -/
def regValueOf (path : String) : Option UInt64 := addRegValue src 0 path

/-- A register is added to the total, or its command fails. -/
private theorem addRegValue_eq (total : UInt64) (path : String) :
    addRegValue src total path = (regValueOf src path).map (total + ·) := by
  unfold regValueOf addRegValue
  dsimp only
  split
  · simp
  · cases getResverRegValue src (getResverRegPath src path) 0 <;> simp

/-- The total goes on from what there was before. -/
private theorem foldlM_addRegValue (paths : List String) (total : UInt64) :
    paths.foldlM (addRegValue src) total = (calcHardware src paths).map (total + ·) := by
  unfold calcHardware
  induction paths generalizing total with
  | nil => simp
  | cons path paths ih =>
    rw [List.foldlM_cons, List.foldlM_cons, addRegValue_eq, addRegValue_eq]
    cases regValueOf src path with
    | none => rfl
    | some value =>
      show paths.foldlM (addRegValue src) (total + value) =
        (paths.foldlM (addRegValue src) (0 + value)).map (total + ·)
      rw [ih, ih (0 + value), Option.map_map]
      congr 1
      funext sum
      simp [UInt64.add_assoc]

/-- The sum over two parts is the sum of their sums. -/
private theorem calcHardware_append (front back : List String) :
    calcHardware src (front ++ back) =
      (calcHardware src front).bind fun sum => (calcHardware src back).map (sum + ·) := by
  show (front ++ back).foldlM (addRegValue src) 0 = _
  rw [List.foldlM_append]
  show (calcHardware src front).bind (fun sum => back.foldlM (addRegValue src) sum) = _
  congr 1
  funext sum
  exact foldlM_addRegValue src back sum

/-- The results of the groups add up to the result of all paths. -/
private theorem mapM_calcHardware (groups : List (List String)) :
    (groups.mapM (calcHardware src)).map List.sum = calcHardware src groups.flatten := by
  induction groups with
  | nil => rfl
  | cons group groups ih =>
    rw [List.mapM_cons, List.flatten_cons, calcHardware_append, ← ih]
    cases calcHardware src group with
    | none => rfl
    | some sum =>
      cases groups.mapM (calcHardware src) with
      | none => rfl
      | some sums =>
        show some ((sum :: sums).sum) = some (sum + sums.sum)
        rw [List.sum_cons]

end Sum

/-- There is at least one thread. -/
private theorem threadNum_pos (src : HardwareSource) : 0 < threadNum src := by
  unfold threadNum
  dsimp only
  split
  · decide
  · rename_i hne
    exact UInt64.pos_iff_ne_zero.mpr hne

/-- For every list of paths and every number of threads the groups make up the list, and
    the total of `GetHardwareUsage` is what `CalcHardware` adds up for the list, in kB. -/
theorem getHardwareUsage_eq (src : HardwareSource) {paths : List String}
    (hpaths : findFilePaths src = some paths) (hlen : paths.length < 2 ^ 63) :
    (paths ≠ [] → ∃ groups, groupsOfPaths (threadNum src) paths = some groups ∧
      groups.length = (threadNum src).toNat ∧ groups.flatten = paths) ∧
    getHardwareUsage src =
      (calcHardware src paths).map fun totalValue => (true, totalValue / byteToKb) := by
  refine ⟨fun hne => exists_groupsOfPaths (threadNum_pos src) hne hlen, ?_⟩
  unfold getHardwareUsage
  simp only [hpaths]
  by_cases hne : paths = []
  · subst hne
    rfl
  · obtain ⟨groups, hsome, -, hflatten⟩ := exists_groupsOfPaths (threadNum_pos src) hne hlen
    rw [if_pos (List.length_pos_iff.mpr hne), hsome, ← hflatten, ← mapM_calcHardware]
    show ((groups.mapM (calcHardware src)).bind fun results =>
      some (true, results.foldl (· + ·) 0 / byteToKb)) = _
    cases groups.mapM (calcHardware src) with
    | none => rfl
    | some sums => rw [Option.bind_some, Option.map_some, Option.map_some, List.sum_eq_foldl]

/-- Three nodes and two threads. -/
def boardSource : HardwareSource where
  strings := StringEx.simple
  runCmd cmd :=
    if cmd = "find /proc/device-tree/ -name \"no-map\"" then
      some ["/a/no-map", "/b/no-map", "/c/no-map"]
    else some ["00000000: 00000000 40000000 00000000 00001000  ................"]
  hardwareThreads := 2

/-- Three nodes are shared out to two threads. -/
theorem getHardwareUsage_boardSource :
    (["/a/no-map", "/b/no-map", "/c/no-map"] ≠ [] →
      ∃ groups, groupsOfPaths (threadNum boardSource) ["/a/no-map", "/b/no-map", "/c/no-map"] =
          some groups ∧
        groups.length = (threadNum boardSource).toNat ∧
        groups.flatten = ["/a/no-map", "/b/no-map", "/c/no-map"]) ∧
    getHardwareUsage boardSource =
      (calcHardware boardSource ["/a/no-map", "/b/no-map", "/c/no-map"]).map
        fun totalValue => (true, totalValue / byteToKb) :=
  getHardwareUsage_eq boardSource rfl (by decide)

end HiDumper.Spec
