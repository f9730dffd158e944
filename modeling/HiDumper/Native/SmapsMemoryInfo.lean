import HiDumper.ForStd.MapSums
import HiDumper.Native.MemoryUtil

/-!
# The tables of --mem-smaps

Model of `GetSmapsData` of `memory/parse/parse_smaps_info.cpp` and of
`memory/smaps_memory_info.cpp`. The memory details come from a collector of another
repository and are an input. Amounts are `uint64_t` and wrap around; `counts` is an
`int` far from its limits.

`countSameNameMemMap` is a `std::map`: its entries are visited in the order of their
names.
-/

namespace HiDumper.Native

/-- `MemoryItem` of the collector (`UCollect`), with the fields `ParseSmapsInfo` reads. -/
structure UCollect.MemoryItem where
  name : String
  startAddr : String := ""
  endAddr : String := ""
  permission : String := ""
  size : UInt64 := 0
  rss : UInt64 := 0
  pss : UInt64 := 0
  swapPss : UInt64 := 0
  swap : UInt64 := 0
  sharedDirty : UInt64 := 0
  privateDirty : UInt64 := 0
  sharedClean : UInt64 := 0
  privateClean : UInt64 := 0
  iNode : UInt64 := 0
  deriving DecidableEq, Repr

/-- `MemoryDetail` of the collector with these items. The class is the number behind
    `MemoryClass`. -/
structure UCollect.MemoryDetail where
  memoryClass : Int
  items : List UCollect.MemoryItem
  deriving DecidableEq, Repr

/-- `MemoryData` of `parse_smaps_info.h`. -/
structure MemoryData where
  name : String := "[anon]"
  memoryClass : String := ""
  startAddr : String := ""
  endAddr : String := ""
  permission : String := ""
  counts : Int := 0
  size : UInt64 := 0
  rss : UInt64 := 0
  pss : UInt64 := 0
  swapPss : UInt64 := 0
  swap : UInt64 := 0
  sharedDirty : UInt64 := 0
  privateDirty : UInt64 := 0
  sharedClean : UInt64 := 0
  privateClean : UInt64 := 0
  iNode : UInt64 := 0
  deriving DecidableEq, Repr

namespace ParseSmapsInfo

/-- `MEMORY_CLASS_VEC`, the same in `ParseSmapsInfo` and in `ShowMemorySmapsByPid`. -/
def memoryClassVec : List String :=
  ["graph", "ark ts heap", "arkts-static heap", ".db", "dev", "dmabuf", "guard", ".hap",
    "native heap", ".so", "stack", ".ttf", "jsvm heap", "arkweb-js heap", "arkweb-pa heap",
    "kotlin heap", "rn-hermes heap", "dart heap", "other"]

/-- `ParseSmapsInfo::SetMemoryData`. -/
def setMemoryData (memoryData : MemoryData) (memoryItem : UCollect.MemoryItem)
    (memoryClassStr : String) : MemoryData :=
  { memoryData with
    name := if memoryItem.name = "" then "[anon]" else memoryItem.name
    memoryClass := memoryClassStr
    counts := 1
    size := memoryItem.size
    rss := memoryItem.rss
    pss := memoryItem.pss
    swapPss := memoryItem.swapPss
    swap := memoryItem.swap
    sharedDirty := memoryItem.sharedDirty
    privateDirty := memoryItem.privateDirty
    sharedClean := memoryItem.sharedClean
    privateClean := memoryItem.privateClean
    iNode := memoryItem.iNode }

/-- What `UpdateCountSameNameMemMap` does with the data of a name that it knows. -/
def addMemoryItem (memoryItem : UCollect.MemoryItem) (data : MemoryData) : MemoryData :=
  { data with
    size := data.size + memoryItem.size
    rss := data.rss + memoryItem.rss
    pss := data.pss + memoryItem.pss
    swapPss := data.swapPss + memoryItem.swapPss
    swap := data.swap + memoryItem.swap
    sharedDirty := data.sharedDirty + memoryItem.sharedDirty
    privateDirty := data.privateDirty + memoryItem.privateDirty
    sharedClean := data.sharedClean + memoryItem.sharedClean
    privateClean := data.privateClean + memoryItem.privateClean
    counts := data.counts + 1 }

/-- `ParseSmapsInfo::UpdateCountSameNameMemMap`. -/
def updateCountSameNameMemMap (memoryItems : List UCollect.MemoryItem) (memoryClassStr : String)
    (countSameNameMemMap : UnorderedMap String MemoryData) : UnorderedMap String MemoryData :=
  memoryItems.foldl (fun countSameNameMemMap memoryItem =>
    countSameNameMemMap.upsert memoryItem.name (setMemoryData {} memoryItem memoryClassStr)
      (addMemoryItem memoryItem)) countSameNameMemMap

/-- `ParseSmapsInfo::UpdateShowAddressMemInfoVec`. -/
def updateShowAddressMemInfoVec (memoryItems : List UCollect.MemoryItem) (memoryClassStr : String)
    (showAddressMemInfoVec : List MemoryData) : List MemoryData :=
  showAddressMemInfoVec ++ memoryItems.map fun memoryItem =>
    setMemoryData
      { permission := memoryItem.permission
        startAddr := memoryItem.startAddr
        endAddr := memoryItem.endAddr } memoryItem memoryClassStr

/-- The class text of a detail, or `none` where `GetSmapsData` skips the detail. The check
    lets the length of the table through; the source then reads past its end, here an
    empty text. -/
def memoryClassStr (memoryDetail : UCollect.MemoryDetail) : Option String :=
  if memoryDetail.memoryClass < 0 || memoryDetail.memoryClass > memoryClassVec.length then none
  else
    let memoryClassStr := memoryClassVec.getD memoryDetail.memoryClass.toNat ""
    if memoryClassStr = "graph" then none else some memoryClassStr

/-- One turn of the loop of `ParseSmapsInfo::GetSmapsData` over the details. -/
def addMemoryDetail (isShowSmapsAddress : Bool)
    (collected : UnorderedMap String MemoryData × List MemoryData)
    (memoryDetail : UCollect.MemoryDetail) :
    UnorderedMap String MemoryData × List MemoryData :=
  match memoryClassStr memoryDetail with
  | none => collected
  | some memoryClassStr =>
    if isShowSmapsAddress then
      (collected.1, updateShowAddressMemInfoVec memoryDetail.items memoryClassStr collected.2)
    else (updateCountSameNameMemMap memoryDetail.items memoryClassStr collected.1, collected.2)

/-- `ParseSmapsInfo::GetSmapsData`, where `details` is what the collector returns, `none`
    if it fails. -/
def getSmapsData (details : Option (List UCollect.MemoryDetail)) (isShowSmapsAddress : Bool) :
    Option (UnorderedMap String MemoryData × List MemoryData) :=
  details.map fun details => details.foldl (addMemoryDetail isShowSmapsAddress) (∅, [])

end ParseSmapsInfo

/-! ## The tables -/

namespace SmapsMemoryInfo

/-- The column widths that `SmapsMemoryInfo` keeps as members. -/
structure Widths where
  categoryColumnWidth : Int := 15
  nameColumnWidthDetailed : Int := 12
  nameColumnWidthSummary : Int := 18
  deriving DecidableEq, Repr

/-- `ShowMemorySmapsByPid` adapts the widths to the longest class text. -/
def Widths.adapt (widths : Widths) : Widths :=
  let sizes := ParseSmapsInfo.memoryClassVec.map fun text => text.utf8ByteSize
  let maxTitleWidth : Int := (sizes.foldl max 0 : Nat)
  { categoryColumnWidth := maxTitleWidth
    nameColumnWidthDetailed :=
      widths.categoryColumnWidth - maxTitleWidth + widths.nameColumnWidthDetailed
    nameColumnWidthSummary :=
      widths.categoryColumnWidth - maxTitleWidth + widths.nameColumnWidthSummary }

/-- The width of the blanks before a name. -/
def Widths.name (widths : Widths) (isShowSmapsInfo : Bool) : Nat :=
  (if isShowSmapsInfo then widths.nameColumnWidthDetailed else widths.nameColumnWidthSummary).toNat

/-- `LINE_WIDTH` of `smaps_memory_info.cpp`. -/
def smapsLineWidth : Nat := 12

/-- `LINE_NAME_VAL_WIDTH`. -/
def lineNameValWidth : Nat := 60

/-- `LINE_START_VAL_WIDTH`. -/
def lineStartValWidth : Nat := 18

/-- `MemoryFilter::TITLE_SMAPS_HAS_PID_`. -/
def titleSmapsHasPid : List String :=
  ["Size", "Rss", "Pss", "Shared_Clean", "Shared_Dirty", "Private_Clean", "Private_Dirty", "Swap",
    "SwapPss", "Counts", "Category", "Name"]

/-- `MemoryFilter::TITLE_V_SMAPS_HAS_PID_`. -/
def titleVSmapsHasPid : List String :=
  ["Size", "Rss", "Pss", "Shared_Clean", "Shared_Dirty", "Private_Clean", "Private_Dirty", "Swap",
    "SwapPss", "Perm", "Start", "End", "Category", "Name"]

/-- `SmapsMemoryInfo::SetValueForRet`: the cell it appends. -/
def setValueForRet (value : String) (width : Nat) : String := setWidth width ' ' true value

/-- The cells of one title in the two rows of `InsertSmapsTitle`. -/
def smapsTitle (widths : Widths) (isShowSmapsInfo : Bool) (title : String) :
    Option (String × String) :=
  match title.toList.splitOn '_' with
  | [first, second] =>
    some (setWidth smapsLineWidth ' ' true (String.ofList first),
      setWidth smapsLineWidth ' ' true (String.ofList second))
  | [_] =>
    some (setWidth smapsLineWidth ' ' true " ",
      if title = "Name" then setWidth (widths.name isShowSmapsInfo + 4) ' ' false title
      else if title = "Category" then setWidth widths.categoryColumnWidth.toNat ' ' true title
      else setWidth (if title = "Start" then lineStartValWidth else smapsLineWidth) ' ' true title)
  | _ => none

/-- `SmapsMemoryInfo::InsertSmapsTitle`. -/
def insertSmapsTitle (widths : Widths) (isUserMode isShowSmapsInfo : Bool) : List (List String) :=
  let titleVec := if isShowSmapsInfo then titleVSmapsHasPid else titleSmapsHasPid
  let titleVec :=
    if isUserMode then titleVec.filter fun title => title ∉ ["Perm", "Start", "End"] else titleVec
  let titles := titleVec.filterMap (smapsTitle widths isShowSmapsInfo)
  [titles.map (·.1), titles.map (·.2)]

/-- `SmapsMemoryInfo::SetOneRowMemInfo`: the row it appends. -/
def setOneRowMemInfo (widths : Widths) (isUserMode : Bool) (memInfo : MemoryData)
    (isShowSmapsInfo isSummary : Bool) : List String :=
  let amounts := [memInfo.size, memInfo.rss, memInfo.pss, memInfo.sharedClean, memInfo.sharedDirty,
    memInfo.privateClean, memInfo.privateDirty, memInfo.swap, memInfo.swapPss]
  let memoryClass :=
    if memInfo.memoryClass = "other" then
      if memInfo.iNode = 0 then "AnonPage other" else "FilePage other"
    else memInfo.memoryClass
  let space := setWidth (widths.name isShowSmapsInfo) ' ' false " "
  amounts.map (fun amount => setValueForRet (toString amount) smapsLineWidth) ++
    (if isShowSmapsInfo then
      if !isUserMode then
        [setValueForRet memInfo.permission smapsLineWidth,
          setValueForRet memInfo.startAddr lineStartValWidth,
          setValueForRet memInfo.endAddr smapsLineWidth]
      else []
    else [setValueForRet (toString memInfo.counts) smapsLineWidth]) ++
    [setValueForRet memoryClass widths.categoryColumnWidth.toNat,
      setWidth lineNameValWidth ' ' true (space ++ if isSummary then "Summary" else memInfo.name)]

/-- The amounts that both result functions add to their summary. -/
def addToSummary (summary memInfo : MemoryData) : MemoryData :=
  { summary with
    size := summary.size + memInfo.size
    rss := summary.rss + memInfo.rss
    pss := summary.pss + memInfo.pss
    sharedClean := summary.sharedClean + memInfo.sharedClean
    sharedDirty := summary.sharedDirty + memInfo.sharedDirty
    privateClean := summary.privateClean + memInfo.privateClean
    privateDirty := summary.privateDirty + memInfo.privateDirty
    swap := summary.swap + memInfo.swap
    swapPss := summary.swapPss + memInfo.swapPss }

/-- `SmapsMemoryInfo::UpdateShowAddressMemInfoResult`: the rows it appends. -/
def updateShowAddressMemInfoResult (widths : Widths) (isUserMode : Bool)
    (showAddressMemInfoVec : List MemoryData) : List (List String) :=
  let summary := showAddressMemInfoVec.foldl addToSummary {}
  let summary := { summary with pss := summary.pss + summary.swapPss }
  showAddressMemInfoVec.map
    (fun memInfo => setOneRowMemInfo widths isUserMode memInfo true false) ++
    [setOneRowMemInfo widths isUserMode summary true true]

/-- The values of `countSameNameMemMap` in the order of their names. -/
def countSameNameMemVec (countSameNameMemMap : UnorderedMap String MemoryData) : List MemoryData :=
  (countSameNameMemMap.entries.mergeSort fun a b => decide (a.1 ≤ b.1)).map (·.2)

/-- `SmapsMemoryInfo::UpdateCountSameNameMemResult`: the rows it appends. -/
def updateCountSameNameMemResult (widths : Widths) (isUserMode : Bool)
    (countSameNameMemMap : UnorderedMap String MemoryData) : List (List String) :=
  let memInfos := countSameNameMemVec countSameNameMemMap
  let summary := memInfos.foldl (fun summary memInfo =>
    { addToSummary summary memInfo with counts := summary.counts + memInfo.counts }) {}
  let summary := { summary with pss := summary.pss + summary.swapPss }
  memInfos.map (fun memInfo => setOneRowMemInfo widths isUserMode memInfo false false) ++
    [setOneRowMemInfo widths isUserMode summary false true]

/-- `SmapsMemoryInfo::ShowMemorySmapsByPid`: the rows it appends, `none` for `false`. -/
def showMemorySmapsByPid (isUserMode : Bool) (details : Option (List UCollect.MemoryDetail))
    (isShowSmapsAddress : Bool) : Option (List (List String)) :=
  (ParseSmapsInfo.getSmapsData details isShowSmapsAddress).map fun collected =>
    let widths := Widths.adapt {}
    insertSmapsTitle widths isUserMode isShowSmapsAddress ++
      if isShowSmapsAddress then updateShowAddressMemInfoResult widths isUserMode collected.2
      else updateCountSameNameMemResult widths isUserMode collected.1

end SmapsMemoryInfo

end HiDumper.Native
