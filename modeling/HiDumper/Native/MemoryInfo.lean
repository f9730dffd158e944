import HiDumper.ForStd.UnorderedMap
import HiDumper.Native.MemoryUsage
import Mathlib.Algebra.Group.Int.Defs

/-!
# Samples of a memory session

Model of what one round of `MemoryInfo::GetMemoryInfoByTimeInterval` collects and
writes: `GetMemoryInfoByPid` with everything it calls for the flags the session
passes, and `RedirectMemoryInfo`, in `executor/memory/memory_info.cpp`. The members
of the one `MemoryInfo` of a session are explicit state.

What the collector, the runtime and `/proc` answer is a `SampleReadings`. The amounts
of the collector's records are integers here; `uint64_t` members wrap around. A
round is `none` where the source has undefined behaviour: the test in front of
`MEMORY_CLASS_VEC[..]` lets the size of the vector through, and `UpdatePageDetail`
writes through `anonPageDetail` after an earlier detail of class `other` has moved
it away.
-/

namespace HiDumper.Native

/-! ## Collected data -/

/-- The amounts that the collector's items and details have in common. -/
structure Amounts where
  pss : Int := 0
  sharedClean : Int := 0
  sharedDirty : Int := 0
  privateClean : Int := 0
  privateDirty : Int := 0
  swap : Int := 0
  swapPss : Int := 0
  deriving DecidableEq, Repr

/-- The `+=` of all amounts. -/
def Amounts.add (a b : Amounts) : Amounts where
  pss := a.pss + b.pss
  sharedClean := a.sharedClean + b.sharedClean
  sharedDirty := a.sharedDirty + b.sharedDirty
  privateClean := a.privateClean + b.privateClean
  privateDirty := a.privateDirty + b.privateDirty
  swap := a.swap + b.swap
  swapPss := a.swapPss + b.swapPss

/-- `MemoryItemType`: the keys of `NATIVE_HEAP_MAP` and `GRAPHIC_MAP`, and the rest. -/
inductive MemoryItemType where
  | heap
  | anonNativeHeapJemallocMeta
  | anonNativeHeapJemalloc
  | anonNativeHeapBrk
  | anonNativeHeapMeta
  | anonNativeHeapMmap
  | graphGl
  | graphGraphics
  | other (value : Nat)
  deriving DecidableEq, Repr

/-- `MemoryItem`. -/
structure MemoryItem where
  type : MemoryItemType
  iNode : Int := 0
  amounts : Amounts := {}
  deriving DecidableEq, Repr

/-- `MemoryDetail`. -/
structure MemoryDetail where
  /-- The value of the enumerator. -/
  memoryClass : Int
  totals : Amounts := {}
  items : List MemoryItem := []
  deriving DecidableEq, Repr

/-- `ProcessMemoryDetail`. -/
structure ProcessMemoryDetail where
  details : List MemoryDetail := []
  totals : Amounts := {}
  totalAllPss : Int := 0
  deriving DecidableEq, Repr

/-- `MallHeapInfo`. -/
structure MallHeapInfo where
  size : UInt64 := 0
  alloc : UInt64 := 0
  free : UInt64 := 0
  deriving DecidableEq, Repr

/-- What is read for one sample. -/
structure SampleReadings where
  /-- `CollectProcessMemoryDetail`; `none` for a code other than success. -/
  processMemoryDetail : Option ProcessMemoryDetail
  /-- `GetMallocHeapInfo`. -/
  mallocHeapInfo : MallHeapInfo := {}
  /-- `GetProcValue` of `PurgSum` and `PurgPin`. -/
  purgSum : UInt64 := 0
  purgPin : UInt64 := 0
  /-- `GetProcName` of the process of the session. -/
  procName : String := ""
  /-- `QueryMemInfo`: name, pid and size of the processes it lists. -/
  queryMemInfo : Option (List (String × Int × Int)) := none
  /-- `GetAshmemInfo`: the total and the number of detail lines. -/
  ashmemInfo : Option (Int × Nat) := none

/-! ## The object of a session -/

/-- The members of `MemoryInfo` that outlive a sample, with their initial values. -/
structure MemoryInfo where
  titleWidth : Nat := 17
  currentPss : UInt64 := 0
  memoryItemMap : UnorderedMap String MemoryItem := ∅
  graphicsMemory : GraphicsMemory := {}

namespace MemoryInfo

/-- `LINE_WIDTH_`. -/
def lineWidth : Nat := 14

/-- `RAM_WIDTH_`. -/
def ramWidth : Nat := 16

/-- `MALLOC_HEAP_TYPES`. -/
def mallocHeapTypes : Nat := 3

/-- `MEMORY_CLASS_VEC`. -/
def memoryClassVec : List String :=
  ["graph", "ark ts heap", "arkts-static heap", ".db", "dev", "dmabuf", "guard", ".hap",
    "native heap", ".so", "stack", ".ttf", "jsvm heap", "arkweb-js heap", "arkweb-pa heap",
    "kotlin heap", "rn-hermes heap", "dart heap", "other"]

/-- `MEMORY_PRINT_ORDER_VEC`. -/
def memoryPrintOrderVec : List String :=
  ["ark ts heap", "arkts-static heap", "guard", "native heap", ".hap", "AnonPage other",
    "stack", ".db", ".so", "dev", "dmabuf", ".ttf", "jsvm heap", "arkweb-js heap",
    "arkweb-pa heap", "kotlin heap", "rn-hermes heap", "dart heap"]

/-- `NATIVE_HEAP_TAG`. -/
def nativeHeapTag : List String :=
  ["heap", "jemalloc meta", "jemalloc heap", "brk heap", "musl heap", "mmap heap"]

/-- `NATIVE_HEAP_MAP`. -/
def nativeHeapMap : MemoryItemType → Option String
  | .heap => some "heap"
  | .anonNativeHeapJemallocMeta => some "jemalloc meta"
  | .anonNativeHeapJemalloc => some "jemalloc heap"
  | .anonNativeHeapBrk => some "brk heap"
  | .anonNativeHeapMeta => some "musl heap"
  | .anonNativeHeapMmap => some "mmap heap"
  | _ => none

/-- `TITLE_HAS_PID_`, each title split at its underscore. -/
def titleHasPid : List (String × String) :=
  [("Pss", "Total"), ("Shared", "Clean"), ("Shared", "Dirty"), ("Private", "Clean"),
    ("Private", "Dirty"), ("Swap", "Total"), ("SwapPss", "Total"), ("Heap", "Size"),
    ("Heap", "Alloc"), ("Heap", "Free")]

/-- `MEMORY_CLASS_VEC[memoryClass]` behind its test: `some none` for a class the test
    skips, `none` for one that it lets through and the vector does not have. -/
def memoryClassStr (memoryClass : Int) : Option (Option String) :=
  if memoryClass < 0 ∨ memoryClass > memoryClassVec.length then some none
  else memoryClassVec[memoryClass.toNat]?.map some

/-- The width of a title column for one more detail. -/
def widenTitle (width : Nat) (detail : MemoryDetail) : Option Nat := do
  match ← memoryClassStr detail.memoryClass with
  | none => some width
  | some name =>
    let width := max width name.utf8ByteSize
    some (if name = "other" then max width "AnonPage other".utf8ByteSize else width)

/-- `MemoryInfo::CollectProcessMemoryDetail`: a failed collection leaves `TITLE_WIDTH_`. -/
def collectProcessMemoryDetail (info : MemoryInfo) (readings : SampleReadings) :
    Option MemoryInfo :=
  match readings.processMemoryDetail with
  | none => some info
  | some detail => do
    let maxTitleWidth ← detail.details.foldlM widenTitle 0
    some { info with titleWidth := maxTitleWidth }

/-! ## Rows -/

/-- A row of the table. -/
abbrev Row := List String

/-- A title cell. -/
def titleCell (info : MemoryInfo) (title : String) : String :=
  setWidth info.titleWidth ' ' false title ++ " "

/-- `MemoryInfo::SetValueForRet`. -/
def valueCell (value : String) : String := setWidth lineWidth ' ' false value ++ " "

/-- `MemoryInfo::InsertMemoryTitle`. -/
def insertMemoryTitle (info : MemoryInfo) : List Row :=
  let space := setWidth info.titleWidth ' ' false " "
  let separator := setWidth lineWidth '-' false "-"
  let unit := setWidth lineWidth ' ' false ("(" ++ kbUnit ++ " )")
  [(space ++ " ") :: titleHasPid.map (fun title => setWidth lineWidth ' ' false title.1 ++ " "),
    (space ++ " ") :: titleHasPid.map (fun title => setWidth lineWidth ' ' false title.2 ++ " "),
    (space ++ " ") :: titleHasPid.map (fun _ => unit ++ " "),
    space :: titleHasPid.map (fun _ => separator ++ "-")]

/-- The cells of seven amounts. -/
def amountCells (amounts : Amounts) : Row :=
  [amounts.pss, amounts.sharedClean, amounts.sharedDirty, amounts.privateClean,
    amounts.privateDirty, amounts.swap, amounts.swapPss].map fun value => valueCell (toString value)

/-- The cells of `heapInfo`. -/
def heapCells (heapInfo : MallHeapInfo) : Row :=
  [heapInfo.size, heapInfo.alloc, heapInfo.free].map fun value => valueCell (toString value.toNat)

/-- The cells of a row that has no `heapInfo`. -/
def zeroCells : Row := List.replicate mallocHeapTypes (valueCell "0")

/-- `MemoryInfo::SetDetailRet`; a null detail is `none`. -/
def setDetailRet (info : MemoryInfo) (memoryClassStr : String) (detail : Option Amounts)
    (heapInfo : MallHeapInfo) : List Row :=
  match detail with
  | none => []
  | some amounts =>
    [titleCell info memoryClassStr :: (amountCells amounts ++
      if memoryClassStr = "native heap" then heapCells heapInfo else zeroCells)]

/-- `MemoryInfo::UpdateGraphicsMemoryRet`: the value under `Pss` and `Private_Dirty`,
    zeros under the other tags of `VALUE_WITH_PID`. -/
def updateGraphicsMemoryRet (info : MemoryInfo) (title : String) (value : UInt64) : Row :=
  titleCell info title :: [toString value.toNat, "0", "0", "0", toString value.toNat, "0", "0",
    "0", "0", "0"].map valueCell

/-! ## GetResult -/

/-- The loop of `GetGraphicsMemoryByDetail`. -/
def setGraphicsMemory (memory : GraphicsMemory) (item : MemoryItem) : GraphicsMemory :=
  match item.type with
  | .graphGl => { memory with gl := .ofInt item.amounts.pss }
  | .graphGraphics => { memory with graph := .ofInt item.amounts.pss }
  | _ => memory

/-- `MemoryInfo::GetGraphicsMemoryByDetail`. -/
def getGraphicsMemoryByDetail (info : MemoryInfo) (detail : MemoryDetail) :
    MemoryInfo × List Row :=
  let info := { info with
    graphicsMemory := detail.items.foldl setGraphicsMemory info.graphicsMemory }
  (info, [updateGraphicsMemoryRet info "GL" info.graphicsMemory.gl,
    updateGraphicsMemoryRet info "Graph" info.graphicsMemory.graph])

/-- `MemoryInfo::UpdatePageDetail` for one item, on the totals of `anonPageDetail`, if
    it still points to a detail, and of `filePageDetail`. -/
def updatePageDetail (pages : Option Amounts × Amounts) (item : MemoryItem) :
    Option (Option Amounts × Amounts) :=
  -- `iNode` is truncated to 32 bits before the test.
  if item.iNode % 2 ^ 32 = 0 then do
    let anonPage ← pages.1
    some (some (anonPage.add item.amounts), pages.2)
  else some (pages.1, pages.2.add item.amounts)

/-- The variables of the loop in `UpdateResult`. -/
structure ResultLoop where
  info : MemoryInfo
  rows : List Row := []
  nativeHeapDetail : Option MemoryDetail := none
  anonPageDetail : Option Amounts := some {}
  filePageDetail : Amounts := {}
  /-- `allDetailMap`, with the totals of the detail its pointers point to. -/
  allDetailMap : UnorderedMap String (Option Amounts) := ∅

/-- `allDetailMap[memoryClassStr] = ..`, if the class is printed. -/
def ResultLoop.putDetail (loop : ResultLoop) (memoryClassStr : String) (detail : Option Amounts) :
    ResultLoop :=
  if memoryClassStr ∈ memoryPrintOrderVec then
    { loop with allDetailMap := loop.allDetailMap.insert memoryClassStr detail }
  else loop

/-- One round of the loop in `UpdateResult`. -/
def ResultLoop.step (loop : ResultLoop) (detail : MemoryDetail) : Option ResultLoop := do
  match ← memoryClassStr detail.memoryClass with
  | none => some loop
  | some name =>
    if name = "graph" then
      let (info, rows) := getGraphicsMemoryByDetail loop.info detail
      some ({ loop with info := info, rows := loop.rows ++ rows }.putDetail name detail.totals)
    else if name = "native heap" then
      some ({ loop with nativeHeapDetail := some detail }.putDetail name detail.totals)
    else if name = "other" then do
      let (anonPage, filePage) ←
        detail.items.foldlM updatePageDetail (loop.anonPageDetail, loop.filePageDetail)
      -- The detail is moved to the map; from here on `anonPageDetail` is null.
      some ({ loop with anonPageDetail := none, filePageDetail := filePage }.putDetail
        "AnonPage other" anonPage)
    else some (loop.putDetail name detail.totals)

/-- `MemoryInfo::UpdateTotalDetail`. -/
def updateTotalDetail (info : MemoryInfo) (detail : ProcessMemoryDetail) (heapInfo : MallHeapInfo) :
    MemoryInfo × List Row :=
  let totalPrivateDirty : UInt64 := .ofInt detail.totals.privateDirty + info.graphicsMemory.gl +
    info.graphicsMemory.graph
  let separator := setWidth lineWidth '-' false "-"
  let values := [toString detail.totalAllPss, toString detail.totals.sharedClean,
    toString detail.totals.sharedDirty, toString detail.totals.privateClean,
    toString totalPrivateDirty.toNat, toString detail.totals.swap, toString detail.totals.swapPss,
    toString heapInfo.size.toNat, toString heapInfo.alloc.toNat, toString heapInfo.free.toNat]
  -- The last of the separators has no separator after it.
  let lines := (setWidth info.titleWidth '-' false "-" ++ "-") ::
    (List.replicate (values.length - 1) (separator ++ "-") ++ [separator])
  ({ info with currentPss := .ofInt detail.totalAllPss },
    [lines, titleCell info "Total" :: values.map valueCell])

/-- `MemoryInfo::UpdateResult`: the detail of the native heap and the rows. -/
def updateResult (info : MemoryInfo) (detail : ProcessMemoryDetail) (heapInfo : MallHeapInfo) :
    Option (MemoryInfo × Option MemoryDetail × List Row) := do
  let loop ← detail.details.foldlM ResultLoop.step { info := info }
  let classRows := memoryPrintOrderVec.flatMap fun classStr =>
    match loop.allDetailMap.lookup classStr with
    | some detail => setDetailRet loop.info classStr detail heapInfo
    | none => []
  let fileRows := setDetailRet loop.info "FilePage other" (some loop.filePageDetail) heapInfo
  let (info, totalRows) := updateTotalDetail loop.info detail heapInfo
  some (info, loop.nativeHeapDetail, loop.rows ++ classRows ++ fileRows ++ totalRows)

/-- One round of the loop in `GetNativeHeap`: items of one kind are added up, with
    those of earlier samples too. -/
def addNativeItem (items : UnorderedMap String MemoryItem) (item : MemoryItem) :
    UnorderedMap String MemoryItem :=
  match nativeHeapMap item.type with
  | none => items
  | some type =>
    match items.lookup type with
    | none => items.insert type item
    | some old => items.insert type { old with amounts := old.amounts.add item.amounts }

/-- `MemoryInfo::SetNativeDetailRet`. -/
def setNativeDetailRet (nativeClassStr : String) (item : MemoryItem) : Row :=
  setWidth ramWidth ' ' false (nativeClassStr ++ ":") :: (amountCells item.amounts ++ zeroCells)

/-- `MemoryInfo::AddBlankLine`. -/
def blankLine : Row := ["\n"]

/-- `MemoryInfo::GetNativeHeap`. -/
def getNativeHeap (info : MemoryInfo) (detail : Option MemoryDetail) : MemoryInfo × List Row :=
  match detail with
  | none => (info, [])
  | some detail =>
    let info := { info with memoryItemMap := detail.items.foldl addNativeItem info.memoryItemMap }
    (info, [blankLine, ["native heap:"]] ++ nativeHeapTag.filterMap fun type =>
      (info.memoryItemMap.lookup type).map (setNativeDetailRet type))

/-- `MemoryInfo::GetResult`. -/
def getResult (info : MemoryInfo) (readings : SampleReadings) : Option (MemoryInfo × List Row) :=
  match readings.processMemoryDetail with
  | none => some (info, [])
  | some detail => do
    let (info, nativeHeapDetail, rows) ← updateResult info detail readings.mallocHeapInfo
    let (info, nativeRows) := getNativeHeap info nativeHeapDetail
    some (info, rows ++ nativeRows)

/-! ## The rest of a sample -/

/-- `MemoryInfo::GetPurgByPid`. -/
def getPurgByPid (readings : SampleReadings) : List Row :=
  [blankLine, ["Purgeable:"],
    [setWidth ramWidth ' ' false "PurgSum:", addKbUnit readings.purgSum],
    [setWidth ramWidth ' ' false "PurgPin:", addKbUnit readings.purgPin]]

/-- `MemoryInfo::GetDma`. -/
def getDma (dmaValue : UInt64) : List Row :=
  [blankLine, ["DMA:"],
    [setWidth ramWidth ' ' false "Dma:", toString dmaValue.toNat ++ kbUnit]]

/-- `MemoryInfo::GetHiaiServerIon`. -/
def getHiaiServerIon (readings : SampleReadings) : List Row :=
  if readings.procName ≠ "hiaiserver" then []
  else
    match readings.queryMemInfo with
    | none => []
    | some [] => []
    | some infos =>
      [blankLine, "HIAIServer ION:\n" :: infos.map fun (name, pid, size) =>
        name ++ "(" ++ toString pid ++ "):" ++ toString (size.tdiv 1024) ++ " kB\n"]

/-- `MemoryInfo::GetAshmem` without the detail lines. -/
def getAshmem (readings : SampleReadings) : List Row :=
  match readings.ashmemInfo with
  | none => []
  | some (total, lines) =>
    if lines = 0 then []
    else [blankLine, ["Ashmem:"], ["Total Ashmem:" ++ toString total ++ kbUnit]]

/-- `MemoryInfo::GetMemoryInfoByPid` for a session, which shows neither ashmem details
    nor dma buffers nor gpu memory. -/
def getMemoryInfoByPid (info : MemoryInfo) (readings : SampleReadings) :
    Option (MemoryInfo × List Row) := do
  let info ← collectProcessMemoryDetail info readings
  let titleRows := insertMemoryTitle info
  let (info, resultRows) ← getResult info readings
  some (info, titleRows ++ resultRows ++ getPurgByPid readings ++ getDma info.graphicsMemory.graph ++
    getHiaiServerIon readings ++ getAshmem readings)

/-- The text `RedirectMemoryInfo` writes for a row. -/
def rowText : Row → String
  | [] => ""
  | [last] => if '\n' ∈ last.toList then last else last ++ "\n"
  | str :: rest => str ++ rowText rest

/-- The text of all rows. -/
def rowsText : List Row → String
  | [] => ""
  | row :: rows => rowText row ++ rowsText rows

/-- `MemoryInfo::RedirectMemoryInfo`: the text it appends to record_mem.txt. -/
def redirectMemoryInfo (timeIndex : Nat) (result : List Row) : String :=
  "\ntimes:" ++ toString timeIndex ++ "\n" ++ rowsText result

/-- One round of `GetMemoryInfoByTimeInterval`, the `timeIndex`-th one: the record and
    the value appended to `pssValues`. -/
def intervalSample (info : MemoryInfo) (timeIndex : Nat) (readings : SampleReadings) :
    Option (MemoryInfo × String × Int32) := do
  let (info, result) ← getMemoryInfoByPid info readings
  some (info, redirectMemoryInfo timeIndex result, info.currentPss.toUInt32.toInt32)

/-- The rounds of a session from the `timeIndex`-th one on. -/
def intervalLoop : MemoryInfo → Nat → List SampleReadings → Option (List (String × Int32))
  | _, _, [] => some []
  | info, timeIndex, readings :: rest => do
    let (info, output) ← intervalSample info timeIndex readings
    let outputs ← intervalLoop info (timeIndex + 1) rest
    some (output :: outputs)

/-- `MemoryInfo::GetMemoryInfoByTimeInterval` with the samples it takes until it is
    stopped: the records and the values of `pssValues`. -/
def getMemoryInfoByTimeInterval (samples : List SampleReadings) : Option (List (String × Int32)) :=
  intervalLoop {} 1 samples

end MemoryInfo

end HiDumper.Native
