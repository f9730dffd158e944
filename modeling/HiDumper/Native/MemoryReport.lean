import HiDumper.Native.DumpUtils
import HiDumper.Native.MemoryUsage
import HiDumper.Native.RamInfo

/-!
# The memory report of the device

Model of `MemoryInfo::GetMemoryInfoNoPid` and of what it calls, in
`executor/memory/memory_info.cpp`: the table of the processes by pid, the same by size, the
processes by their reclaim priority (`HIDUMPER_MEMMGR_ENABLE`), and the summaries. It is
called once on a new object.
What it reads of the system is a `ReportSources`; the thread that reads the smaps files is
joined before their contents are used, so its result is a value.

`Memory::ReclaimPriorityMapping` belongs to another repository: its texts are an input.
-/

namespace HiDumper.Native

/-- What the report is made from. -/
structure ReportSources where
  strings : StringEx
  /-- `GetUserPids`; `none` where it fails. -/
  userPids : Option (List Int)
  readings : Int → ProcessReadings
  /-- The lines of `/proc/<pid>/smaps`, none where it cannot be read. -/
  smaps : Int → List String
  /-- `ParseMeminfo::GetMeminfo`. -/
  meminfo : Option ValueMap
  /-- `GetHardwareInfo::GetHardwareUsage`. -/
  hardwareUsage : Option UInt64
  /-- `GetCMAInfo::GetUsed`. -/
  cmaUsed : Option UInt64
  /-- `ParseVmallocinfo::GetVmallocinfo`. -/
  vmallocinfo : Option UInt64
  /-- The texts of `ReclaimPriorityMapping`, in the order of its keys. -/
  reclaimPriorities : List String
  /-- `RECLAIM_PRIORITY_UNKNOWN_DESC`. -/
  reclaimPriorityUnknown : String
  /-- `std::sort` in `GetSortedMemoryInfoNoPid`, `GetMemoryByAdj` and `PairToStringMatrix`. -/
  sortBySize : List MemUsage → List MemUsage
  sortByPss : List MemUsage → List MemUsage
  sortByValue : List (String × UInt64) → List (String × UInt64)

namespace MemoryFilter

/-- `CALC_PSS_TOTAL_`. -/
def calcPssTotal : List String := ["Pss", "SwapPss"]

/-- `CALC_PROCESS_TOTAL_`. -/
def calcProcessTotal : List String := ["Pss", "SwapPss"]

/-- `CALC_KERNEL_TOTAL_`. -/
def calcKernelTotal : List String := ["KernelStack", "SUnreclaim", "PageTables", "Shmem"]

/-- `GPU_TAG`, `DMA_TAG`, `GL_OUT_LABEL`, `GRAPH_OUT_LABEL` and `DMA_OUT_LABEL`. -/
def gpuTag : String := "GPU"

def dmaTag : String := "DMA"

def glOutLabel : String := "GL"

def graphOutLabel : String := "Graph"

def dmaOutLabel : String := "Dma"

end MemoryFilter

namespace MemoryReport

open MemoryUsageInfo MemoryFilter

/-- `RAM_WIDTH_`. -/
def ramWidth : Nat := 16

/-- `NAME_AND_PID_WIDTH`. -/
def nameAndPidWidth : Nat := 30

/-- `PAGETAG_MIN_LEN` is 2: a tag and a group. -/
def pageTag (strings : StringEx) (name : String) : Option (String × String) :=
  match strings.splitStr name "#" false false with
  | tag :: group :: _ => some (tag, group)
  | _ => none

/-! ## The tables of the processes -/

/-- `MemoryInfo::AddMemByProcessTitle` without `dumpPrune_`. -/
def addMemByProcessTitle (sortType : String) : List String :=
  let columns := [setWidth pidWidth ' ' true "PID",
    setWidth pssWidth ' ' false "Total Pss(xxx in SwapPss)",
    setWidth kbWidth ' ' false "Total Vss", setWidth kbWidth ' ' false "Total Rss",
    setWidth kbWidth ' ' false "Total Uss", setWidth kbWidth ' ' false glOutLabel,
    setWidth kbWidth ' ' false graphOutLabel, setWidth kbWidth ' ' false dmaOutLabel,
    setWidth kbWidth ' ' false "PurgSum", setWidth kbWidth ' ' false "PurgPin",
    setWidth nameWidth ' ' true "    Name"]
  ["Total Memory Usage by " ++ sortType ++ ":\n", String.intercalate " " columns ++ "\n"]

/-- `pss + swapPss` of a process. -/
def totalPss (memUsage : MemUsage) : UInt64 := memUsage.pss + memUsage.swapPss

/-- The comparison of `GetSortedMemoryInfoNoPid`: whether `left` goes before `right`. -/
def biggerMemUsage (left right : MemUsage) : Bool :=
  if totalPss right ≠ totalPss left then decide (totalPss right < totalPss left)
  else if right.vss ≠ left.vss then decide (right.vss < left.vss)
  else if right.rss ≠ left.rss then decide (right.rss < left.rss)
  else if right.uss ≠ left.uss then decide (right.uss < left.uss)
  else decide (right.pid < left.pid)

/-- `MemoryInfo::GetSortedMemoryInfoNoPid`. -/
def getSortedMemoryInfoNoPid (src : ReportSources) (info : MemoryUsageInfo) : List String :=
  "\n" :: addMemByProcessTitle "Size" ++
    (src.sortBySize info.memUsages).map (memUsageToMatrix src.readings info.dumpPrune)

/-! ## The processes by reclaim priority -/

/-- The comparison of `GetMemoryByAdj`. -/
def biggerPss (left right : MemUsage) : Bool := decide (totalPss right < totalPss left)

/-- The line of a process in `GetMemoryByAdj`. -/
def adjLine (memUsage : MemUsage) : String :=
  setWidth nameAndPidWidth ' ' true
      ("   " ++ memUsage.name ++ "(pid=" ++ toString memUsage.pid ++ "): ") ++
    addKbUnit (totalPss memUsage) ++
    (if memUsage.swapPss > 0 then " (" ++ toString memUsage.swapPss.toNat ++ " kB in SwapPss)"
      else "") ++ "\n"

/-- The total of a label in `GetMemoryByAdj`. -/
def adjTotal (info : MemoryUsageInfo) (adjLabel : String) : UInt64 :=
  (info.adjMemResult adjLabel).foldl (fun a b => a + b.pss + b.swapPss) 0

/-- One round of the loop in `GetMemoryByAdj`. -/
def adjSection (src : ReportSources) (info : MemoryUsageInfo) (adjLabel : String) : List String :=
  match info.adjMemResult adjLabel with
  | [] => [adjLabel ++ ": " ++ addKbUnit 0 ++ "\n"]
  | memUsages =>
    (adjLabel ++ ": " ++ addKbUnit (adjTotal info adjLabel) ++ "\n") ::
      (src.sortByPss memUsages).map adjLine

/-- `reclaimPriority_`. -/
def reclaimPriority (src : ReportSources) : List String :=
  src.reclaimPriorities ++ [src.reclaimPriorityUnknown]

/-- `MemoryInfo::GetMemoryByAdj`. -/
def getMemoryByAdj (src : ReportSources) (info : MemoryUsageInfo) : List String :=
  "Total Pss by OOM adjustment:\n" :: (reclaimPriority src).flatMap (adjSection src info)

/-! ## The summaries -/

/-- `MemoryInfo::GetSmapsInfoNoPid`: what a smaps file adds to the groups. -/
def getSmapsInfoNoPid (lines : List String) (groupMap : GroupMap) : GroupMap :=
  (lines.foldl (ParseSmapsInfo.parseLine .notSpecifiedPid) { result := groupMap }).result

/-- The thread of `GetMemoryInfoNoPid`. -/
def smapsResult (src : ReportSources) (pids : List Int) : GroupMap :=
  pids.foldl (fun groupMap pid => getSmapsInfoNoPid (src.smaps pid) groupMap) ∅

/-- The loops that add up some keys of a map. -/
def addOfKeys (keys : List String) (valueMap : ValueMap) (totalValue : UInt64) : UInt64 :=
  keys.foldl (fun totalValue str =>
    match valueMap.lookup str with
    | some value => totalValue + value
    | none => totalValue) totalValue

/-- The groups whose tag is `filePageTag`, or those with another one. -/
def pages (strings : StringEx) (infos : GroupMap) (file : Bool) : List (String × UInt64) :=
  infos.entries.filterMap fun info =>
    (pageTag strings info.1).bind fun (tag, group) =>
      if decide (tag = filePageTag) = file then some (group, addOfKeys calcPssTotal info.2 0)
      else none

/-- The total of `PairToStringMatrix`. -/
def totalOfPairs (vec : List (String × UInt64)) : UInt64 := vec.foldl (fun a b => a + b.2) 0

/-- `MemoryInfo::PairToStringMatrix`. -/
def pairToStringMatrix (src : ReportSources) (titleStr : String) (vec : List (String × UInt64)) :
    List String :=
  (titleStr ++ "(" ++ addKbUnit (totalOfPairs vec) ++ "):\n") ::
    (src.sortByValue vec).map fun pair =>
      setWidth ramWidth ' ' false (addKbUnit pair.2) ++ " : " ++ pair.1 ++ "\n"

/-- `MemoryInfo::GetPssTotal`. -/
def getPssTotal (src : ReportSources) (info : MemoryUsageInfo) (infos : GroupMap) : List String :=
  "Total Pss by Category:\n" ::
    (pairToStringMatrix src filePageTag (pages src.strings infos true) ++
      pairToStringMatrix src anonPageTag (pages src.strings infos false) ++
      pairToStringMatrix src gpuTag [(glOutLabel, info.totalGL)] ++
      pairToStringMatrix src graphOutLabel [(graphOutLabel, info.totalGraph)] ++
      pairToStringMatrix src dmaTag [(dmaOutLabel, info.totalDma)])

/-- A title of the width of the summaries. -/
def ramTitle (title : String) : String := setWidth ramWidth ' ' false title

/-- `MemoryInfo::GetRamUsage`. -/
def getRamUsage (smapsinfos : GroupMap) (meminfo : ValueMap) : List String :=
  let ram := GetRamInfo.getRam smapsinfos meminfo
  [ramTitle "Total RAM:" ++ addKbUnit ram.total ++ "\n",
    ramTitle "Free RAM:" ++ addKbUnit ram.free ++ " (" ++ toString ram.cachedInfo.toNat ++
      " cached + " ++ toString ram.freeInfo.toNat ++ " free)\n",
    ramTitle "Used RAM:" ++ addKbUnit ram.used ++ " (" ++ toString ram.totalPss.toNat ++
      " total pss + " ++ toString ram.kernelUsed.toNat ++ " kernel)\n",
    ramTitle "Lost RAM:" ++ toString ram.lost.toInt ++ kbUnit ++ "\n"]

/-- `GetKernelInfo::GetKernel`. -/
def getKernel (src : ReportSources) (infos : ValueMap) : Option UInt64 :=
  src.vmallocinfo.map fun vmallocValue => addOfKeys calcKernelTotal infos 0 + vmallocValue / 1024

/-- `GetProcessInfo::GetProcess`. -/
def getProcess (infos : GroupMap) : UInt64 :=
  infos.entries.foldl (fun totalValue info => addOfKeys calcProcessTotal info.2 totalValue) 0

/-- `MemoryInfo::GetRamCategory`: a usage that is not known has no line. -/
def getRamCategory (src : ReportSources) (smapsInfos : GroupMap) (meminfos : ValueMap) :
    List String :=
  let line := fun title value => ramTitle title ++ addKbUnit value ++ "\n"
  "Total RAM by Category:\n" ::
    (src.hardwareUsage.toList.map (line "Hardware Usage:") ++
      src.cmaUsed.toList.map (line "CMA Usage:") ++
      (getKernel src meminfos).toList.map (line "Kernel Usage:") ++
      [line "Processes Usage:" (getProcess smapsInfos)])

/-- `MemoryInfo::GetPurgTotal`. -/
def getPurgTotal (meminfo : ValueMap) : List String :=
  let (purgSumTotal, purgPinTotal) : UInt64 × UInt64 :=
    match meminfo.lookup "Active(purg)", meminfo.lookup "Inactive(purg)",
        meminfo.lookup "Pined(purg)" with
    | some active, some inactive, some pined => (active + inactive, pined)
    | _, _, _ => (0, 0)
  ["Total Purgeable:\n", ramTitle "Total PurgSum:" ++ addKbUnit purgSumTotal ++ "\n",
    ramTitle "Total PurgPin:" ++ addKbUnit purgPinTotal ++ "\n"]

/-! ## The report -/

/-- `MEMORY_LINE`. -/
def memoryLine : String :=
  "-------------------------------[memory]-------------------------------"

/-- `MemoryInfo::DealResult` behind `GetMeminfo`: what it writes. -/
def dealResult (src : ReportSources) (pids : List Int) (info : MemoryUsageInfo)
    (meminfoResult : ValueMap) : List String :=
  let smaps := smapsResult src pids
  getSortedMemoryInfoNoPid src info ++ ["\n"] ++ getMemoryByAdj src info ++ ["\n"] ++
    getPssTotal src info smaps ++ ["\n"] ++ getRamUsage smaps meminfoResult ++ ["\n"] ++
    getRamCategory src smaps meminfoResult ++ ["\n"] ++ getPurgTotal meminfoResult

/-- The table by pid. -/
def memoryUsageInfo (src : ReportSources) (pids : List Int) : MemoryUsageInfo :=
  getMemoryUsageInfo src.readings pids { dumpPrune := false }

/-- `MemoryInfo::GetMemoryInfoNoPid`: the status and the texts it writes. -/
def getMemoryInfoNoPid (src : ReportSources) : DumpStatus × List String :=
  let title := (memoryLine ++ "\n") :: addMemByProcessTitle "PID"
  match src.userPids with
  | none => (.dumpFail, title)
  | some pids =>
    let info := memoryUsageInfo src pids
    match src.meminfo with
    | none => (.dumpFail, title ++ info.written)
    | some meminfoResult =>
      (.dumpOk, title ++ info.written ++ dealResult src pids info meminfoResult)

end MemoryReport

end HiDumper.Native
