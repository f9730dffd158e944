import HiDumper.Native.MemoryUtil

/-!
# Memory usage by process

Model of `MemoryInfo::GetMemByProcessPid`, `MemUsageToMatrix` and
`GetMemoryUsageInfo` in `executor/memory/memory_info.cpp`, with the records of
`parse/meminfo_data.h`. What the kernel and the collectors answer for a process is a
`ProcessReadings`; each of the three collectors may fail. Amounts are `uint64_t` and
wrap around.
-/

namespace HiDumper.Native

/-- `MemInfoData::MemInfo`, as far as `GetMemByProcessPid` reads it. -/
structure MemInfo where
  rss : UInt64 := 0
  pss : UInt64 := 0
  privateClean : UInt64 := 0
  privateDirty : UInt64 := 0
  swapPss : UInt64 := 0
  deriving DecidableEq, Repr

/-- `MemInfoData::MemUsage`. -/
structure MemUsage where
  vss : UInt64 := 0
  rss : UInt64 := 0
  uss : UInt64 := 0
  pss : UInt64 := 0
  swapPss : UInt64 := 0
  gl : UInt64 := 0
  graph : UInt64 := 0
  dma : UInt64 := 0
  purgSum : UInt64 := 0
  purgPin : UInt64 := 0
  pid : Int := -1
  name : String := ""
  adjLabel : String := ""
  deriving DecidableEq, Repr

/-- `MemInfoData::GraphicsMemory`. -/
structure GraphicsMemory where
  gl : UInt64 := 0
  graph : UInt64 := 0
  deriving DecidableEq, Repr

/-- The graphic memory collector's two kinds of memory. -/
inductive GraphicType where
  | gl | graph
  deriving DecidableEq, Repr

/-- What is collected about one process. -/
structure ProcessReadings where
  /-- `ParseSmapsRollupInfo::GetMemInfo`; `none` if smaps_rollup cannot be read. -/
  smapsRollup : Option MemInfo
  /-- `GraphicMemoryCollector::GetGraphicUsage`; `none` for a code other than success. -/
  graphicUsage : GraphicType → Option Int32
  /-- `GetVss`. -/
  vss : UInt64
  /-- `GetProcName`. -/
  procName : String
  /-- `GetProcessAdjLabel`. -/
  adjLabel : String
  /-- `GetScoreAdj`. -/
  scoreAdj : Int

/-- The state of a `MemoryInfo` that `GetMemoryUsageInfo` works on. -/
structure MemoryUsageInfo where
  dumpPrune : Bool
  memUsages : List MemUsage := []
  adjMemResult : String → List MemUsage := fun _ => []
  totalGL : UInt64 := 0
  totalGraph : UInt64 := 0
  totalDma : UInt64 := 0
  /-- The lines written to `rawParamFd_`. -/
  written : List String := []

namespace MemoryUsageInfo

/-- `PID_WIDTH_`. -/
def pidWidth : Nat := 5

/-- `NAME_WIDTH_`. -/
def nameWidth : Nat := 20

/-- `PSS_WIDTH_`. -/
def pssWidth : Nat := 30

/-- `KB_WIDTH_`. -/
def kbWidth : Nat := 12

/-- `MemoryUtil::InitMemUsage` on a new record. -/
def initMemUsage : MemUsage := { pid := 0 }

/-- `MemoryInfo::GetGraphicsMemory`; `none` is its failure. -/
def getGraphicsMemory (readings : ProcessReadings) (graphicsMemory : GraphicsMemory)
    (graphicType : GraphicType) : Option GraphicsMemory := do
  let data ← readings.graphicUsage graphicType
  match graphicType with
  | .gl => some { graphicsMemory with gl := .ofInt data.toInt }
  | .graph => some { graphicsMemory with graph := .ofInt data.toInt }

/-- The first part of `GetMemByProcessPid`: the amounts of smaps_rollup. -/
def setSmapsRollup (dumpPrune : Bool) (pid : Int) (readings : ProcessReadings) (memInfo : MemInfo)
    (usage : MemUsage) : MemUsage :=
  let usage := if dumpPrune then usage else { usage with
    vss := readings.vss
    uss := memInfo.privateClean + memInfo.privateDirty
    rss := memInfo.rss }
  { usage with
    pss := memInfo.pss
    swapPss := memInfo.swapPss
    name := readings.procName
    pid := pid
    adjLabel := readings.adjLabel }

/-- The second part: the GL memory. -/
def addGL (dumpPrune : Bool) (gl : UInt64) (usage : MemUsage) : MemUsage :=
  let usage := { usage with gl := gl }
  let usage := if dumpPrune then usage else
    { usage with uss := usage.uss + gl, rss := usage.rss + gl }
  { usage with pss := usage.pss + gl }

/-- The third part: the Graph memory. -/
def addGraph (graph : UInt64) (usage : MemUsage) : MemUsage :=
  { usage with
    graph := graph
    dma := graph
    uss := usage.uss + graph
    pss := usage.pss + graph
    rss := usage.rss + graph }

/-- `MemoryInfo::GetMemByProcessPid`: whether it succeeds, and the record it leaves. A
    collector that fails leaves its fields as they are. -/
def getMemByProcessPid (dumpPrune : Bool) (pid : Int) (readings : ProcessReadings)
    (usage : MemUsage) : Bool × MemUsage :=
  let usage :=
    match readings.smapsRollup with
    | some memInfo => setSmapsRollup dumpPrune pid readings memInfo usage
    | none => usage
  let graphicsMemory : GraphicsMemory := {}
  let glMemory := getGraphicsMemory readings graphicsMemory .gl
  let usage :=
    match glMemory with
    | some memory => addGL dumpPrune memory.gl usage
    | none => usage
  let usage :=
    if dumpPrune then usage
    else
      match getGraphicsMemory readings (glMemory.getD graphicsMemory) .graph with
      | some memory => addGraph memory.graph usage
      | none => usage
  (readings.smapsRollup.isSome, usage)

/-- `MemoryInfo::MemUsageToMatrix`: the line it writes. -/
def memUsageToMatrix (env : Int → ProcessReadings) (dumpPrune : Bool) (memUsage : MemUsage) :
    String :=
  let kb := fun value => setWidth kbWidth ' ' false (addKbUnit value)
  let pid := setWidth pidWidth ' ' true (toString memUsage.pid)
  let totalPss := setWidth pssWidth ' ' false
    (toString (memUsage.pss + memUsage.swapPss).toNat ++ "(" ++ toString memUsage.swapPss.toNat ++
      " in SwapPss) kB")
  let name := setWidth nameWidth ' ' true ("    " ++ memUsage.name)
  let columns :=
    if dumpPrune then
      [pid, totalPss, kb memUsage.gl,
        setWidth kbWidth ' ' false (toString (env memUsage.pid).scoreAdj), name]
    else
      [pid, totalPss, kb memUsage.vss, kb memUsage.rss, kb memUsage.uss, kb memUsage.gl,
        kb memUsage.graph, kb memUsage.dma, kb memUsage.purgSum, kb memUsage.purgPin, name]
  String.intercalate " " columns ++ "\n"

/-- What one round of the loop does after `GetMemByProcessPid` has succeeded. -/
def record (env : Int → ProcessReadings) (info : MemoryUsageInfo) (usage : MemUsage) :
    MemoryUsageInfo :=
  { info with
    memUsages := info.memUsages ++ [usage]
    adjMemResult := fun label =>
      if label = usage.adjLabel then info.adjMemResult label ++ [usage]
      else info.adjMemResult label
    totalGL := info.totalGL + usage.gl
    totalGraph := info.totalGraph + usage.graph
    totalDma := info.totalDma + usage.dma
    written := info.written ++ [memUsageToMatrix env info.dumpPrune usage] }

/-- The loop of `GetMemoryUsageInfo`, with the one record `usage` of all rounds. -/
def usageLoop (env : Int → ProcessReadings) :
    List Int → MemUsage → MemoryUsageInfo → MemoryUsageInfo
  | [], _, info => info
  | pid :: pids, usage, info =>
    match getMemByProcessPid info.dumpPrune pid (env pid) usage with
    | (true, usage) => usageLoop env pids usage (record env info usage)
    | (false, usage) => usageLoop env pids usage info

/-- `MemoryInfo::GetMemoryUsageInfo`. -/
def getMemoryUsageInfo (env : Int → ProcessReadings) (pids : List Int) (info : MemoryUsageInfo) :
    MemoryUsageInfo :=
  usageLoop env pids initMemUsage info

end MemoryUsageInfo

end HiDumper.Native
