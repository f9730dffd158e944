import Mathlib.Order.Defs.LinearOrder
import HiDumper.Native.DumpCpuData
import HiDumper.Native.PrintMemoryInfo
import HiDumper.Native.RawParam
import HiDumper.Native.Outputs

/-!
# DumpManagerCpuService: the CPU report

Model of `Request` and `GetCpuUsageByPid` of `dump_manager_cpu_service.cpp` and of what they
call. Both run under `mutex_`, so calls follow each other. What the CPU collector, the clock
and the permission check give belongs to the call; a collector that cannot be created is one
that collects nothing. Shares are numbers of a linear order, since the collector never gives
NaN, with the printing and the arithmetic that the report uses.

Left out: the timers of `XCollie`.
-/

namespace HiDumper.Native

/-- What the report does with a `double`. -/
structure CpuNumbers (D : Type) where
  zero : D
  add : D → D → D
  /-- `value * HUNDRED_PERCENT_VALUE`. -/
  timesHundred : D → D
  /-- `"%.2f"`. -/
  fixed2 : D → String
  /-- `std::to_string`. -/
  toText : D → String

/-- `CPUInfo`. -/
structure CPUInfo (D : Type) where
  userUsage : D
  niceUsage : D
  systemUsage : D
  idleUsage : D
  ioWaitUsage : D
  irqUsage : D
  softIrqUsage : D

/-- `ProcInfo`. -/
structure ProcInfo (D : Type) where
  userSpaceUsage : D
  sysSpaceUsage : D
  totalUsage : D
  pid : String
  comm : String
  minflt : String
  majflt : String
  deriving DecidableEq

/-- `ProcessCpuStatInfo` of the collector. -/
structure ProcessCpuStatInfo (D : Type) where
  pid : Nat
  procName : String
  minFlt : Nat
  majFlt : Nat
  uCpuUsage : D
  sCpuUsage : D
  cpuUsage : D
  deriving DecidableEq

/-- `SysCpuUsage` of the collector. -/
structure SysCpuUsage (D : Type) where
  startTime : Nat
  endTime : Nat
  cpuInfos : List (CPUInfo D)

/-- What one call gets from the collector, in the order it asks. -/
structure CpuCollector (D : Type) where
  /-- `CollectProcessCpuStatInfos` of `GetSysCPUInfo`. -/
  firstProcessCpuStatInfos : Option (List (ProcessCpuStatInfo D))
  sysCpuUsage : Option (SysCpuUsage D)
  /-- `CollectProcessCpuStatInfos` of `GetAllProcInfo`. -/
  processCpuStatInfos : Option (List (ProcessCpuStatInfo D))
  processCpuStatInfo : Int → Option (ProcessCpuStatInfo D)
  /-- The averages of `CollectSysCpuLoad` over 1, 5 and 15 minutes. -/
  sysCpuLoad : Option (D × D × D)

/-- What a call meets. -/
structure CpuCallEnv (D : Type) where
  hasDumpPermission : Bool
  callingUid : Int
  callingPid : Int
  /-- Whether `CpuCollector::Create` gives a collector to `GetCpuUsageByPid`. -/
  created : Bool
  collector : CpuCollector D
  /-- `localtime_r`. -/
  localtime : Nat → LocalTime
  /-- `std::sort` with `SortProcInfo`. -/
  sort : List (ProcInfo D) → List (ProcInfo D)

/-- The members of the service that its calls use. -/
structure DumpManagerCpuService (D : Type) where
  startTime : Nat := 0
  endTime : Nat := 0
  curCPUInfo : Option (CPUInfo D) := none
  curSpecProc : Option (ProcInfo D) := none
  curProcs : List (ProcInfo D) := []
  cpuUsagePid : Int := -1
  dumpCPUDatas : List (List String) := []

namespace DumpManagerCpuService

/-- `INVALID_PID`. -/
def invalidPid : Int := -1

/-- `APP_UID`. -/
def appUid : Int := 10000

/-- `PROC_CPU_LENGTH`. -/
def procCpuLength : Nat := 256

/-- `AVG_INFO_SUBSTR_LENGTH`. -/
def avgInfoSubstrLength : Nat := 4

variable {D : Type} [LinearOrder D] (numbers : CpuNumbers D)

/-- `ProcInfo` of what the collector gave, as `GetAllProcInfo` and `GetSingleProcInfo` fill
    it. -/
def toProcInfo (cpuInfo : ProcessCpuStatInfo D) : ProcInfo D where
  pid := toString cpuInfo.pid
  comm := cpuInfo.procName
  minflt := toString cpuInfo.minFlt
  majflt := toString cpuInfo.majFlt
  userSpaceUsage := numbers.timesHundred cpuInfo.uCpuUsage
  sysSpaceUsage := numbers.timesHundred cpuInfo.sCpuUsage
  totalUsage := numbers.timesHundred cpuInfo.cpuUsage

/-- `CPUInfo()`. -/
def emptyCPUInfo : CPUInfo D :=
  let zero := numbers.zero
  ⟨zero, zero, zero, zero, zero, zero, zero⟩

/-- `DumpManagerCpuService::InitParam`. -/
def initParam (dumpCpuData : DumpCpuData) (s : DumpManagerCpuService D) :
    DumpManagerCpuService D :=
  let zero := numbers.zero
  { s with
    cpuUsagePid := dumpCpuData.cpuUsagePid
    curSpecProc :=
      if dumpCpuData.cpuUsagePid ≠ invalidPid then some ⟨zero, zero, zero, "", "", "", ""⟩
      else s.curSpecProc
    curCPUInfo := some (emptyCPUInfo numbers)
    dumpCPUDatas := dumpCpuData.dumpCPUDatas }

/-- `DumpManagerCpuService::ResetParam`. -/
def resetParam (s : DumpManagerCpuService D) : DumpManagerCpuService D :=
  { s with
    curCPUInfo := none
    curProcs := []
    curSpecProc := if s.cpuUsagePid ≠ invalidPid then none else s.curSpecProc }

/-- `DumpManagerCpuService::AddStrLineToDumpInfo`. -/
def addStrLineToDumpInfo (strLine : String) (s : DumpManagerCpuService D) :
    DumpManagerCpuService D :=
  { s with dumpCPUDatas := s.dumpCPUDatas ++ [[strLine]] }

/-- `DumpManagerCpuService::GetSysCPUInfo`: the first of the `cpuInfos` is the whole CPU. -/
def getSysCPUInfo (collector : CpuCollector D) (s : DumpManagerCpuService D) :
    Bool × DumpManagerCpuService D :=
  match collector.firstProcessCpuStatInfos, collector.sysCpuUsage with
  | some (_ :: _), some sysCpuUsage =>
    (true, { s with
      startTime := sysCpuUsage.startTime
      endTime := sysCpuUsage.endTime
      curCPUInfo := (sysCpuUsage.cpuInfos.head?.map some).getD s.curCPUInfo })
  | _, _ => (false, s)

/-- `DumpManagerCpuService::GetAllProcInfo` of `curProcs_`. -/
def getAllProcInfo (collector : CpuCollector D) (s : DumpManagerCpuService D) :
    Bool × DumpManagerCpuService D :=
  match collector.processCpuStatInfos with
  | some (cpuInfo :: cpuInfos) =>
    (true, { s with curProcs := s.curProcs ++ (cpuInfo :: cpuInfos).map (toProcInfo numbers) })
  | _ => (false, s)

/-- `DumpManagerCpuService::GetSingleProcInfo`. -/
def getSingleProcInfo (collector : CpuCollector D) (pid : Int) : Option (ProcInfo D) :=
  (collector.processCpuStatInfo pid).map (toProcInfo numbers)

/-- `DumpManagerCpuService::ReadLoadAvgInfo`. -/
def readLoadAvgInfo (collector : CpuCollector D) : Option String :=
  collector.sysCpuLoad.map fun (avgLoad1, avgLoad5, avgLoad15) =>
    let info := fun value =>
      String.ofList ((numbers.toText value).toList.take avgInfoSubstrLength)
    "Load average: " ++ info avgLoad1 ++ " / " ++ info avgLoad5 ++ " / " ++ info avgLoad15 ++
      "; the cpu load average in 1 min, 5 min and 15 min"

/-- `DumpManagerCpuService::CreateDumpTimeString` of the times that `GetDateAndTime` gives
    for `startTime_` and `endTime_`, which count milliseconds. -/
def createDumpTimeString (localtime : Nat → LocalTime) (startTime endTime : Nat) : String :=
  "CPU usage from" ++ " " ++ getDateAndTime (localtime (startTime / 1000)) ++ " to" ++ " " ++
    getDateAndTime (localtime (endTime / 1000))

/-- `DumpManagerCpuService::CreateCPUStatString`: empty when the text does not fit. -/
def createCPUStatString (cpuInfo : CPUInfo D) : String :=
  let userSpaceUsage :=
    numbers.timesHundred (numbers.add cpuInfo.userUsage cpuInfo.niceUsage)
  let sysSpaceUsage := numbers.timesHundred cpuInfo.systemUsage
  let iowUsage := numbers.timesHundred cpuInfo.ioWaitUsage
  let irqUsage := numbers.timesHundred (numbers.add cpuInfo.irqUsage cpuInfo.softIrqUsage)
  let idleUsage := numbers.timesHundred cpuInfo.idleUsage
  let totalUsage := numbers.add userSpaceUsage sysSpaceUsage
  (sprintfS procCpuLength
    ("Total: " ++ numbers.fixed2 totalUsage ++ "%; User Space: " ++
      numbers.fixed2 userSpaceUsage ++ "%; Kernel Space: " ++ numbers.fixed2 sysSpaceUsage ++
      "%; iowait: " ++ numbers.fixed2 iowUsage ++ "%; irq: " ++ numbers.fixed2 irqUsage ++
      "%; idle: " ++ numbers.fixed2 idleUsage ++ "%")).getD ""

/-- `SortProcInfo`: whether `left` goes before `right`. -/
def sortProcInfo (left right : ProcInfo D) : Bool :=
  if right.totalUsage ≠ left.totalUsage then decide (right.totalUsage < left.totalUsage)
  else if right.userSpaceUsage ≠ left.userSpaceUsage then
    decide (right.userSpaceUsage < left.userSpaceUsage)
  else if right.sysSpaceUsage ≠ left.sysSpaceUsage then
    decide (right.sysSpaceUsage < left.sysSpaceUsage)
  else if right.pid.length ≠ left.pid.length then decide (right.pid.length < left.pid.length)
  else decide (right.pid < left.pid)

/-- The line of a process, `none` when it does not fit. -/
def procLine (procInfo : ProcInfo D) : Option String :=
  let str := fun (value : String) => String.ofList (cStr value.toList)
  sprintfS procCpuLength
    ("    " ++ setWidth 5 ' ' true (str procInfo.pid) ++ "    " ++
      setWidth 6 ' ' false (numbers.fixed2 procInfo.totalUsage) ++ "%         " ++
      setWidth 6 ' ' false (numbers.fixed2 procInfo.userSpaceUsage) ++ "%        " ++
      setWidth 6 ' ' false (numbers.fixed2 procInfo.sysSpaceUsage) ++ "%        " ++
      setWidth 8 ' ' false (str procInfo.minflt) ++ "            " ++
      setWidth 8 ' ' false (str procInfo.majflt) ++ "            " ++
      setWidth 15 ' ' true (str procInfo.comm))

/-- The two lines above the processes. -/
def procHeader : List (List String) :=
  [["Details of Processes:"],
    ["    PID   Total Usage\t   User Space    Kernel Space    Page Fault Minor" ++
      "    Page Fault Major    Name"]]

/-- `DumpManagerCpuService::DumpProcInfo`. A line that does not fit is left out of the table,
    and stands empty for a single process. -/
def dumpProcInfo (sort : List (ProcInfo D) → List (ProcInfo D)) (s : DumpManagerCpuService D) :
    DumpManagerCpuService D :=
  let sortedInfos := sort s.curProcs
  if s.cpuUsagePid ≠ invalidPid then
    let line := (s.curSpecProc.bind (procLine numbers)).getD ""
    { s with dumpCPUDatas := s.dumpCPUDatas ++ procHeader ++ [[line]] }
  else
    { s with
      dumpCPUDatas := s.dumpCPUDatas ++ procHeader ++
        (sortedInfos.filterMap (procLine numbers)).map fun line => [line] }

/-- The part of `DumpCpuUsageData` that collects the processes. -/
def collectProcInfo (collector : CpuCollector D) (s : DumpManagerCpuService D) :
    Bool × DumpManagerCpuService D :=
  if s.cpuUsagePid ≠ invalidPid then
    match getSingleProcInfo numbers collector s.cpuUsagePid with
    | none => (false, s)
    | some specProc => (true, { s with curSpecProc := some specProc })
  else getAllProcInfo numbers collector s

/-- The part of `DumpCpuUsageData` that writes the report. -/
def writeReport (env : CpuCallEnv D) (avgInfo : String) (s : DumpManagerCpuService D) :
    DumpManagerCpuService D :=
  let s := addStrLineToDumpInfo avgInfo s
  let s := addStrLineToDumpInfo (createDumpTimeString env.localtime s.startTime s.endTime) s
  let s := addStrLineToDumpInfo ((s.curCPUInfo.map (createCPUStatString numbers)).getD "") s
  dumpProcInfo numbers env.sort s

/-- `DumpManagerCpuService::DumpCpuUsageData`. -/
def dumpCpuUsageData (env : CpuCallEnv D) (s : DumpManagerCpuService D) :
    DumpStatus × DumpManagerCpuService D :=
  let (ok, s) := getSysCPUInfo env.collector s
  if !ok then (.dumpFail, s)
  else
    let (ok, s) := collectProcInfo numbers env.collector s
    if !ok then (.dumpFail, s)
    else
      match readLoadAvgInfo numbers env.collector with
      | none => (.dumpFail, s)
      | some avgInfo => (.dumpOk, writeReport numbers env avgInfo s)

/-- `DumpManagerCpuService::Request`: the status and the caller's data afterwards. -/
def request (env : CpuCallEnv D) (dumpCpuData : DumpCpuData) (s : DumpManagerCpuService D) :
    (DumpStatus × DumpCpuData) × DumpManagerCpuService D :=
  let s := initParam numbers dumpCpuData s
  if !env.hasDumpPermission then ((.dumpNoPermission, dumpCpuData), s)
  else
    let (ret, s) := dumpCpuUsageData numbers env s
    ((ret, { dumpCpuData with dumpCPUDatas := s.dumpCPUDatas }), resetParam s)

/-- `DumpManagerCpuService::GetCpuUsageByPid`: the status and `cpuUsage` afterwards. The
    share that goes out is the one the collector gave, `totalUsage / HUNDRED_PERCENT_VALUE`. -/
def getCpuUsageByPid (dividedByHundred : D → D) (env : CpuCallEnv D) (pid : Int) (cpuUsage : D) :
    DumpStatus × D :=
  if env.callingUid ≥ appUid && pid ≠ env.callingPid then (.dumpNoPermission, cpuUsage)
  else if !env.created then (.dumpFail, cpuUsage)
  else if pid ≠ invalidPid then
    match getSingleProcInfo numbers env.collector pid with
    | none => (.dumpFail, cpuUsage)
    | some singleProcInfo => (.dumpOk, dividedByHundred singleProcInfo.totalUsage)
  else (.dumpOk, cpuUsage)

end DumpManagerCpuService

end HiDumper.Native
