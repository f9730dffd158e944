import HiDumper.Native.Common

/-!
# DumperOpts: what a request selects

Model of `common/dumper_opts.{h,cpp}`. The default of each field is the value
`DumperOpts::Reset` gives it. Option names, labels and paths are byte strings in
the source and `String`s here; `int` fields are `Int`.
-/

namespace HiDumper.Native

/-- `struct DumperOpts`. -/
structure DumperOpts where
  isDumpCpuFreq : Bool := false
  isDumpCpuUsage : Bool := false
  cpuUsagePid : Int := -1
  isDumpLog : Bool := false
  logArgs : List String := []
  isDumpMem : Bool := false
  memPid : Int := -1
  isDumpStorage : Bool := false
  storagePid : Int := -1
  isDumpNet : Bool := false
  netPid : Int := -1
  isDumpList : Bool := false
  isDumpService : Bool := false
  isDumpSystemAbility : Bool := false
  abilitieNames : List String := []
  abilitieArgs : List String := []
  isDumpSystem : Bool := false
  systemArgs : List String := []
  isDumpProcesses : Bool := false
  processPid : Int := -1
  eventId : String := ""
  showEventCount : Int := -1
  processName : String := ""
  startTime : Int := -1
  endTime : Int := -1
  isFaultLog : Bool := false
  path : String := ""
  isAppendix : Bool := false
  isShowSmaps : Bool := false
  isShowSmapsInfo : Bool := false
  isDumpJsHeapMem : Bool := false
  isDumpJsHeapMemGC : Bool := false
  isDumpJsHeapLeakobj : Bool := false
  isDumpJsHeapClean : Bool := false
  isDumpJsHeapCombine : Bool := false
  dumpJsHeapMemPid : Int := 0
  threadId : Int := 0
  ipcStatPid : Int := -1
  isDumpHeapMem : Bool := false
  isDumpHeapNative : Bool := false
  isDumpHeapKotlin : Bool := false
  isDumpHeapJsvm : Bool := false
  isDumpHeapArkwebJs : Bool := false
  dumpHeapRenderPid : Int := 0
  isDumpHeapMemGc : Bool := false
  dumpRawHeap : Bool := false
  isDumpHeapLeakobj : Bool := false
  dumpHeapMemPid : Int := 0
  dumpHeapArgPid : Int := 0
  isDumpAllIpc : Bool := false
  isDumpIpc : Bool := false
  isDumpIpcStartStat : Bool := false
  isDumpIpcStopStat : Bool := false
  isDumpIpcStat : Bool := false
  dumpJsRawHeap : Bool := false
  dumpMemPrune : Bool := false
  isDumpCjHeapMem : Bool := false
  isDumpCjHeapMemGC : Bool := false
  dumpCjHeapMemPid : Int := 0
  timeInterval : Int := 0
  isReceivedSigInt : Bool := false
  showAshmem : Bool := false
  showDmaBuf : Bool := false
  showGpumem : Bool := false
  showArktsHeap : Bool := false
  showLeakThread : Bool := false
  isEventList : Bool := false
  isEventDetail : Bool := false
  isDumpFd : Bool := false
  isDumpThread : Bool := false

namespace DumperOpts

/-- `DumperOpts::AddSelectAll`. -/
def addSelectAll (opts : DumperOpts) : DumperOpts :=
  { opts with
    isDumpCpuFreq := true
    isDumpCpuUsage := true
    isDumpLog := true
    isDumpMem := true
    isDumpStorage := true
    isDumpNet := true
    isDumpService := true
    isDumpSystemAbility := true
    isDumpSystem := true
    isDumpProcesses := true
    isFaultLog := true
    isAppendix := true }

/-- `DumperOpts::IsSelectAny`. -/
def isSelectAny (opts : DumperOpts) : Bool :=
  opts.isDumpCpuFreq || opts.isDumpCpuUsage || opts.isDumpLog || opts.isFaultLog ||
    opts.isDumpMem || opts.isDumpStorage || opts.isDumpNet || opts.isDumpService ||
    opts.isDumpSystemAbility || opts.isDumpSystem || opts.isDumpProcesses || opts.isShowSmaps ||
    opts.isDumpJsHeapMem || opts.isDumpCjHeapMem || opts.isDumpHeapMem || opts.isDumpIpc

/-- `DumperOpts::IsDumpZip`: `PATH_SEPARATOR` is `/`. -/
def isDumpZip (opts : DumperOpts) : Bool := startWith opts.path "/"

end DumperOpts

end HiDumper.Native
