import HiDumper.ForStd.StorePrograms
import HiDumper.Native.DumpManager
import HiDumper.Native.FdLinks
import HiDumper.Native.Outputs

/-!
# What the registered tasks do

Model of the `TaskEntry` of the tasks and writers in `task`, with the functions of
`utils/writer_utils.cpp` and `data_inventory` that they call. A `TaskEntry` is a program whose
steps are the accesses to the inventory, each under the lock of `DataInventory`, and the calls
of `SaveStringToFd`. What it reads from the device is an input; nothing is read twice in one
run. `PreDump` and `PostDump` are empty for all of them.
-/

namespace HiDumper.Native

open StorePrograms TaskIds DataIds

/-- `CpuFreqInfo`. -/
structure CpuFreqInfo where
  cpuId : Nat
  curFreq : String
  maxFreq : String
  deriving DecidableEq, Repr

/-- What the pointers in the inventory point to. -/
inductive TaskData where
  | strings (data : List String)
  | cpuFreqInfo (data : List CpuFreqInfo)
  deriving DecidableEq, Repr

/-- `TaskEntry` and what it calls. -/
abbrev TaskM := Program DataId TaskData String

/-- What one run of a task can read. -/
structure Device where
  /-- The text of a file that `realpath` finds and that can be opened. -/
  file : String → Option String
  /-- The output of a command, unless `popen` fails. -/
  command : String → Option String
  /-- `OHOS::LoadStringFromFile`; `none` is `false`. -/
  loadStringFromFile : String → Option String
  /-- `sysconf(_SC_NPROCESSORS_ONLN)`. -/
  processorsOnline : Int
  /-- The device information interface: what the function of that name returns. -/
  deviceInfo : String → String

/-- The part of `DumpContext` that the tasks read. -/
structure DumpContext where
  dumperOpts : DumperOptions
  outputFd : Int

/-! ## WriterUtils -/

/-- The lines that `HandleStringFromFile` hands on. -/
def handleStringFromFile (content : String) : List String :=
  (FdThreadDumper.getlines content).map (· ++ "\n")

/-- The lines that `HandleStringFromCommand` hands on. Each is read with its line break and
    goes through a C string. -/
def handleStringFromCommand (content : String) : List String :=
  let pieces := content.toList.splitOn '\n'
  let lines := pieces.dropLast.map (· ++ ['\n']) ++
    if pieces.getLastD [] = [] then [] else [pieces.getLastD []]
  lines.map fun line => String.ofList (cStr line)

/-- `WriteStringIntoFd`. -/
def writeStringIntoFd (str : String) (fd : Int) : TaskM Unit :=
  if fd = -1 then pure ()
  else if str = "" then pure ()
  else .write (if str.toList.getLast? = some '\n' then str else str ++ "\n") (pure ())

/-- `WriteStringIntoFd` for several strings. -/
def writeStringsIntoFd (strs : List String) (fd : Int) : TaskM Unit :=
  if fd = -1 ∨ strs = [] then pure ()
  else strs.forM fun str => writeStringIntoFd str fd

/-- `WriteTitle`. -/
def writeTitle (title : String) (fd : Int) : TaskM Unit := do
  writeStringIntoFd "\n" fd
  writeStringIntoFd title fd
  writeStringIntoFd "\n" fd

/-! ## DataInventory -/

/-- `DataInventory::Inject`. -/
def inject (dataId : DataId) (data : TaskData) : TaskM Bool :=
  .find dataId fun ptr => if ptr.isSome then pure false else .emplace dataId data pure

/-- What the loader of `InjectString` yields. -/
def Device.load (device : Device) (source : String) (isFile : Bool) : Option (List String) :=
  if isFile then (device.file source).map handleStringFromFile
  else (device.command source).map handleStringFromCommand

/-- `DataInventory::InjectStringWithFilter`. -/
def injectStringWithFilter (device : Device) (source : String) (dataId : DataId) (isFile : Bool)
    (func : String → String) : TaskM Bool :=
  match device.load source isFile with
  | none => pure false
  | some lines => inject dataId (.strings (lines.map func))

/-- `DataInventory::InjectString`. -/
def injectString (device : Device) (source : String) (dataId : DataId) (isFile : Bool) :
    TaskM Bool :=
  match device.load source isFile with
  | none => pure false
  | some lines => inject dataId (.strings lines)

/-- `GetPtr<std::vector<std::string>>`. Under an id there is data of one type only. -/
def getStrings (dataId : DataId) : TaskM (Option (List String)) :=
  .find dataId fun ptr => pure <| ptr.bind fun data =>
    match data with
    | .strings strs => some strs
    | .cpuFreqInfo _ => none

/-- `GetPtr<std::vector<CpuFreqInfo>>`. -/
def getCpuFreqInfo (dataId : DataId) : TaskM (Option (List CpuFreqInfo)) :=
  .find dataId fun ptr => pure <| ptr.bind fun data =>
    match data with
    | .cpuFreqInfo infos => some infos
    | .strings _ => none

/-! ## The tasks -/

/-- The calls of `AddApiRetIntoResult`: the function that is asked, and the title. -/
def deviceInfoTitles : List (String × String) :=
  [("GetDisplayVersion", "BuildId"), ("GetOsReleaseType", "RleaseType"),
    ("GetVersionId", "OsVersion"), ("GetDeviceType", "DeviceType"),
    ("GetManufacture", "Manufacture"), ("GetBrand", "Brand"), ("GetMarketName", "MarketName"),
    ("GetProductSeries", "ProductSeries"), ("GetProductModel", "ProductModel"),
    ("GetSoftwareModel", "SoftwareModel"), ("GetHardwareModel", "HardwareModel"),
    ("GetHardwareProfile", "HardwareProfile"), ("GetBootloaderVersion", "BootLoaderVersion"),
    ("GetAbiList", "ABIList"), ("GetSecurityPatchTag", "SecurityPatch"),
    ("GetIncrementalVersion", "IncrementalVersion"), ("GetOSFullName", "OSFullName"),
    ("GetSdkApiVersion", "SDKAPIVersion"), ("GetFirstApiVersion", "FirstAPIVersion"),
    ("GetBuildRootHash", "BuildHash"), ("GetBuildType", "BuildType"),
    ("GetBuildUser", "BuildUser"), ("GetBuildHost", "BuildHost"), ("GetBuildTime", "BuildTime")]

/-- `DeviceInfoTask::GetDeviceInfoByParam`. -/
def getDeviceInfoByParam (device : Device) : TaskM Bool := do
  let lines := deviceInfoTitles.map fun (api, title) => title ++ ": " ++ device.deviceInfo api
  let _ ← inject deviceInfo (.strings lines)
  pure true

/-- `DeviceInfoTask::TaskEntry`. -/
def DeviceInfoTask.taskEntry (_ : DumpContext) (device : Device) : TaskM DumpStatus := do
  let ret ← getDeviceInfoByParam device
  let _ ← injectString device "/proc/version" procVersionInfo true
  let _ ← injectString device "/proc/cmdline" procCmdlineInfo true
  let _ ← injectString device "uptime -p" uptimeInfo false
  if !ret then pure .dumpFail else pure .dumpOk

/-- `DataId::SYSTEM_CLUSTER_INFO`, which no writer asks for. -/
def DataIds.systemClusterInfo : DataId := 1

/-- `SYSTEM_CLUSTER`. -/
def systemClusters : List String := ["base", "system"]

/-- `SystemClusterInfoTask::TaskEntry`. -/
def SystemClusterInfoTask.taskEntry (_ : DumpContext) (_ : Device) : TaskM DumpStatus := do
  let systemCluster := String.join (systemClusters.map fun cluster =>
    cluster ++ String.ofList (List.replicate 30 ' '))
  let _ ← inject systemClusterInfo (.strings [systemCluster])
  pure .dumpOk

/-- `WakeupSourcesInfoTask::TaskEntry`. -/
def WakeupSourcesInfoTask.taskEntry (_ : DumpContext) (device : Device) : TaskM DumpStatus := do
  let ret ← injectString device "/sys/kernel/debug/wakeup_sources" wakeupSourcesInfo true
  if !ret then pure .dumpFail else pure .dumpOk

/-- `KernelModuleInfoTask::TaskEntry`. -/
def KernelModuleInfoTask.taskEntry (_ : DumpContext) (device : Device) : TaskM DumpStatus := do
  let _ ← injectString device "printenv" printenvInfo false
  let _ ← injectString device "lsmod" lsmodInfo false
  let _ ← injectString device "/proc/modules" procModulesInfo true
  pure .dumpOk

/-- `SlabInfoTask::TaskEntry`. -/
def SlabInfoTask.taskEntry (_ : DumpContext) (device : Device) : TaskM DumpStatus := do
  let _ ← injectString device "/proc/slabinfo" procSlabInfo true
  let _ ← injectString device "/proc/devhost/root/slabinfo" procDevhostSlabInfo true
  pure .dumpOk

/-- The loop of `CpuFreqInfoTask`; `none` where it gives up. -/
def Device.cpuFreqInfos (device : Device) : Option (List CpuFreqInfo) :=
  (List.range device.processorsOnline.toNat).mapM fun i => do
    let path := "/sys/devices/system/cpu/cpu" ++ toString i
    let curFreq ← device.loadStringFromFile (path ++ "/cpufreq/cpuinfo_cur_freq")
    let maxFreq ← device.loadStringFromFile (path ++ "/cpufreq/cpuinfo_max_freq")
    pure ⟨i, curFreq, maxFreq⟩

/-- `CpuFreqInfoTask::TaskEntry`. -/
def CpuFreqInfoTask.taskEntry (_ : DumpContext) (device : Device) : TaskM DumpStatus :=
  match device.cpuFreqInfos with
  | none => pure .dumpFail
  | some cpuFreqInfoVec => do
    let _ ← inject cpuFreqInfo (.cpuFreqInfo cpuFreqInfoVec)
    pure .dumpOk

/-- `DiskInfoTask::TaskEntry`. -/
def DiskInfoTask.taskEntry (_ : DumpContext) (device : Device) : TaskM DumpStatus := do
  let _ ← injectString device "storaged -u -p" storageStateInfo false
  let _ ← injectString device "df -k" dfInfo false
  pure .dumpOk

/-- `LsofInfoTask::TaskEntry`. -/
def LsofInfoTask.taskEntry (_ : DumpContext) (device : Device) : TaskM DumpStatus := do
  let _ ← injectString device "lsof" lsofInfo false
  pure .dumpOk

/-- `IoTopInfoTask::TaskEntry`. Its `FilterControlChar` is the one of `FileFormatDumpFilter`. -/
def IoTopInfoTask.taskEntry (_ : DumpContext) (device : Device) : TaskM DumpStatus := do
  let _ ← injectStringWithFilter device "iotop -n 1 -m 100" iotopInfo false filterControlChar
  pure .dumpOk

/-- `MountsInfoTask::TaskEntry`. -/
def MountsInfoTask.taskEntry (_ : DumpContext) (device : Device) : TaskM DumpStatus := do
  let _ ← injectString device "/proc/mounts" procMountsInfo true
  pure .dumpOk

/-- `StorageIoInfoTask::TaskEntry`. -/
def StorageIoInfoTask.taskEntry (context : DumpContext) (device : Device) :
    TaskM DumpStatus := do
  let path := "/proc/" ++ toString context.dumperOpts.storagePid ++ "/io"
  let _ ← injectString device path procPidIoInfo true
  pure .dumpOk

/-! ## The writers -/

/-- `InfoConfig`. -/
structure InfoConfig where
  title : String
  dataId : DataId

/-- The loop that the writers share: the title and the text of every entry. Where data is
    missing some go on with the next entry and the others fail. -/
def writeInfoConfigs (goesOn : Bool) (fd : Int) : List InfoConfig → TaskM DumpStatus
  | [] => pure .dumpOk
  | config :: infoConfigs => do
    if config.title ≠ "" then writeTitle config.title fd else pure ()
    let data ← getStrings config.dataId
    match data with
    | none => if goesOn then writeInfoConfigs goesOn fd infoConfigs else pure .dumpFail
    | some strs => do
      writeStringsIntoFd strs fd
      writeInfoConfigs goesOn fd infoConfigs

/-- `SystemBaseInfoWriter::TaskEntry`. -/
def SystemBaseInfoWriter.taskEntry (context : DumpContext) (_ : Device) :
    TaskM DumpStatus := do
  writeTitle "-------------------------------[base]-------------------------------"
    context.outputFd
  writeInfoConfigs false context.outputFd
    [⟨"", deviceInfo⟩, ⟨"/proc/version", procVersionInfo⟩, ⟨"/proc/cmdline", procCmdlineInfo⟩,
      ⟨"/sys/kernel/debug/wakeup_sources", wakeupSourcesInfo⟩,
      ⟨"cmd is: uptime -p", uptimeInfo⟩]

/-- `KernelModuleInfoWriter::TaskEntry`. -/
def KernelModuleInfoWriter.taskEntry (context : DumpContext) (_ : Device) :
    TaskM DumpStatus := do
  writeTitle "-------------------------------[system]-------------------------------"
    context.outputFd
  writeInfoConfigs false context.outputFd
    [⟨"cmd is: printenv", printenvInfo⟩, ⟨"/proc/modules", procModulesInfo⟩,
      ⟨"cmd is: lsmod", lsmodInfo⟩]

/-- `KernelMemInfoWriter::TaskEntry`. -/
def KernelMemInfoWriter.taskEntry (context : DumpContext) (_ : Device) : TaskM DumpStatus :=
  writeInfoConfigs true context.outputFd
    [⟨"/proc/slabinfo", procSlabInfo⟩, ⟨"/proc/devhost/root/slabinfo", procDevhostSlabInfo⟩,
      ⟨"/proc/zoneinfo", procZoneInfo⟩, ⟨"/proc/vmstat", procVmstatInfo⟩,
      ⟨"/proc/vmallocinfo", procVmallocInfo⟩]

/-- One turn of the loop of `CpuFreqInfoWriter`. -/
def writeCpuFreq (info : CpuFreqInfo) (fd : Int) : TaskM Unit := do
  let path := "cmd is: cat /sys/devices/system/cpu/cpu" ++ toString info.cpuId
  writeTitle (path ++ "/cpufreq/cpuinfo_cur_freq") fd
  writeStringIntoFd info.curFreq fd
  writeTitle (path ++ "/cpufreq/cpuinfo_max_freq") fd
  writeStringIntoFd info.maxFreq fd

/-- `CpuFreqInfoWriter::TaskEntry`. -/
def CpuFreqInfoWriter.taskEntry (context : DumpContext) (_ : Device) : TaskM DumpStatus := do
  if !context.dumperOpts.isDumpSystem then
    writeTitle "-------------------------------[cpufreq]-------------------------------"
      context.outputFd
  else pure ()
  let data ← getCpuFreqInfo cpuFreqInfo
  if data.getD [] = [] then pure .dumpFail
  else do
    (data.getD []).forM fun info => writeCpuFreq info context.outputFd
    pure .dumpOk

/-- `StorageInfoWriter::TaskEntry`. -/
def StorageInfoWriter.taskEntry (context : DumpContext) (_ : Device) : TaskM DumpStatus := do
  writeTitle "-------------------------------[storage]-------------------------------"
    context.outputFd
  writeInfoConfigs true context.outputFd
    [⟨"cmd is: storaged -u -p", storageStateInfo⟩, ⟨"cmd is: df -k", dfInfo⟩,
      ⟨"cmd is: lsof", lsofInfo⟩, ⟨"cmd is: iotop -n 1 -m 100", iotopInfo⟩,
      ⟨"/proc/mounts", procMountsInfo⟩]

/-- `StorageIoInfoWriter::TaskEntry`. -/
def StorageIoInfoWriter.taskEntry (context : DumpContext) (_ : Device) : TaskM DumpStatus := do
  writeTitle "-------------------------------[storage io]-------------------------------"
    context.outputFd
  writeInfoConfigs false context.outputFd [⟨"", procPidIoInfo⟩]

/-! ## All of them -/

/-- The `TaskEntry` of the class that is registered for each id. -/
def taskEntries : List (TaskId × (DumpContext → Device → TaskM DumpStatus)) :=
  [(dumpDeviceInfo, DeviceInfoTask.taskEntry),
    (dumpSystemClusterInfo, SystemClusterInfoTask.taskEntry),
    (dumpWakeupSourcesInfo, WakeupSourcesInfoTask.taskEntry),
    (dumpKernelModuleInfo, KernelModuleInfoTask.taskEntry),
    (dumpSlabInfo, SlabInfoTask.taskEntry),
    (dumpCpuFreqInfo, CpuFreqInfoTask.taskEntry),
    (dumpDiskInfo, DiskInfoTask.taskEntry),
    (dumpLsofInfo, LsofInfoTask.taskEntry),
    (dumpIotopInfo, IoTopInfoTask.taskEntry),
    (dumpMountsInfo, MountsInfoTask.taskEntry),
    (dumpStorageIoInfo, StorageIoInfoTask.taskEntry),
    (writeSystemBaseInfo, SystemBaseInfoWriter.taskEntry),
    (writeKernelModuleInfo, KernelModuleInfoWriter.taskEntry),
    (writeKernelMemInfo, KernelMemInfoWriter.taskEntry),
    (writeCpuFreqInfo, CpuFreqInfoWriter.taskEntry),
    (writeStorageInfo, StorageInfoWriter.taskEntry),
    (writeStorageIoInfo, StorageIoInfoWriter.taskEntry)]

/-- The virtual call of `TaskEntry`. Of any other id there is no task to run. -/
def taskEntry (taskId : TaskId) (context : DumpContext) (device : Device) : TaskM DumpStatus :=
  match taskEntries.lookup taskId with
  | none => pure .dumpFail
  | some entry => entry context device

end HiDumper.Native
