import HiDumper.Native.CmdParse
import HiDumper.Native.TaskTopo

/-!
# StartDump: from the options to the tasks

Model of `manager/dump_manager.cpp`, of the strategies in `dump_strategy` and of the tasks
that the files of `task` register with `REGISTER_TASK` and `REGISTER_DEPENDENT_DATA`. What
`CmdParse` and `cJSON_Parse` come to is an input; `none` is their failure. A strategy returns
`DUMP_OK` always. `TaskControl`, `TaskRegister` and `TaskEnableConfig` are singletons, so a
dump starts with what the dumps before it have left.
-/

namespace HiDumper.Native

/-! ## The registered tasks -/

namespace TaskIds

/-- The members of `TaskId` that are registered or depended on, and the roots. -/
def dumpDeviceInfo : TaskId := 0
def dumpSystemClusterInfo : TaskId := 1
def dumpWakeupSourcesInfo : TaskId := 2
def dumpKernelModuleInfo : TaskId := 3
def dumpSlabInfo : TaskId := 4
def dumpZoneInfo : TaskId := 5
def dumpVmstatInfo : TaskId := 6
def dumpVmallocInfo : TaskId := 7
def dumpCpuFreqInfo : TaskId := 8
def dumpDiskInfo : TaskId := 9
def dumpLsofInfo : TaskId := 10
def dumpIotopInfo : TaskId := 11
def dumpMountsInfo : TaskId := 12
def dumpStorageIoInfo : TaskId := 13
def writeSystemClusterInfo : TaskId := 10001
def writeSystemBaseInfo : TaskId := 10002
def writeKernelModuleInfo : TaskId := 10003
def writeKernelMemInfo : TaskId := 10004
def writeCpuFreqInfo : TaskId := 10005
def writeAllProcessMemInfo : TaskId := 10006
def writeStorageInfo : TaskId := 10007
def writeStorageIoInfo : TaskId := 10008
def writeSystemAbilityInfo : TaskId := 10009
def writeSystemAbilityList : TaskId := 10010

end TaskIds

namespace DataIds

/-- The members of `DataId` that a task depends on. -/
def deviceInfo : DataId := 0
def procVersionInfo : DataId := 2
def procCmdlineInfo : DataId := 3
def wakeupSourcesInfo : DataId := 4
def uptimeInfo : DataId := 5
def cpuFreqInfo : DataId := 6
def procSlabInfo : DataId := 7
def procZoneInfo : DataId := 8
def procVmstatInfo : DataId := 9
def procVmallocInfo : DataId := 10
def procModulesInfo : DataId := 11
def printenvInfo : DataId := 12
def lsmodInfo : DataId := 13
def storageStateInfo : DataId := 14
def dfInfo : DataId := 15
def lsofInfo : DataId := 16
def iotopInfo : DataId := 17
def procMountsInfo : DataId := 18
def procPidIoInfo : DataId := 19
def procDevhostSlabInfo : DataId := 21

end DataIds

open TaskIds DataIds

/-- `REGISTER_TASK` and, where there is one, `REGISTER_DEPENDENT_DATA`. -/
def registerTask (taskId : TaskId) (taskName : String) (mandatory : Bool)
    (taskDependency : List TaskId) (dataDependency : List DataId) :
    Sigma fun _ : TaskId => RegTaskInfo :=
  ⟨taskId, { creator := true, dataDependency, taskDependency, taskName, mandatory }⟩

/-- `TaskRegister::GetContainer` before anything has run. -/
def registeredTasks : TaskCollection where
  entries :=
    [registerTask dumpDeviceInfo "DeviceInfoTask" false [] [],
      registerTask dumpSystemClusterInfo "SystemClusterInfoTask" true [] [],
      registerTask dumpWakeupSourcesInfo "WakeupSourcesInfoTask" false [] [],
      registerTask dumpKernelModuleInfo "KernelModuleInfoTask" false [] [],
      registerTask dumpSlabInfo "SlabInfoTask" false [] [],
      registerTask dumpCpuFreqInfo "CpuFreqInfoTask" false [] [],
      registerTask dumpDiskInfo "DiskInfoTask" false [] [],
      registerTask dumpLsofInfo "LsofInfoTask" false [] [],
      registerTask dumpIotopInfo "IoTopInfoTask" false [] [],
      registerTask dumpMountsInfo "MountsInfoTask" false [] [],
      registerTask dumpStorageIoInfo "StorageIoInfoTask" false [] [],
      registerTask writeSystemBaseInfo "SystemBaseInfoWriter" true
        [dumpDeviceInfo, dumpWakeupSourcesInfo]
        [deviceInfo, procVersionInfo, procCmdlineInfo, wakeupSourcesInfo, uptimeInfo],
      registerTask writeKernelModuleInfo "KernelModuleInfoWriter" true [dumpKernelModuleInfo]
        [printenvInfo, procModulesInfo, lsmodInfo],
      registerTask writeKernelMemInfo "KernelMemInfoWriter" false
        [dumpSlabInfo, dumpZoneInfo, dumpVmstatInfo, dumpVmallocInfo]
        [procSlabInfo, procZoneInfo, procVmstatInfo, procVmallocInfo, procDevhostSlabInfo],
      registerTask writeCpuFreqInfo "CpuFreqInfoWriter" false [dumpCpuFreqInfo] [cpuFreqInfo],
      registerTask writeStorageInfo "StorageInfoWriter" true
        [dumpDiskInfo, dumpLsofInfo, dumpIotopInfo, dumpMountsInfo]
        [storageStateInfo, dfInfo, lsofInfo, iotopInfo, procMountsInfo],
      registerTask writeStorageIoInfo "StorageIoInfoWriter" true [dumpStorageIoInfo]
        [procPidIoInfo]]
  nodupKeys := by decide

/-! ## The strategies -/

/-- `StrategyConfig`: the condition, and the `CollectRootTasks` of what the creator makes. -/
structure StrategyConfig where
  condition : DumperOptions → Bool
  collectRootTasks : DumperOptions → List TaskId

/-- `addTaskIfNeeded` of `SystemInfoDumpStrategy`. -/
def addTaskIfNeeded (systemArgs : List String) (arg : String) (taskIds : List TaskId) :
    List TaskId :=
  if systemArgs = [] ∨ arg ∈ systemArgs then taskIds else []

/-- `SystemInfoDumpStrategy::CollectRootTasks`. -/
def systemInfoRootTasks (opts : DumperOptions) : List TaskId :=
  if opts.isDumpList then [writeSystemClusterInfo]
  else
    addTaskIfNeeded opts.systemArgs "base" [writeSystemBaseInfo] ++
      addTaskIfNeeded opts.systemArgs "system"
        [writeKernelModuleInfo, writeKernelMemInfo, writeCpuFreqInfo, writeAllProcessMemInfo]

/-- `CpuDumpStrategy::CollectRootTasks`. -/
def cpuRootTasks (opts : DumperOptions) : List TaskId :=
  if opts.isDumpCpuFreq then [writeCpuFreqInfo] else []

/-- `StorageDumpStrategy::CollectRootTasks`. -/
def storageRootTasks (opts : DumperOptions) : List TaskId :=
  if opts.isDumpStorage then
    if opts.storagePid > 0 then [writeStorageIoInfo] else [writeStorageInfo]
  else []

/-- `SystemAbilityDumpStrategy::CollectRootTasks`. -/
def systemAbilityRootTasks (opts : DumperOptions) : List TaskId :=
  if opts.isDumpList then [writeSystemAbilityList] else [writeSystemAbilityInfo]

/-- `strategyConfigs_`. The strategies for memory, net, processes, log, appendix and the IPC
    statistics collect nothing. -/
def strategyConfigs : List StrategyConfig :=
  [⟨(·.isDumpSystem), systemInfoRootTasks⟩,
    ⟨fun opts => opts.isDumpCpuFreq || opts.isDumpCpuUsage, cpuRootTasks⟩,
    ⟨(·.isDumpMem), fun _ => []⟩,
    ⟨(·.isDumpStorage), storageRootTasks⟩,
    ⟨(·.isDumpNet), fun _ => []⟩,
    ⟨(·.isDumpSystemAbility), systemAbilityRootTasks⟩,
    ⟨(·.isDumpProcesses), fun _ => []⟩,
    ⟨(·.isDumpLog), fun _ => []⟩,
    ⟨(·.isAppendix), fun _ => []⟩,
    ⟨(·.isDumpIpcStat), fun _ => []⟩]

/-- `DumpStrategyFactory::CreateStrategies`. -/
def createStrategies (opts : DumperOptions) : List StrategyConfig :=
  strategyConfigs.filter fun config => config.condition opts

/-- `DumpStrategyFactory::CollectRootTasks` with `ExecuteStrategies`; `none` is `DUMP_FAIL`. -/
def collectRootTasks (opts : DumperOptions) : Option (List TaskId) :=
  match createStrategies opts with
  | [] => none
  | strategies => some (strategies.flatMap fun strategy => strategy.collectRootTasks opts)

/-! ## TaskEnableConfig -/

/-- What `cJSON_Parse` makes of a text, as far as it is read. An item of an object has its
    name with it. -/
inductive CJson where
  | object (child : List (String × CJson))
  | number (valueint : Int32)
  | bool (value : Bool)
  | other

/-- `cJSON_GetObjectItem`: the first item of that name, in whatever case. -/
def cJsonGetObjectItem (child : List (String × CJson)) (name : String) : Option CJson :=
  (child.find? fun item =>
    decide (item.1.toList.map Char.toLower = name.toList.map Char.toLower)).map (·.2)

/-- One turn of the loop of `ParseJsonContent` over the items of `task_configs`. -/
def parseTaskItem (taskEnableMap : UnorderedMap TaskId Bool) :
    String × CJson → UnorderedMap TaskId Bool
  | (_, .object fields) =>
    match cJsonGetObjectItem fields "task_id" with
    | some (.number valueint) =>
      let enabled :=
        match cJsonGetObjectItem fields "enabled" with
        | some (.bool value) => value
        | _ => true
      taskEnableMap.insert valueint.toUInt32 enabled
    | _ => taskEnableMap
  | _ => taskEnableMap

/-- `TaskEnableConfig::ParseJsonContent` on what `cJSON_Parse` yields; `none` is `DUMP_FAIL`. -/
def parseJsonContent (taskEnableMap : UnorderedMap TaskId Bool) :
    Option CJson → Option (UnorderedMap TaskId Bool)
  | some (.object root) =>
    match cJsonGetObjectItem root "task_configs" with
    | some (.object taskConfigs) => some (taskConfigs.foldl parseTaskItem taskEnableMap)
    | _ => none
  | _ => none

/-- `TaskEnableConfig::LoadFromConfig` with what the file holds at that time; a file that
    cannot be opened holds nothing. -/
def TaskEnableConfig.loadFromConfig (config : TaskEnableConfig) (file : Option CJson) :
    DumpStatus × TaskEnableConfig :=
  if config.configLoaded then (.dumpOk, config)
  else
    match parseJsonContent config.taskEnableMap file with
    | none => (.dumpFail, config)
    | some taskEnableMap => (.dumpOk, ⟨taskEnableMap, true⟩)

/-! ## StartDump -/

/-- The singletons a dump reads and changes: `TaskEnableConfig`, the container of
    `TaskRegister` and the cache of `TaskControl`. -/
structure DumpSingletons where
  config : TaskEnableConfig
  container : TaskCollection
  cache : TopoCache

/-- Before the first dump. -/
def DumpSingletons.init : DumpSingletons := ⟨⟨∅, false⟩, registeredTasks, .empty⟩

/-- What one call of `StartDump` meets: the options `CmdParse` makes of its arguments, what
    the configuration file holds and what the tasks do. -/
structure StartDumpCall (V : Type) where
  parsed : Option DumperOptions
  file : Option CJson
  env : TaskEnv V

/-- `DumpManager::StartDump`. The result has the status of `StartDump`. -/
def DumpSingletons.startDump {V : Type} (s : DumpSingletons) (call : StartDumpCall V) :
    Option (RunResult V × DumpSingletons) :=
  let failed : RunResult V := ⟨.dumpFail, [], ⟨s.container, ∅⟩⟩
  match call.parsed with
  | none => some (failed, s)
  | some opts =>
    let (status, config) := s.config.loadFromConfig call.file
    let s := { s with config }
    if status ≠ .dumpOk then some (failed, s)
    else
      match collectRootTasks opts with
      | none => some (failed, s)
      | some rootTasks =>
        (executeTask call.env config ⟨s.container, ∅⟩ s.cache rootTasks).map
          fun (result, cache) =>
            let s := { s with container := result.state.container, cache }
            if result.status ≠ .dumpOk then ({ result with status := .dumpFail }, s)
            else (result, s)

/-- Calls one after the other. -/
def DumpSingletons.startDumps {V : Type} :
    DumpSingletons → List (StartDumpCall V) → Option (List (RunResult V) × DumpSingletons)
  | s, [] => some ([], s)
  | s, call :: calls =>
    (s.startDump call).bind fun (result, s) =>
      (s.startDumps calls).map fun (results, s) => (result :: results, s)

end HiDumper.Native
