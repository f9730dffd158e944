import HiDumper.ForStd.Forest
import HiDumper.Native.ConfigData
import HiDumper.Native.DumpUtils

/-!
# ConfigUtils: from options to executor configurations

Model of `util/config_utils.cpp` with `common/option_args.{h,cpp}` and
`common/dump_cfg.{h,cpp}`: the expansion of dumpers and groups into `DumpCfg`
trees, the flattening of these trees, and the section handlers that
`GetDumperConfigs` runs one after the other over one shared state.

`GetGroup` by name calls `GetGroup` by index without passing `nest` on, so its
recursion is bounded by the table alone: it takes fuel, and `none` is a run that
the fuel does not cover. Messages to the client and the copies `CopySmaps` makes
for a zip request are not part of the configuration list and not modelled.
-/

namespace HiDumper.Native

/-! ## Arguments and configurations -/

/-- `OptionArgs`; the defaults are those of `Create`. -/
structure OptionArgs where
  hasPid : Bool := false
  pid : Int := -1
  uid : Int := -1
  hasCpuId : Bool := false
  cpuId : Int := -1
  hasList : Bool := false
  list : List String := []
  hasNamesAndArgs : Bool := false
  names : List String := []
  args : List String := []
  deriving Repr, DecidableEq

namespace OptionArgs

/-- `OptionArgs::Clone`: a copy, or new arguments for a null pointer. -/
def clone (args : Option OptionArgs) : OptionArgs := args.getD {}

/-- `OptionArgs::SetPid`. -/
def setPid (args : OptionArgs) (pid uid : Int) : OptionArgs :=
  { args with hasPid := true, pid := pid, uid := uid }

/-- `OptionArgs::SetCpuId`. -/
def setCpuId (args : OptionArgs) (cpuId : Int) : OptionArgs :=
  { args with hasCpuId := true, cpuId := cpuId }

/-- `OptionArgs::SetStrList`. -/
def setStrList (args : OptionArgs) (list : List String) : OptionArgs :=
  { args with hasList := true, list := list }

/-- `OptionArgs::SetNamesAndArgs`. -/
def setNamesAndArgs (args : OptionArgs) (names argList : List String) : OptionArgs :=
  { args with hasNamesAndArgs := true, names := names, args := argList }

end OptionArgs

/-- `DumpCfg` without its links to other nodes. A null `args_` is `none`. -/
structure DumpCfg where
  name : String := ""
  desc : String := ""
  target : String := ""
  sectionName : String := ""
  cls : DumperConstant := .none
  level : DumperConstant := .none
  loop : DumperConstant := .none
  filterCfg : String := ""
  args : Option OptionArgs := none
  type : DumperConstant := .none
  expand : Bool := false
  deriving Repr, DecidableEq

/-- `DumpCfg::IsDumper`. -/
def DumpCfg.isDumper (cfg : DumpCfg) : Bool := cfg.cls.isDumper

/-- An entry of the executor configuration list, with the position of the entry
    that `parent_` points to. -/
structure ListedCfg where
  cfg : DumpCfg
  parent : Option Nat
  deriving Repr, DecidableEq

/-! ## Dumpers and groups -/

/-- `DumperParameter`, as far as it is read here. -/
structure DumperParameter where
  opts : DumperOpts
  uid : Int

/-- State of a `ConfigUtils` object, with the list the handlers fill. -/
structure ConfigUtils where
  pidInfos : List PidInfo := []
  /-- The ids of `cpuInfos_`. -/
  cpuInfos : List Int := []
  currentPidInfos : List PidInfo := []
  currentPidInfo : PidInfo := {}
  isDumpSystemSystem : Bool := false
  dumpCfgs : List ListedCfg := []

namespace ConfigUtils

/-- `ROOT_UID`. -/
def rootUid : Int := 0

/-- `BMS_UID`. -/
def bmsUid : Int := 1000

/-- `APP_FIRST_UID`. -/
def appFirstUid : Int := 10000

/-- `ConfigUtils::GetDumpLevelByPid`. -/
def getDumpLevelByPid (uid : Int) (pidInfo : PidInfo) : DumperConstant :=
  if uid = rootUid then .levelHigh
  else if uid < appFirstUid then .levelMiddle
  else if uid = pidInfo.uid then .levelMiddle
  else .levelNone

/-- Is an item left out for a caller of level `level`? -/
def skipsItem (item : ItemCfg) (level : DumperConstant) : Bool :=
  item.cls.isFilter && level.isLevel && item.level ≠ .levelAll && item.level ≠ level

/-- The `DumpCfg` that `GetDumper` makes of an item. -/
def dumpCfgOfItem (item : ItemCfg) (args : Option OptionArgs) : DumpCfg :=
  { name := item.name
    desc := item.desc
    target := item.target
    sectionName := item.sectionName
    cls := item.cls
    level := item.level
    loop := item.loop
    filterCfg := item.filterCfg
    args := if item.cls.isDumper then args else none }

/-- `ConfigUtils::GetDumper`: the status and the configurations it appends. -/
def getDumper (table : ConfigData) (name : String) (args : Option OptionArgs)
    (level : DumperConstant) : DumpStatus × List DumpCfg :=
  match table.findDumper name with
  | none => (.dumpFail, [])
  | some dumper =>
    (.dumpOk, (dumper.list.filter fun item => !skipsItem item level).map fun item =>
      dumpCfgOfItem item args)

/-- The node that stands for a group. -/
def groupNode (group : GroupCfg) : DumpCfg :=
  { cls := .group, name := group.name, desc := group.desc, type := group.type,
    expand := group.expand }

/-- What `GetGroup` by name does with a name, arguments, a level and a nesting:
    its status and the tree it builds in `tmpUse`. -/
abbrev Expander :=
  String → Option OptionArgs → DumperConstant → Nat → Option (DumpStatus × Forest DumpCfg)

/-- The loop of `GetGroupSimple` over the names of a group. -/
def getGroupItems (table : ConfigData) (getGroup : Expander) (args : Option OptionArgs)
    (level : DumperConstant) (nest : Nat) : List String → Option (DumpStatus × Forest DumpCfg)
  | [] => some (.dumpOk, .nil)
  | item :: rest =>
    if item = "" then getGroupItems table getGroup args level nest rest
    else if startWith item ConfigData.configDumper_ then do
      let (status, others) ← getGroupItems table getGroup args level nest rest
      some (status, .leaves (getDumper table item args level).2 ++ others)
    else if startWith item ConfigData.configMinigroup_ then do
      let (_, tree) ← getGroup item args level (nest + 1)
      let (status, others) ← getGroupItems table getGroup args level nest rest
      some (status, tree ++ others)
    else some (.dumpInvalidArg, .nil)

/-- `ConfigUtils::GetGroupSimple`. -/
def getGroupSimple (table : ConfigData) (getGroup : Expander) (group : GroupCfg)
    (args : Option OptionArgs) (level : DumperConstant) (nest : Nat) :
    Option (DumpStatus × Forest DumpCfg) :=
  if nest > ConfigData.nestMax then some (.dumpInvalidArg, .nil)
  else if group.list = [] then some (.dumpOk, .nil)
  else do
    let (status, items) ← getGroupItems table getGroup args level nest group.list
    some (status, if group.expand then .cons (groupNode group) items .nil else items)

/-- The arguments and levels with which `GetGroup` by index runs `GetGroupSimple`;
    `none` for a group of unknown type. -/
def expansions (st : ConfigUtils) (uid : Int) (group : GroupCfg) (args : Option OptionArgs)
    (level : DumperConstant) : Option (List (Option OptionArgs × DumperConstant)) :=
  let clone := OptionArgs.clone args
  if group.expand ∧ group.type = .grouptypePid then
    some (st.currentPidInfos.filterMap fun pidInfo =>
      let newLevel := getDumpLevelByPid uid pidInfo
      if newLevel = .levelNone then none
      else some (some (clone.setPid pidInfo.pid pidInfo.uid), newLevel))
  else if group.expand ∧ group.type = .grouptypeCpuid then
    some (st.cpuInfos.map fun cpuId => (some (clone.setCpuId cpuId), level))
  else if group.type = .grouptypePid then
    -- Here the level only decides whether to expand; the caller's one is passed on.
    if getDumpLevelByPid uid st.currentPidInfo = .levelNone then some []
    else some [(some (clone.setPid st.currentPidInfo.pid st.currentPidInfo.uid), level)]
  else if group.type = .grouptypeCpuid then some [(some (clone.setCpuId (-1)), level)]
  else if group.type = .none then some [(args, level)]
  else none

/-- `ConfigUtils::GetGroup` by index, on the group at that index. -/
def getGroupAt (table : ConfigData) (st : ConfigUtils) (uid : Int) (getGroup : Expander)
    (group : GroupCfg) (args : Option OptionArgs) (level : DumperConstant) (nest : Nat) :
    Option (DumpStatus × Forest DumpCfg) :=
  if nest > ConfigData.nestMax then some (.dumpInvalidArg, .nil)
  else
    match expansions st uid group args level with
    | none => some (.dumpInvalidArg, .cons (groupNode group) .nil .nil)
    | some runs => do
      let childs ← runs.mapM fun (newArgs, newLevel) =>
        (getGroupSimple table getGroup group newArgs newLevel nest).map (·.2)
      some (.dumpOk, .cons (groupNode group) (.flatten childs) .nil)

/-- `ConfigUtils::GetGroup` by name up to the tree in `tmpUse`. For a minigroup
    the tree goes to the caller as it is; `getConfig` flattens it. -/
def getGroup (table : ConfigData) (st : ConfigUtils) (uid : Int) : Nat → Expander
  | 0 => fun _ _ _ _ => none
  | fuel + 1 => fun name args level nest =>
    if nest > ConfigData.nestMax then some (.dumpInvalidArg, .nil)
    else
      match table.findGroup name with
      | none => some (.dumpFail, .nil)
      | some group => getGroupAt table st uid (getGroup table st uid fuel) group args level 0

/-- `ConfigUtils::GetSectionName`: what follows the last `CONFIG_NAME_SPLIT`. -/
def getSectionName (name : String) : String :=
  if '_' ∈ name.toList then String.ofList (name.toList.reverse.takeWhile (· ≠ '_')).reverse
  else ""

/-- `ConfigUtils::GetGroupNames`. -/
def getGroupNames (table : ConfigData) (name : String) : List String :=
  (table.groups.filter fun group => group.name ≠ "" && (name = "" || startWith group.name name)).map
    (·.name)

/-- `ConfigUtils::GetSectionNames`. -/
def getSectionNames (table : ConfigData) (name : String) : List String :=
  removeDuplicateString ((getGroupNames table name).map getSectionName)

/-- `ConfigUtils::SetSection`. -/
def setSection (tree : Forest DumpCfg) (sectionName : String) : Forest DumpCfg :=
  tree.mapUpTo (fun cfg => if cfg.isDumper then { cfg with sectionName := sectionName } else cfg)
    ConfigData.nestMax

/-- `ConfigUtils::ConvertTreeToList`. The first node listed gets position `base`. -/
def convertTreeToList : Forest DumpCfg → (nest base : Nat) → (parent : Option Nat) → List ListedCfg
  | .nil, _, _, _ => []
  | .cons cfg childs rest, nest, base, parent =>
    if nest > ConfigData.nestMax then []
    else
      let below := convertTreeToList childs (nest + 1) (base + 1) (some base)
      ⟨cfg, parent⟩ :: (below ++ convertTreeToList rest nest (base + 1 + below.length) parent)

/-- Enough fuel for every table without cycles. -/
def groupFuel (table : ConfigData) : Nat := table.groups.length + 1

/-- `ConfigUtils::GetGroup` by name with `nest` 0: the entries it appends to a result of
    `base` entries. -/
def getGroupList (table : ConfigData) (st : ConfigUtils) (uid : Int) (name : String)
    (args : Option OptionArgs) (level : DumperConstant) (base : Nat) : Option (List ListedCfg) := do
  let (_, tree) ← getGroup table st uid (groupFuel table) name args level 0
  some (convertTreeToList (setSection tree (getSectionName name)) 0 base none)

/-- `ConfigUtils::GetConfig`. -/
def getConfig (table : ConfigData) (uid : Int) (st : ConfigUtils) (name : String)
    (args : Option OptionArgs) : Option ConfigUtils :=
  if startWith name ConfigData.configDumper_ then
    let cfgs := (getDumper table name args .none).2
    some { st with dumpCfgs := st.dumpCfgs ++ cfgs.map fun cfg => ⟨cfg, none⟩ }
  else if startWith name ConfigData.configGroup_ then do
    let (_, tree) ← getGroup table st uid (groupFuel table) name args .none 0
    let list := convertTreeToList (setSection tree (getSectionName name)) 0 st.dumpCfgs.length none
    some { st with dumpCfgs := st.dumpCfgs ++ list }
  else some st

/-- Several calls of `GetConfig` with the same arguments. -/
def getConfigs (table : ConfigData) (uid : Int) (names : List String) (args : Option OptionArgs)
    (st : ConfigUtils) : Option ConfigUtils :=
  names.foldlM (fun st name => getConfig table uid st name args) st

/-! ## The processes a section is about -/

/-- `currentPidInfo_.Reset(); currentPidInfos_.clear();`. -/
def resetCurrent (st : ConfigUtils) : ConfigUtils :=
  { st with currentPidInfo := {}, currentPidInfos := [] }

/-- `MergePidInfos(currentPidInfos_, pid)`. -/
def mergePidInfos (sys : System) (pid : Int) (st : ConfigUtils) : ConfigUtils :=
  if pid < 0 then
    { st with
      pidInfos := sys.getPidInfos false
      currentPidInfo := { st.currentPidInfo with pid := pid, uid := -1 }
      currentPidInfos := sys.getPidInfos false }
  else
    let (found, info) := sys.getProcessInfo pid
    { st with currentPidInfo := info, currentPidInfos := if found then [info] else [] }

/-- `MergeDebugPidInfos(currentPidInfos_, pid)`. Here `pidInfos_` is not cleared
    first, so processes of an earlier section show up again. -/
def mergeDebugPidInfos (sys : System) (pid : Int) (st : ConfigUtils) : Bool × ConfigUtils :=
  if pid < 0 then
    let pidInfos := st.pidInfos ++ sys.getPidInfos false
    let debugInfos := pidInfos.filter fun info => sys.checkAppDebugVersion info.pid
    (!debugInfos.isEmpty,
      { st with
        pidInfos := pidInfos
        currentPidInfo := { st.currentPidInfo with pid := pid, uid := -1 }
        currentPidInfos := debugInfos })
  else if sys.checkAppDebugVersion pid then
    let (found, info) := sys.getProcessInfo pid
    (found, { st with currentPidInfo := info, currentPidInfos := if found then [info] else [] })
  else (false, { st with currentPidInfos := [] })

/-! ## Section handlers -/

/-- The frame most handlers have: if the section is selected, reset the current
    processes, choose new ones, get configurations for them and reset again. -/
def runSection (table : ConfigData) (uid : Int) (selected : Bool)
    (choose : ConfigUtils → ConfigUtils) (names : List String) (args : Option OptionArgs)
    (st : ConfigUtils) : Option ConfigUtils :=
  if selected then (getConfigs table uid names args (choose st.resetCurrent)).map resetCurrent
  else some st

section Handlers

variable (table : ConfigData) (sys : System) (param : DumperParameter)

/-- The loop of `HandleDumpSystem` over the labels of `-c`. -/
def handleDumpSystemArgs (args : Option OptionArgs) :
    List String → ConfigUtils → Option ConfigUtils
  | [], st => some st
  | arg :: rest, st => do
    let name := ConfigData.configGroupSystem_ ++ arg
    let st ← getConfig table param.uid st name args
    let st := if name = "group_system_system" then { st with isDumpSystemSystem := true } else st
    handleDumpSystemArgs args rest st

/-- `ConfigUtils::HandleDumpSystem`. -/
def handleDumpSystem (st : ConfigUtils) : Option ConfigUtils :=
  if param.opts.isDumpList || !param.opts.isDumpSystem then some st
  else if param.opts.systemArgs = [] then do
    let st ← getConfigs table param.uid ["group_system_base", "group_system_system"] none
      st.resetCurrent
    some { st with isDumpSystemSystem := true }
  else
    let args := some ((OptionArgs.clone none).setStrList param.opts.systemArgs)
    (handleDumpSystemArgs table param args param.opts.systemArgs st.resetCurrent).map resetCurrent

/-- `ConfigUtils::HandleDumpCpuFreq`. -/
def handleDumpCpuFreq (st : ConfigUtils) : Option ConfigUtils :=
  runSection table param.uid (param.opts.isDumpCpuFreq && !st.isDumpSystemSystem) id
    ["group_cpufreq"] none st

/-- `ConfigUtils::HandleDumpCpuUsage`. -/
def handleDumpCpuUsage (st : ConfigUtils) : Option ConfigUtils :=
  runSection table param.uid
    (param.opts.isDumpCpuUsage && !(st.isDumpSystemSystem && param.opts.cpuUsagePid < 0))
    (mergePidInfos sys param.opts.cpuUsagePid) ["group_cpuusage"] none st

/-- `ConfigUtils::HandleDumpMemCommon`, behind the tests of its two callers. -/
def handleDumpMemCommon (selected : Bool) (st : ConfigUtils) : Option ConfigUtils :=
  runSection table param.uid selected (mergePidInfos sys param.opts.memPid) ["group_memory"] none st

/-- `ConfigUtils::HandleDumpMem`. -/
def handleDumpMem (st : ConfigUtils) : Option ConfigUtils :=
  handleDumpMemCommon table sys param
    (param.opts.isDumpMem && !(st.isDumpSystemSystem && param.opts.memPid < 0)) st

/-- `ConfigUtils::HandleDumpJsHeapMem`. -/
def handleDumpJsHeapMem (st : ConfigUtils) : Option ConfigUtils :=
  if !param.opts.isDumpJsHeapMem || param.opts.dumpJsHeapMemPid ≤ 0 || param.opts.threadId < 0 then
    some st
  else getConfig table param.uid st "dumper_jsheap_memory" none

/-- `ConfigUtils::HandleDumpCjHeapMem`. -/
def handleDumpCjHeapMem (st : ConfigUtils) : Option ConfigUtils :=
  if !param.opts.isDumpCjHeapMem || param.opts.dumpCjHeapMemPid ≤ 0 then some st
  else getConfig table param.uid st "dumper_cjheap_memory" none

/-- `ConfigUtils::HandleDumpHeapMem`. -/
def handleDumpHeapMem (st : ConfigUtils) : Option ConfigUtils :=
  if !param.opts.isDumpHeapMem ||
      (param.opts.dumpHeapMemPid ≤ 0 && param.opts.dumpHeapArgPid ≤ 0) then some st
  else getConfig table param.uid st "dumper_heap_memory" none

/-- `ConfigUtils::HandleDumpMemShowMaps`. -/
def handleDumpMemShowMaps (st : ConfigUtils) : Option ConfigUtils :=
  handleDumpMemCommon table sys param
    (param.opts.isShowSmaps && !(st.isDumpSystemSystem && param.opts.memPid < 0)) st

/-- `ConfigUtils::HandleDumpLog`. -/
def handleDumpLog (st : ConfigUtils) : Option ConfigUtils :=
  runSection table param.uid param.opts.isDumpLog id
    (param.opts.logArgs.map (ConfigData.configGroupLog_ ++ ·))
    (some ((OptionArgs.clone none).setStrList param.opts.logArgs)) st

/-- The group of a storage request. -/
def storageGroup : String :=
  if param.opts.storagePid < 0 then "group_storage" else "group_storage io"

/-- `ConfigUtils::HandleDumpStorage`. The test on the system cluster reads
    `memPid_`, not `storagePid_`. -/
def handleDumpStorage (st : ConfigUtils) : Option ConfigUtils :=
  runSection table param.uid
    (param.opts.isDumpStorage && !(st.isDumpSystemSystem && param.opts.memPid < 0))
    (mergePidInfos sys param.opts.storagePid) [storageGroup param] none st

/-- The groups of a net request. -/
def netGroups : List String :=
  "group_net traffic" :: if param.opts.netPid < 0 then ["group_net"] else []

/-- `ConfigUtils::HandleDumpNet`. -/
def handleDumpNet (st : ConfigUtils) : Option ConfigUtils :=
  runSection table param.uid
    (param.opts.isDumpNet && !(st.isDumpSystemSystem && param.opts.netPid < 0))
    (mergePidInfos sys param.opts.netPid) (netGroups param) none st

/-- `ConfigUtils::HandleDumpList`. -/
def handleDumpList (st : ConfigUtils) : Option ConfigUtils :=
  runSection table param.uid param.opts.isDumpList id
    ((if param.opts.isDumpSystemAbility then ["dumper_list_system_ability"] else []) ++
      (if param.opts.isDumpService then ["dumper_list_service"] else []) ++
      (if param.opts.isDumpSystem then ["dumper_list_system"] else [])) none st

/-- `ConfigUtils::HandleDumpAbility`. -/
def handleDumpAbility (st : ConfigUtils) : Option ConfigUtils :=
  runSection table param.uid (!param.opts.isDumpList && param.opts.isDumpSystemAbility) id
    ["group_ability"] (some ((OptionArgs.clone none).setNamesAndArgs param.opts.abilitieNames
      param.opts.abilitieArgs)) st

/-- `ConfigUtils::HandleDumpService`. -/
def handleDumpService (st : ConfigUtils) : Option ConfigUtils :=
  runSection table param.uid (!param.opts.isDumpList && param.opts.isDumpService) id
    ["group_service"] none st

/-- The group of a processes request. -/
def processesGroup : String :=
  if sys.isUserMode then
    if param.opts.processPid < 0 then "group_processes" else "group_pid_processes"
  else if param.opts.processPid < 0 then "group_eng_processes" else "group_pid_eng_processes"

/-- The processes of a processes request: debug applications only in user mode. -/
def mergeProcesses (st : ConfigUtils) : Bool × ConfigUtils :=
  if sys.isUserMode then mergeDebugPidInfos sys param.opts.processPid st
  else (true, mergePidInfos sys param.opts.processPid st)

/-- `ConfigUtils::HandleDumpProcesses`. Two of its exits leave the current
    processes set. -/
def handleDumpProcesses (st : ConfigUtils) : Option ConfigUtils :=
  if !param.opts.isDumpProcesses then some st
  else
    match mergeProcesses sys param st.resetCurrent with
    | (false, st) => some st
    | (true, st) =>
      if param.opts.isDumpFd || param.opts.isDumpThread then
        getConfig table param.uid st "dumper_fd_thread" none
      else (getConfig table param.uid st (processesGroup sys param) none).map resetCurrent

/-- `ConfigUtils::HandleDumpFaultLog`. -/
def handleDumpFaultLog (st : ConfigUtils) : Option ConfigUtils :=
  runSection table param.uid param.opts.isFaultLog id
    [if param.opts.isEventList then "dumper_event_list"
      else if param.opts.isEventDetail then "dumper_event_detail"
      else "group_faultlog"] none st

/-- `ConfigUtils::HandleDumpAppendix`. -/
def handleDumpAppendix (st : ConfigUtils) : Option ConfigUtils :=
  runSection table param.uid param.opts.isAppendix (mergePidInfos sys (-1))
    (["group_log_kernel", "group_log_init", "group_log_hilog"] ++
      if param.uid = rootUid ∨ param.uid = bmsUid then ["group_stack"] else []) none st

/-- `ConfigUtils::HandleDumpIpcStat`. -/
def handleDumpIpcStat (st : ConfigUtils) : Option ConfigUtils :=
  runSection table param.uid param.opts.isDumpIpc (mergePidInfos sys param.opts.ipcStatPid)
    ["group_ipc"] none st

/-- The handlers `GetDumperConfigs` calls after `HandleDumpSystem`, in its order. -/
def sectionHandlers : List (ConfigUtils → Option ConfigUtils) :=
  [handleDumpCpuFreq table param,
    handleDumpCpuUsage table sys param,
    handleDumpMem table sys param,
    handleDumpJsHeapMem table param,
    handleDumpCjHeapMem table param,
    handleDumpHeapMem table param,
    handleDumpMemShowMaps table sys param,
    handleDumpLog table param,
    handleDumpStorage table sys param,
    handleDumpNet table sys param,
    handleDumpList table param,
    handleDumpAbility table param,
    handleDumpService table param,
    handleDumpProcesses table sys param,
    handleDumpFaultLog table param,
    handleDumpAppendix table sys param,
    handleDumpIpcStat table sys param]

/-- Run handlers one after the other. -/
def runHandlers (handlers : List (ConfigUtils → Option ConfigUtils)) (st : ConfigUtils) :
    Option ConfigUtils :=
  handlers.foldlM (fun st handle => handle st) st

/-- `ConfigUtils::GetDumperConfigs`: the list given to `SetExecutorConfigList`. -/
def getDumperConfigs : Option (List ListedCfg) := do
  let st ← handleDumpSystem table param { cpuInfos := sys.getCpuInfos }
  let st ← runHandlers (sectionHandlers table sys param) st
  some st.dumpCfgs

end Handlers

end ConfigUtils

end HiDumper.Native
