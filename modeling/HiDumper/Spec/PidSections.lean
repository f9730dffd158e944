import HiDumper.Spec.Contributions
import Mathlib.Algebra.GroupWithZero.Nat

/-!
# Sections with a process id

The sections cpuusage, mem, storage, net and ipc each have a process id of their
own. What a handler contributes should depend on its own flag and pid and on
whether the system cluster is dumped, so that changing the pid of one section
leaves the entries of the others alone. Two handlers do not keep to that:
`HandleDumpStorage` tests `memPid_` where its own pid is meant, and
`HandleDumpProcesses` in user mode lists the processes an earlier section left
in `pidInfos_` once more.

Key results:
* `contributed_storage_iff`: when the storage section is the same for two requests
* `contributed_processes_iff`: when the processes section is
* `contributed_eq_iff`: exactly when each handler ignores the pids of the others
-/

namespace HiDumper.Spec

open HiDumper.Native HiDumper.Native.ConfigUtils Runs

/-! ## Handlers by name -/

/-- The handlers `GetDumperConfigs` calls. -/
inductive SectionHandler where
  | system | cpuFreq | cpuUsage | mem | jsHeapMem | cjHeapMem | heapMem | memShowMaps | log
  | storage | net | list | ability | service | processes | faultLog | appendix | ipcStat
  deriving DecidableEq, Repr

namespace SectionHandler

/-- The handlers after `HandleDumpSystem`, in the order of the calls. -/
def order : List SectionHandler :=
  [cpuFreq, cpuUsage, mem, jsHeapMem, cjHeapMem, heapMem, memShowMaps, log, storage, net, list,
    ability, service, processes, faultLog, appendix, ipcStat]

variable (table : ConfigData) (sys : System) (param : DumperParameter)

/-- The function of a handler. -/
def handle : SectionHandler → ConfigUtils → Option ConfigUtils
  | system => handleDumpSystem table param
  | cpuFreq => handleDumpCpuFreq table param
  | cpuUsage => handleDumpCpuUsage table sys param
  | mem => handleDumpMem table sys param
  | jsHeapMem => handleDumpJsHeapMem table param
  | cjHeapMem => handleDumpCjHeapMem table param
  | heapMem => handleDumpHeapMem table param
  | memShowMaps => handleDumpMemShowMaps table sys param
  | log => handleDumpLog table param
  | storage => handleDumpStorage table sys param
  | net => handleDumpNet table sys param
  | list => handleDumpList table param
  | ability => handleDumpAbility table param
  | service => handleDumpService table param
  | processes => handleDumpProcesses table sys param
  | faultLog => handleDumpFaultLog table param
  | appendix => handleDumpAppendix table sys param
  | ipcStat => handleDumpIpcStat table sys param

/-- The sections in the order in which they are handled. -/
private theorem sectionHandlers_eq :
    sectionHandlers table sys param = order.map (handle table sys param) := rfl

/-- The state in which `GetDumperConfigs` calls a handler. -/
def stateBefore (handler : SectionHandler) : Option ConfigUtils :=
  runHandlers (((system :: order).takeWhile (· ≠ handler)).map (handle table sys param))
    { cpuInfos := sys.getCpuInfos }

/-- The entries a handler contributes to the list of `GetDumperConfigs`. -/
def contributed (handler : SectionHandler) : Option (List ListedCfg) :=
  (stateBefore table sys param handler).bind (contribution (handler.handle table sys param))

/-- `GetDumperConfigs` runs the handlers in this order and returns what they contribute. -/
theorem getDumperConfigs_eq :
    getDumperConfigs table sys param =
      (runHandlers ((system :: order).map (handle table sys param))
        { cpuInfos := sys.getCpuInfos }).map (·.dumpCfgs) := by
  unfold getDumperConfigs
  rw [sectionHandlers_eq, List.map_cons, runHandlers, List.foldlM_cons]
  cases hsystem : handleDumpSystem table param { cpuInfos := sys.getCpuInfos } with
  | none => simp [handle, hsystem]
  | some st =>
    simp only [handle, hsystem, Option.bind_eq_bind, Option.bind_some, runHandlers]
    exact Option.map_eq_bind.symm

end SectionHandler

/-- The sections with a process id. -/
inductive PidSection where
  | cpuUsage | mem | storage | net | ipc
  deriving DecidableEq, Repr

namespace PidSection

/-- The options with another pid for one section. -/
def setPid (pid : Int) (opts : DumperOpts) : PidSection → DumperOpts
  | cpuUsage => { opts with cpuUsagePid := pid }
  | mem => { opts with memPid := pid }
  | storage => { opts with storagePid := pid }
  | net => { opts with netPid := pid }
  | ipc => { opts with ipcStatPid := pid }

/-- The handlers that dump a section. `--mem-smaps` keeps its pid in `memPid_` too. -/
def handlers : PidSection → List SectionHandler
  | cpuUsage => [.cpuUsage]
  | mem => [.mem, .memShowMaps]
  | storage => [.storage]
  | net => [.net]
  | ipc => [.ipcStat]

end PidSection

/-! ## The state a handler starts in -/

section Start

variable {sys : System} {param : DumperParameter}

open SectionHandler

/-- What every handler after `HandleDumpSystem` finds. -/
def AtStart (sys : System) (param : DumperParameter) : ConfigUtils → Prop :=
  WithFlag (fun st => st.cpuInfos = sys.getCpuInfos) (dumpsSystemSystem param)

/-- Two runs with the same system section start every other section alike. -/
theorem AtStart.sameStart {other : DumperParameter} {st st' : ConfigUtils}
    (h : AtStart sys param st) (h' : AtStart sys other st')
    (hsystem : dumpsSystemSystem other = dumpsSystemSystem param) : SameStart st' st :=
  ⟨h'.1.trans h.1.symm, h'.2.trans (hsystem.trans h.2.symm)⟩

/-- The system section comes first. -/
private theorem meets_handleDumpSystem :
    Meets (· = { cpuInfos := sys.getCpuInfos }) (handleDumpSystem .builtin param)
      (AtStart sys param) := by
  intro st hst
  have hinv := @sectionInv_cpuInfos_builtin sys param
  exact hinv.handleDumpSystem (fun _ h => h) (fun _ _ _ => trivial) st (hst ▸ ⟨rfl, rfl⟩)

private theorem meets_handle {handler : SectionHandler} (hmem : handler ∈ order) :
    Meets (AtStart sys param) (handler.handle .builtin sys param) (AtStart sys param) := by
  have hinv := @sectionInv_cpuInfos_builtin sys param
  refine (hinv.withFlag _).sectionHandlers (fun _ hst => hst.2) (fun _ _ _ => trivial) _ ?_
  rw [sectionHandlers_eq]
  exact List.mem_map_of_mem hmem

/-- Every other section is reached. -/
private theorem exists_stateBefore {handler : SectionHandler} (hne : handler ≠ .system) :
    ∃ st, stateBefore .builtin sys param handler = some st ∧ AtStart sys param st := by
  have hloop : Meets (AtStart sys param)
      (runHandlers ((order.takeWhile (· ≠ handler)).map (handle .builtin sys param)))
      (AtStart sys param) := by
    apply Meets.foldlM
    intro handle hhandle
    obtain ⟨before, hbefore, rfl⟩ := List.mem_map.mp hhandle
    exact meets_handle ((List.takeWhile_sublist _).subset hbefore)
  have hfirst : (SectionHandler.system :: order).takeWhile (· ≠ handler) =
      .system :: order.takeWhile (· ≠ handler) :=
    List.takeWhile_cons_of_pos (by simpa using Ne.symm hne)
  obtain ⟨st, hrun, hst⟩ := meets_handleDumpSystem.seq hloop { cpuInfos := sys.getCpuInfos } rfl
  refine ⟨st, ?_, hst⟩
  rw [stateBefore, hfirst]
  exact hrun

/-- What a section contributes depends on the state before it. -/
private theorem contributed_of_stateBefore {handler : SectionHandler} {st : ConfigUtils}
    (h : stateBefore .builtin sys param handler = some st) :
    contributed .builtin sys param handler =
      contribution (handler.handle .builtin sys param) st := by
  rw [contributed, h, Option.bind_some]

end Start

/-! ## Handlers that read only what is theirs -/

section Own

variable {sys : System} {param other : DumperParameter} {st st' : ConfigUtils}

open SectionHandler

/-- Does a section with this flag and pid run, given whether the system cluster is dumped? -/
def runsBeside (flag : Bool) (pid : Int) (systemSystem : Bool) : Bool :=
  flag && !(systemSystem && pid < 0)

/-- Handlers other than `HandleDumpProcesses` contribute the same from all states
    that agree on the cpus and the flag. -/
private theorem contribution_congr {handler : SectionHandler} (hsystem : handler ≠ .system)
    (hprocesses : handler ≠ .processes) (h : SameStart st st') :
    contribution (handler.handle .builtin sys param) st =
      contribution (handler.handle .builtin sys param) st' := by
  have hmerge := choosesAfresh_mergePidInfos sys
  have hdumper : ∀ name, startWith name ConfigData.configDumper_ = true → ∀ skip : Bool,
      contribution (fun st => if skip then some st
        else getConfig .builtin param.uid st name none) st =
      contribution (fun st => if skip then some st
        else getConfig .builtin param.uid st name none) st' := by
    intro name hname skip
    rw [contribution_dumper acyclic_builtin hname, contribution_dumper acyclic_builtin hname]
  have hsection : ∀ (selected : Bool → Bool) (choose : ConfigUtils → ConfigUtils) names args,
      ChoosesAfresh choose →
      contribution (fun st => runSection .builtin param.uid (selected st.isDumpSystemSystem)
        choose names args st) st =
      contribution (fun st => runSection .builtin param.uid (selected st.isDumpSystemSystem)
        choose names args st) st' := by
    intro selected choose names args hchoose
    apply contribution_runSection_congr acyclic_builtin hchoose _ h
    rw [h.isDumpSystemSystem]
  let opts := param.opts
  cases handler with
  | system => exact absurd rfl hsystem
  | processes => exact absurd rfl hprocesses
  -- The sections that look at the system cluster.
  | cpuFreq => exact hsection (opts.isDumpCpuFreq && !·) id _ _ choosesAfresh_id
  | cpuUsage =>
    exact hsection (runsBeside opts.isDumpCpuUsage opts.cpuUsagePid) _ _ _ (hmerge _)
  | mem => exact hsection (runsBeside opts.isDumpMem opts.memPid) _ _ _ (hmerge _)
  | memShowMaps => exact hsection (runsBeside opts.isShowSmaps opts.memPid) _ _ _ (hmerge _)
  | storage => exact hsection (runsBeside opts.isDumpStorage opts.memPid) _ _ _ (hmerge _)
  | net => exact hsection (runsBeside opts.isDumpNet opts.netPid) _ _ _ (hmerge _)
  -- The other ones.
  | jsHeapMem => exact hdumper _ (by decide) _
  | cjHeapMem => exact hdumper _ (by decide) _
  | heapMem => exact hdumper _ (by decide) _
  | log => exact hsection (fun _ => opts.isDumpLog) id _ _ choosesAfresh_id
  | list => exact hsection (fun _ => opts.isDumpList) id _ _ choosesAfresh_id
  | ability =>
    exact hsection (fun _ => !opts.isDumpList && opts.isDumpSystemAbility) id _ _ choosesAfresh_id
  | service =>
    exact hsection (fun _ => !opts.isDumpList && opts.isDumpService) id _ _ choosesAfresh_id
  | faultLog => exact hsection (fun _ => opts.isFaultLog) id _ _ choosesAfresh_id
  | appendix => exact hsection (fun _ => opts.isAppendix) _ _ _ (hmerge _)
  | ipcStat => exact hsection (fun _ => opts.isDumpIpc) _ _ _ (hmerge _)

/-- Two requests for which a handler is the same function. -/
private theorem contributed_congr {handler : SectionHandler} (hsystem : handler ≠ .system)
    (hprocesses : handler ≠ .processes)
    (hdumps : dumpsSystemSystem other = dumpsSystemSystem param)
    (hhandle : ∀ st, handler.handle .builtin sys other st = handler.handle .builtin sys param st) :
    contributed .builtin sys other handler = contributed .builtin sys param handler := by
  obtain ⟨st, hst, hstart⟩ := @exists_stateBefore sys param handler hsystem
  obtain ⟨st', hst', hstart'⟩ := @exists_stateBefore sys other handler hsystem
  rw [contributed_of_stateBefore hst, contributed_of_stateBefore hst', funext hhandle]
  exact contribution_congr hsystem hprocesses (hstart.sameStart hstart' hdumps)

end Own

/-! ## The storage section -/

section Storage

variable {sys : System} {param other : DumperParameter}

open SectionHandler

/-- A tree with a root makes an entry. -/
private theorem convertTreeToList_cons_ne_nil (cfg : DumpCfg) (childs rest : Forest DumpCfg)
    (base : Nat) (parent : Option Nat) :
    convertTreeToList (.cons cfg childs rest) 0 base parent ≠ [] := by
  simp [convertTreeToList]

/-- A group of the table is at least listed itself. -/
private theorem entriesOf_ne_nil {table : ConfigData} {name : String} {group : GroupCfg}
    (hacyclic : Layering.Acyclic (Includes table))
    (hdumper : startWith name ConfigData.configDumper_ = false)
    (hgroup : startWith name ConfigData.configGroup_ = true)
    (hfind : table.findGroup name = some group) (uid : Int) (st : ConfigUtils)
    (args : Option OptionArgs) : entriesOf table uid st args name ≠ [] := by
  obtain ⟨⟨status, tree⟩, hrun⟩ := @exists_getGroup_of_acyclic table st uid hacyclic name args
    .none 0
  simp only [entriesOf, hdumper, hgroup, hrun, Bool.false_eq_true, if_false, if_true]
  -- Whatever its type, the expansion of a group starts with the group's own node.
  have htree : ∃ childs, tree = .cons (groupNode group) childs .nil := by
    simp only [groupFuel, getGroup, hfind, getGroupAt, Nat.not_lt_zero, gt_iff_lt, if_false] at hrun
    split at hrun
    · simp only [Option.some.injEq, Prod.mk.injEq] at hrun
      exact ⟨_, hrun.2.symm⟩
    · simp only [Option.bind_eq_bind, Option.bind_eq_some_iff, Option.some.injEq,
        Prod.mk.injEq] at hrun
      obtain ⟨childs, -, -, htree⟩ := hrun
      exact ⟨_, htree.symm⟩
  obtain ⟨childs, rfl⟩ := htree
  exact convertTreeToList_cons_ne_nil _ _ _ _ _

/-- The guard of `HandleDumpStorage` gives the same for two requests. -/
def StorageGuardAgrees (param other : DumperParameter) : Prop :=
  param.opts.isDumpStorage = true → dumpsSystemSystem param = true →
    (other.opts.memPid < 0 ↔ param.opts.memPid < 0)

/-- The entries of the storage section. -/
private theorem contributed_storage (sys : System) (param : DumperParameter) :
    ∃ st, AtStart sys param st ∧ contributed .builtin sys param .storage =
      some (if runsBeside param.opts.isDumpStorage param.opts.memPid (dumpsSystemSystem param) then
        entriesOfAll .builtin param.uid (mergePidInfos sys param.opts.storagePid st.resetCurrent)
          none [storageGroup param]
      else []) := by
  obtain ⟨st, hst, hstart⟩ := @exists_stateBefore sys param .storage (by decide)
  refine ⟨st, hstart, ?_⟩
  rw [contributed_of_stateBefore hst, ← hstart.2]
  exact contribution_runSection acyclic_builtin (choosesOnly_mergePidInfos _)
    (fun st => runsBeside param.opts.isDumpStorage param.opts.memPid st.isDumpSystemSystem) _ _ _

private theorem storageEntries_ne_nil (uid : Int) (st : ConfigUtils) :
    entriesOfAll .builtin uid st none [storageGroup param] ≠ [] := by
  simp only [entriesOfAll, List.map_nil, List.append_nil]
  unfold storageGroup
  split
  · exact entriesOf_ne_nil acyclic_builtin (by decide +kernel) (by decide +kernel) rfl uid st none
  · exact entriesOf_ne_nil acyclic_builtin (by decide +kernel) (by decide +kernel) rfl uid st none

/-- For requests with the same storage flag and pid, the storage section is the
    same exactly if its guard is. -/
theorem contributed_storage_iff (huid : other.uid = param.uid)
    (hflag : other.opts.isDumpStorage = param.opts.isDumpStorage)
    (hpid : other.opts.storagePid = param.opts.storagePid)
    (hdumps : dumpsSystemSystem other = dumpsSystemSystem param) :
    contributed .builtin sys other .storage = contributed .builtin sys param .storage ↔
      StorageGuardAgrees param other := by
  obtain ⟨st, hstart, heq⟩ := contributed_storage sys param
  obtain ⟨st', hstart', heq'⟩ := contributed_storage sys other
  have hgroup : storageGroup other = storageGroup param := by simp only [storageGroup, hpid]
  -- The storage section chooses its pids afresh, so only the guard can differ.
  have hview := (choosesAfresh_mergePidInfos sys param.opts.storagePid).2
    (hstart.sameStart hstart' hdumps).cpuInfos
  rw [heq, heq', huid, hflag, hpid, hdumps, hgroup, entriesOfAll_congr hview, Option.some.injEq]
  have hne := @storageEntries_ne_nil param param.uid
    (mergePidInfos sys param.opts.storagePid st.resetCurrent)
  revert hne
  generalize entriesOfAll _ _ _ _ _ = entries
  intro hne
  unfold StorageGuardAgrees runsBeside
  cases param.opts.isDumpStorage
  · simp
  cases dumpsSystemSystem param
  · simp
  by_cases hother : other.opts.memPid < 0 <;> by_cases hparam : param.opts.memPid < 0 <;>
    simp [hother, hparam, hne, Ne.symm hne]

end Storage

/-! ## The processes section -/

section Size

/-- How many entries a forest is listed with. -/
def listedSize : Forest DumpCfg → (nest : Nat) → Nat
  | .nil, _ => 0
  | .cons _ childs rest, nest =>
    if nest > ConfigData.nestMax then 0 else 1 + listedSize childs (nest + 1) + listedSize rest nest

/-- The number of entries that a tree makes. -/
private theorem length_convertTreeToList (tree : Forest DumpCfg) (nest base : Nat)
    (parent : Option Nat) :
    (convertTreeToList tree nest base parent).length = listedSize tree nest := by
  induction tree generalizing nest base parent with
  | nil => rfl
  | cons cfg childs rest ihc ihr =>
    simp only [convertTreeToList, listedSize]
    split
    · rfl
    · simp only [List.length_cons, List.length_append, ihc, ihr]
      omega

/-- The numbers of two trees add up. -/
private theorem listedSize_append (left right : Forest DumpCfg) {nest : Nat}
    (hnest : nest ≤ ConfigData.nestMax) :
    listedSize (left ++ right) nest = listedSize left nest + listedSize right nest := by
  induction left with
  | nil => simp [listedSize]
  | cons cfg childs rest _ ihr =>
    simp only [Forest.cons_append, listedSize, if_neg (Nat.not_lt.mpr hnest), ihr]
    omega

private theorem listedSize_flatten (forests : List (Forest DumpCfg)) {nest : Nat}
    (hnest : nest ≤ ConfigData.nestMax) :
    listedSize (.flatten forests) nest = (forests.map (listedSize · nest)).sum := by
  induction forests with
  | nil => rfl
  | cons forest forests ih =>
    rw [Forest.flatten_cons, listedSize_append _ _ hnest, ih, List.map_cons, List.sum_cons]

private theorem listedSize_mapUpTo (f : DumpCfg → DumpCfg) (tree : Forest DumpCfg)
    (depth nest : Nat) :
    listedSize (tree.mapUpTo f depth) nest = listedSize tree nest := by
  induction tree generalizing depth nest with
  | nil => rfl
  | cons cfg childs rest ihc ihr =>
    cases depth with
    | zero => simp only [Forest.mapUpTo, listedSize, ihr]
    | succ depth => simp only [Forest.mapUpTo, listedSize, ihc, ihr]

end Size

section Processes

variable {sys : System} {param other : DumperParameter} {st st' : ConfigUtils}

open SectionHandler

/-- The runs of a group that is expanded for each process, for a caller `uid`. -/
def visibleRuns (uid : Int) (pidInfos : List PidInfo) : List (Option OptionArgs × DumperConstant) :=
  pidInfos.filterMap fun pidInfo =>
    let newLevel := getDumpLevelByPid uid pidInfo
    if newLevel = .levelNone then none
    else some (some ((OptionArgs.clone none).setPid pidInfo.pid pidInfo.uid), newLevel)

/-- `groupmini_expand_processesGroup`. -/
def processesMinigroup : GroupCfg :=
  ⟨"groupmini_expand_processesGroup", "mini-group for of processes dumper",
    ["dumper_block_channel", "dumper_excute_time", "dumper_mount_info"], .grouptypePid, true⟩

/-- The tree of `groupmini_expand_processesGroup` for one process. -/
def processTree (run : Option OptionArgs × DumperConstant) : Forest DumpCfg :=
  .cons (groupNode processesMinigroup) (.leaves (getDumper .builtin "dumper_block_channel" run.1 run.2).2 ++
    (.leaves (getDumper .builtin "dumper_excute_time" run.1 run.2).2 ++
      (.leaves (getDumper .builtin "dumper_mount_info" run.1 run.2).2 ++ .nil))) .nil

/-- `group_processes`. -/
def processesGroupCfg : GroupCfg :=
  ⟨"group_processes", "group of processes dumper",
    ["dumper_threads", "groupmini_expand_processesGroup"], .none, false⟩

/-- The tree of `group_processes`, given the runs of its minigroup. -/
def processesTree (runs : List (Option OptionArgs × DumperConstant)) : Forest DumpCfg :=
  .cons (groupNode processesGroupCfg)
    (.leaves (getDumper .builtin "dumper_threads" none .none).2 ++
      (.cons (groupNode processesMinigroup) (.flatten (runs.map processTree)) .nil ++ .nil) ++ .nil)
    .nil

/-- The tree of an item that is a dumper. -/
private theorem getGroupItems_dumper {table : ConfigData} {getGroup : Expander}
    {args : Option OptionArgs}
    {level : DumperConstant} {nest : Nat} {item : String} {rest : List String}
    (hne : item ≠ "") (hitem : startWith item ConfigData.configDumper_ = true) :
    getGroupItems table getGroup args level nest (item :: rest) =
      (getGroupItems table getGroup args level nest rest).map fun result =>
        (result.1, .leaves (getDumper table item args level).2 ++ result.2) := by
  rw [getGroupItems, if_neg hne, if_pos hitem]
  exact Option.map_eq_bind.symm

/-- The tree of an item that is a minigroup. -/
private theorem getGroupItems_minigroup {table : ConfigData} {getGroup : Expander}
    {args : Option OptionArgs} {level : DumperConstant} {nest : Nat} {item : String}
    {rest : List String} {status : DumpStatus} {tree : Forest DumpCfg}
    (hne : item ≠ "") (hdumper : startWith item ConfigData.configDumper_ = false)
    (hitem : startWith item ConfigData.configMinigroup_ = true)
    (htree : getGroup item args level (nest + 1) = some (status, tree)) :
    getGroupItems table getGroup args level nest (item :: rest) =
      (getGroupItems table getGroup args level nest rest).map fun result =>
        (result.1, tree ++ result.2) := by
  rw [getGroupItems, if_neg hne, if_neg (by simp [hdumper]), if_pos hitem, htree]
  exact Option.map_eq_bind.symm

/-- The tree of the group of processes. -/
private theorem getGroup_processes (uid : Int) (st : ConfigUtils) :
    getGroup .builtin st uid (groupFuel .builtin) "group_processes" none .none 0 =
      some (.dumpOk, processesTree (visibleRuns uid st.currentPidInfos)) := by
  have hgroup : ConfigData.builtin.findGroup "group_processes" = some processesGroupCfg := rfl
  have hmini : ConfigData.builtin.findGroup "groupmini_expand_processesGroup" =
      some processesMinigroup := rfl
  have hfuel : groupFuel .builtin = (ConfigData.builtin.groups.length - 1) + 1 + 1 := rfl
  rw [hfuel]
  generalize ConfigData.builtin.groups.length - 1 = fuel
  have hrun : ∀ run : Option OptionArgs × DumperConstant,
      (getGroupSimple .builtin (getGroup .builtin st uid fuel) processesMinigroup run.1 run.2 0).map
        (·.2) = some (processTree run) := by
    intro run
    rfl
  have hmapM : (visibleRuns uid st.currentPidInfos).mapM (fun run =>
      (getGroupSimple .builtin (getGroup .builtin st uid fuel) processesMinigroup run.1 run.2 0).map
        (·.2)) = some ((visibleRuns uid st.currentPidInfos).map processTree) := by
    simp only [hrun]
    exact List.mapM_pure
  -- The minigroup is expanded to a run for each process that is shown.
  have hexpand : expansions st uid processesMinigroup none .none =
      some (visibleRuns uid st.currentPidInfos) := rfl
  have hchild : getGroup .builtin st uid (fuel + 1) "groupmini_expand_processesGroup" none .none 1 =
      some (.dumpOk, .cons (groupNode processesMinigroup)
        (.flatten ((visibleRuns uid st.currentPidInfos).map processTree)) .nil) := by
    rw [getGroup]
    simp only [hmini, getGroupAt, hexpand]
    rw [if_neg (by decide), if_neg (by decide)]
    show Option.bind (List.mapM _ _) _ = _
    rw [hmapM]
    rfl
  have hitems : getGroupSimple .builtin (getGroup .builtin st uid (fuel + 1)) processesGroupCfg none
      .none 0 = some (.dumpOk, .leaves (getDumper .builtin "dumper_threads" none .none).2 ++
        (.cons (groupNode processesMinigroup)
          (.flatten ((visibleRuns uid st.currentPidInfos).map processTree)) .nil ++ .nil)) := by
    rw [getGroupSimple, if_neg (by decide), if_neg (by decide)]
    show Option.bind (getGroupItems _ _ _ _ _
      ["dumper_threads", "groupmini_expand_processesGroup"]) _ = _
    rw [getGroupItems_dumper (by decide +kernel) (by decide +kernel),
      getGroupItems_minigroup (by decide +kernel) (by decide +kernel) (by decide +kernel) hchild]
    rfl
  rw [getGroup]
  simp only [hgroup, getGroupAt]
  rw [if_neg (by decide), if_neg (by decide)]
  show Option.bind (List.mapM _ [(none, DumperConstant.none)]) _ = _
  rw [List.mapM_cons, hitems]
  rfl

/-- Twice the runs give more entries. -/
private theorem length_processesTree_lt {runs : List (Option OptionArgs × DumperConstant)}
    (hruns : runs ≠ []) (sectionName : String) :
    (convertTreeToList (setSection (processesTree runs) sectionName) 0 0 none).length <
      (convertTreeToList (setSection (processesTree (runs ++ runs)) sectionName) 0 0 none).length := by
  have hpos : 0 < (runs.map fun run => listedSize (processTree run) 2).sum := by
    obtain ⟨run, rest, rfl⟩ := List.exists_cons_of_ne_nil hruns
    rw [List.map_cons, List.sum_cons]
    have hrun : 0 < listedSize (processTree run) 2 := by
      simp only [processTree, listedSize, show ¬ 2 > ConfigData.nestMax by decide, if_false]
      omega
    omega
  simp only [length_convertTreeToList, setSection, listedSize_mapUpTo, processesTree, listedSize,
    listedSize_append _ _ (show 1 ≤ ConfigData.nestMax by decide),
    listedSize_flatten _ (show 2 ≤ ConfigData.nestMax by decide), List.map_append,
    List.sum_append, List.map_map, Function.comp_def, show ¬ 0 > ConfigData.nestMax by decide,
    show ¬ 0 + 1 > ConfigData.nestMax by decide, if_false]
  omega

/-- `HandleDumpProcesses` in closed form. -/
private theorem contribution_processes (st : ConfigUtils) :
    contribution (handle .builtin sys param .processes) st =
      some (if param.opts.isDumpProcesses && (mergeProcesses sys param st.resetCurrent).1 then
        entriesOf .builtin param.uid (mergeProcesses sys param st.resetCurrent).2 none
          (if param.opts.isDumpFd || param.opts.isDumpThread then "dumper_fd_thread"
            else processesGroup sys param)
      else []) := by
  have hcfgs : (mergeProcesses sys param st.resetCurrent).2.dumpCfgs = st.dumpCfgs := by
    unfold mergeProcesses
    split
    · exact (choosesOnly_mergeDebugPidInfos _ _).2.1
    · exact (choosesOnly_mergePidInfos _ _).2.1
  -- The branches of the handler: not asked for, no process found, one dumper, or the group.
  cases hselected : param.opts.isDumpProcesses
  · have hrun : handle .builtin sys param .processes st = some st := by
      simp only [handle, handleDumpProcesses, hselected]
      rfl
    exact contribution_of_append hrun (by simp)
  cases hmerged : mergeProcesses sys param st.resetCurrent with
  | mk found merged =>
  replace hcfgs : merged.dumpCfgs = st.dumpCfgs := by
    rw [hmerged] at hcfgs
    exact hcfgs
  cases found
  · have hrun : handle .builtin sys param .processes st = some merged := by
      simp only [handle, handleDumpProcesses, hselected, hmerged]
      rfl
    exact contribution_of_append hrun (by simp [hcfgs])
  · cases hthread : (param.opts.isDumpFd || param.opts.isDumpThread)
    · have hrun : handle .builtin sys param .processes st =
          (getConfig .builtin param.uid merged (processesGroup sys param) none).map
            resetCurrent := by
        simp only [handle, handleDumpProcesses, hselected, hmerged, hthread]
        rfl
      rw [getConfig_eq acyclic_builtin] at hrun
      exact contribution_of_append hrun (by simp [hcfgs, resetCurrent])
    · have hrun : handle .builtin sys param .processes st =
          getConfig .builtin param.uid merged "dumper_fd_thread" none := by
        simp only [handle, handleDumpProcesses, hselected, hmerged, hthread]
        rfl
      rw [getConfig_eq acyclic_builtin] at hrun
      exact contribution_of_append hrun (by simp [hcfgs])

/-- Does a handler before `HandleDumpProcesses` fill `pidInfos_`? -/
def listsProcesses (param : DumperParameter) : SectionHandler → Bool
  | .cpuUsage => runsBeside param.opts.isDumpCpuUsage param.opts.cpuUsagePid
      (dumpsSystemSystem param) && param.opts.cpuUsagePid < 0
  | .mem => runsBeside param.opts.isDumpMem param.opts.memPid (dumpsSystemSystem param) &&
      param.opts.memPid < 0
  | .memShowMaps => runsBeside param.opts.isShowSmaps param.opts.memPid (dumpsSystemSystem param) &&
      param.opts.memPid < 0
  | .storage => runsBeside param.opts.isDumpStorage param.opts.memPid (dumpsSystemSystem param) &&
      param.opts.storagePid < 0
  | .net => runsBeside param.opts.isDumpNet param.opts.netPid (dumpsSystemSystem param) &&
      param.opts.netPid < 0
  | _ => false

/-- The handlers between `HandleDumpSystem` and `HandleDumpProcesses`. -/
def beforeProcesses : List SectionHandler :=
  [cpuFreq, cpuUsage, mem, jsHeapMem, cjHeapMem, heapMem, memShowMaps, log, storage, net, list,
    ability, service]

/-- `pidInfos_` after `MergePidInfos`. -/
private theorem mergePidInfos_pidInfos (sys : System) (pid : Int) (st : ConfigUtils) :
    (mergePidInfos sys pid st).pidInfos =
      if pid < 0 then sys.getPidInfos false else st.pidInfos := by
  unfold mergePidInfos
  split <;> rfl

/-- What one handler does to `pidInfos_`. -/
private theorem handle_pidInfos {handler : SectionHandler} (hmem : handler ∈ beforeProcesses)
    (hstart : AtStart sys param st) :
    ∃ st', handler.handle .builtin sys param st = some st' ∧ st'.pidInfos =
      if listsProcesses param handler then sys.getPidInfos false else st.pidInfos := by
  have hsection : ∀ (selected : Bool) (choose : ConfigUtils → ConfigUtils) names args,
      ChoosesOnly choose →
      ∃ st', runSection .builtin param.uid selected choose names args st = some st' ∧
        st'.pidInfos = if selected then (choose st.resetCurrent).pidInfos else st.pidInfos := by
    intro selected choose names args hchoose
    refine ⟨_, runSection_eq acyclic_builtin hchoose selected names args st, ?_⟩
    split <;> rfl
  -- The handlers with a pid list the processes themselves when they have none.
  have hmerge : ∀ (flag : Bool) (guardPid pid : Int) names args,
      ∃ st', runSection .builtin param.uid (runsBeside flag guardPid st.isDumpSystemSystem)
        (mergePidInfos sys pid) names args st = some st' ∧ st'.pidInfos =
          if runsBeside flag guardPid (dumpsSystemSystem param) && decide (pid < 0) then
            sys.getPidInfos false else st.pidInfos := by
    intro flag guardPid pid names args
    obtain ⟨st', hrun, hpids⟩ := hsection (runsBeside flag guardPid st.isDumpSystemSystem) _ names
      args (choosesOnly_mergePidInfos pid)
    refine ⟨st', hrun, ?_⟩
    rw [hpids, mergePidInfos_pidInfos, hstart.2]
    by_cases hpid : pid < 0 <;> cases runsBeside flag guardPid (dumpsSystemSystem param) <;>
      simp [hpid, resetCurrent]
  -- Other sections leave the list as it is.
  have hplain : ∀ (selected : Bool) names args,
      ∃ st', runSection .builtin param.uid selected id names args st = some st' ∧
        st'.pidInfos = st.pidInfos := by
    intro selected names args
    obtain ⟨st', hrun, hpids⟩ := hsection selected id names args choosesOnly_id
    exact ⟨st', hrun, by rw [hpids]; split <;> rfl⟩
  -- And so do the handlers that only add a dumper.
  have hdumper : ∀ (skip : Bool) name, ∃ st', (if skip then some st
      else getConfig .builtin param.uid st name none) = some st' ∧ st'.pidInfos = st.pidInfos := by
    intro skip name
    cases skip
    · exact ⟨_, getConfig_eq acyclic_builtin st name none, rfl⟩
    · exact ⟨st, rfl, rfl⟩
  cases handler with
  | cpuUsage => exact hmerge param.opts.isDumpCpuUsage param.opts.cpuUsagePid _ _ _
  | mem => exact hmerge param.opts.isDumpMem param.opts.memPid _ _ _
  | memShowMaps => exact hmerge param.opts.isShowSmaps param.opts.memPid _ _ _
  | storage => exact hmerge param.opts.isDumpStorage param.opts.memPid _ _ _
  | net => exact hmerge param.opts.isDumpNet param.opts.netPid _ _ _
  | cpuFreq => exact hplain _ _ _
  | log => exact hplain _ _ _
  | list => exact hplain _ _ _
  | ability => exact hplain _ _ _
  | service => exact hplain _ _ _
  | jsHeapMem => exact hdumper _ _
  | cjHeapMem => exact hdumper _ _
  | heapMem => exact hdumper _ _
  | system => exact absurd hmem (by decide)
  | processes => exact absurd hmem (by decide)
  | faultLog => exact absurd hmem (by decide)
  | appendix => exact absurd hmem (by decide)
  | ipcStat => exact absurd hmem (by decide)

/-- After the sections before it the processes are listed if one of them lists them. -/
private theorem runHandlers_pidInfos {handlers : List SectionHandler}
    (hsub : ∀ handler ∈ handlers, handler ∈ beforeProcesses) (hstart : AtStart sys param st) :
    ∃ st', runHandlers (handlers.map (handle .builtin sys param)) st = some st' ∧
      AtStart sys param st' ∧ st'.pidInfos =
        if handlers.any (listsProcesses param) then sys.getPidInfos false else st.pidInfos := by
  induction handlers generalizing st with
  | nil => exact ⟨st, rfl, hstart, rfl⟩
  | cons handler rest ih =>
    have hmem := hsub handler List.mem_cons_self
    have horder : ∀ handler ∈ beforeProcesses, handler ∈ order := by decide
    obtain ⟨st₁, hrun₁, hpids₁⟩ := handle_pidInfos hmem hstart
    obtain ⟨st₂, hrun₂, hstart₂⟩ := meets_handle (horder _ hmem) st hstart
    -- Both lemmas speak of the one run of the handler.
    have heq : st₂ = st₁ := by
      rw [hrun₁, Option.some.injEq] at hrun₂
      exact hrun₂.symm
    obtain ⟨st', hrun', hstart', hpids'⟩ := ih
      (fun other hother => hsub other (List.mem_cons_of_mem _ hother)) (heq ▸ hstart₂)
    refine ⟨st', ?_, hstart', ?_⟩
    · unfold runHandlers at hrun' ⊢
      rw [List.map_cons, List.foldlM_cons, hrun₁]
      exact hrun'
    · rw [hpids', hpids₁, List.any_cons]
      cases listsProcesses param handler <;> simp

/-- The system section does not list processes for its labels. -/
private theorem handleDumpSystemArgs_pidInfos {args : Option OptionArgs} {labels : List String}
    (h : handleDumpSystemArgs .builtin param args labels st = some st') :
    st'.pidInfos = st.pidInfos := by
  induction labels generalizing st with
  | nil =>
    simp only [handleDumpSystemArgs, Option.some.injEq] at h
    rw [h]
  | cons label rest ih =>
    simp only [handleDumpSystemArgs, getConfig_eq acyclic_builtin, Option.bind_eq_bind,
      Option.bind_some] at h
    rw [ih h]
    split <;> rfl

private theorem handleDumpSystem_pidInfos (h : handleDumpSystem .builtin param st = some st') :
    st'.pidInfos = st.pidInfos := by
  unfold handleDumpSystem at h
  split at h
  · simp only [Option.some.injEq] at h
    rw [h]
  split at h
  · simp only [getConfigs_eq acyclic_builtin, Option.bind_eq_bind, Option.bind_some,
      Option.some.injEq] at h
    rw [← h]
    rfl
  · simp only [Option.map_eq_some_iff] at h
    obtain ⟨st₁, hrun, rfl⟩ := h
    have hpids := handleDumpSystemArgs_pidInfos hrun
    exact hpids

/-- `pidInfos_` when `HandleDumpProcesses` starts: empty unless a section before
    it has listed all processes. -/
private theorem exists_stateBefore_processes (sys : System) (param : DumperParameter) :
    ∃ st, stateBefore .builtin sys param .processes = some st ∧ AtStart sys param st ∧
      st.pidInfos = if beforeProcesses.any (listsProcesses param) then sys.getPidInfos false
        else [] := by
  obtain ⟨st₁, hrun₁, hstart₁⟩ := @meets_handleDumpSystem sys param { cpuInfos := sys.getCpuInfos }
    rfl
  obtain ⟨st, hrun, hstart, hpids⟩ := runHandlers_pidInfos (fun _ h => h) hstart₁
  refine ⟨st, ?_, hstart, by rw [hpids, handleDumpSystem_pidInfos hrun₁]⟩
  have hbefore : (SectionHandler.system :: order).takeWhile (· ≠ .processes) =
      .system :: beforeProcesses := by decide
  rw [stateBefore, hbefore, List.map_cons, runHandlers, List.foldlM_cons,
    show handle .builtin sys param .system _ = some st₁ from hrun₁]
  exact hrun

/-- A processes section that lists the debug applications and shows one to the caller. -/
def ShowsDebugApps (sys : System) (param : DumperParameter) : Prop :=
  sys.isUserMode = true ∧ param.opts.isDumpProcesses = true ∧ param.opts.processPid < 0 ∧
    (param.opts.isDumpFd || param.opts.isDumpThread) = false ∧
    ∃ info ∈ sys.getPidInfos false, sys.checkAppDebugVersion info.pid = true ∧
      getDumpLevelByPid param.uid info ≠ .levelNone

/-- Such a section finds the same in `pidInfos_` for two requests. -/
def ProcessListAgrees (sys : System) (param other : DumperParameter) : Prop :=
  ShowsDebugApps sys param →
    beforeProcesses.any (listsProcesses other) = beforeProcesses.any (listsProcesses param)

/-- Listing the debug applications twice changes the section exactly if one of
    them is shown. -/
private theorem entriesOf_twice_iff (huser : sys.isUserMode = true)
    (hselected : param.opts.isDumpProcesses = true) (hpid : param.opts.processPid < 0)
    {apps : List PidInfo}
    (happs : apps = (sys.getPidInfos false).filter fun info => sys.checkAppDebugVersion info.pid)
    (hview : st.currentPidInfos = apps) (hview' : st'.currentPidInfos = apps ++ apps) :
    (entriesOf .builtin param.uid st none
        (if param.opts.isDumpFd || param.opts.isDumpThread then "dumper_fd_thread"
          else processesGroup sys param) =
      entriesOf .builtin param.uid st' none
        (if param.opts.isDumpFd || param.opts.isDumpThread then "dumper_fd_thread"
          else processesGroup sys param)) ↔ ¬ ShowsDebugApps sys param := by
  have hgroup : processesGroup sys param = "group_processes" := by
    simp only [processesGroup, huser, if_true, hpid]
  have hentries : ∀ st, entriesOf .builtin param.uid st none "group_processes" =
      convertTreeToList (setSection (processesTree (visibleRuns param.uid st.currentPidInfos))
        (getSectionName "group_processes")) 0 0 none := by
    intro st
    unfold entriesOf
    rw [if_neg (by decide +kernel), if_pos (by decide +kernel), getGroup_processes]
  have htwice : visibleRuns param.uid (apps ++ apps) =
      visibleRuns param.uid apps ++ visibleRuns param.uid apps := List.filterMap_append
  cases hthread : (param.opts.isDumpFd || param.opts.isDumpThread)
  · rw [if_neg (by decide), hgroup, hentries, hentries, hview, hview', htwice]
    by_cases hruns : visibleRuns param.uid apps = []
    · -- None of the applications is shown to the caller.
      rw [hruns]
      refine ⟨fun _ hshows => ?_, fun _ => rfl⟩
      obtain ⟨-, -, -, -, info, hinfo, hdebug, hlevel⟩ := hshows
      have happ : info ∈ apps := happs ▸ List.mem_filter.mpr ⟨hinfo, hdebug⟩
      have hnone := List.filterMap_eq_nil_iff.mp hruns info happ
      rw [if_neg hlevel] at hnone
      exact nomatch hnone
    -- Some application is shown, so the second list makes the section longer.
    · refine ⟨fun heq => absurd (congrArg List.length heq)
        (Nat.ne_of_lt (length_processesTree_lt hruns _)), fun hshows => absurd ?_ hshows⟩
      refine ⟨huser, hselected, hpid, hthread, ?_⟩
      obtain ⟨run, hrun⟩ := List.exists_mem_of_ne_nil _ hruns
      obtain ⟨info, happ, hlevel⟩ := List.mem_filterMap.mp hrun
      rw [happs, List.mem_filter] at happ
      refine ⟨info, happ.1, happ.2, fun hnone => ?_⟩
      rw [if_pos hnone] at hlevel
      exact nomatch hlevel
  -- With `--fd` or `--thread` one dumper is added, whatever the processes are.
  · rw [if_pos rfl]
    refine ⟨fun _ hshows => ?_, fun _ => ?_⟩
    · rw [hshows.2.2.2.1] at hthread
      exact nomatch hthread
    · unfold entriesOf
      rw [if_pos (by decide +kernel), if_pos (by decide +kernel)]

/-- Unless all debug applications are asked for, `HandleDumpProcesses` does not
    look at `pidInfos_`. -/
private theorem contribution_processes_of_not (h : SameStart st st')
    (hnot : ¬ (sys.isUserMode = true ∧ param.opts.processPid < 0)) :
    contribution (handle .builtin sys param .processes) st =
      contribution (handle .builtin sys param .processes) st' := by
  have hmerge : (mergeProcesses sys param st.resetCurrent).1 =
        (mergeProcesses sys param st'.resetCurrent).1 ∧
      SameView (mergeProcesses sys param st.resetCurrent).2
        (mergeProcesses sys param st'.resetCurrent).2 := by
    unfold mergeProcesses
    split
    · rename_i huser
      have hpid : ¬ param.opts.processPid < 0 := fun hpid => hnot ⟨huser, hpid⟩
      simp only [mergeDebugPidInfos, if_neg hpid]
      split
      · exact ⟨rfl, h.cpuInfos, rfl, rfl⟩
      · exact ⟨rfl, h.cpuInfos, rfl, rfl⟩
    · exact ⟨rfl, (choosesAfresh_mergePidInfos sys _).2 h.cpuInfos⟩
  rw [contribution_processes, contribution_processes, hmerge.1, entriesOf_congr hmerge.2]

/-- What the section of the processes contributes depends on the list of processes, too. -/
private theorem contribution_processes_congr (h : SameStart st st')
    (hpids : st.pidInfos = st'.pidInfos) :
    contribution (handle .builtin sys param .processes) st =
      contribution (handle .builtin sys param .processes) st' := by
  by_cases hall : sys.isUserMode = true ∧ param.opts.processPid < 0
  · have hmerge : (mergeProcesses sys param st.resetCurrent).1 =
          (mergeProcesses sys param st'.resetCurrent).1 ∧
        SameView (mergeProcesses sys param st.resetCurrent).2
          (mergeProcesses sys param st'.resetCurrent).2 := by
      simp only [mergeProcesses, mergeDebugPidInfos, resetCurrent, if_pos hall.1, if_pos hall.2,
        hpids]
      exact ⟨trivial, h.cpuInfos, rfl, rfl⟩
    rw [contribution_processes, contribution_processes, hmerge.1, entriesOf_congr hmerge.2]
  · exact contribution_processes_of_not h hall

/-- `HandleDumpProcesses` from a state where `pidInfos_` is empty and one where it
    holds all processes. -/
private theorem contribution_processes_twice_iff (hempty : st.pidInfos = [])
    (hlisted : st'.pidInfos = sys.getPidInfos false) (h : SameStart st st') :
    contribution (handle .builtin sys param .processes) st =
      contribution (handle .builtin sys param .processes) st' ↔ ¬ ShowsDebugApps sys param := by
  by_cases hall : sys.isUserMode = true ∧ param.opts.processPid < 0
  · obtain ⟨huser, hpid⟩ := hall
    -- In user mode without a pid the debuggable apps are merged: once into an empty list, and a
    -- second time behind themselves where they are listed already.
    let apps := (sys.getPidInfos false).filter fun info => sys.checkAppDebugVersion info.pid
    have hmerge : ∀ st, mergeProcesses sys param st = mergeDebugPidInfos sys
        param.opts.processPid st := fun st => by simp only [mergeProcesses, huser, if_true]
    have hfirst : (mergeProcesses sys param st.resetCurrent).1 = !apps.isEmpty ∧
        (mergeProcesses sys param st.resetCurrent).2.currentPidInfos = apps := by
      simp [hmerge, mergeDebugPidInfos, hpid, resetCurrent, hempty, apps]
    have hsecond : (mergeProcesses sys param st'.resetCurrent).1 = !apps.isEmpty ∧
        (mergeProcesses sys param st'.resetCurrent).2.currentPidInfos = apps ++ apps := by
      have hempty_iff : (apps ++ apps).isEmpty = apps.isEmpty := by cases apps <;> rfl
      simp [hmerge, mergeDebugPidInfos, hpid, resetCurrent, hlisted, List.filter_append,
        ← hempty_iff, apps]
    rw [contribution_processes, contribution_processes, Option.some.injEq, hfirst.1, hsecond.1]
    -- Without `-p` or without apps nothing is contributed either time.
    cases hselected : param.opts.isDumpProcesses
    · simp only [Bool.false_and, Bool.false_eq_true, if_false, true_iff]
      intro hshows
      rw [hshows.2.1] at hselected
      cases hselected
    cases hnone : apps.isEmpty
    · simp only [Bool.not_false, Bool.true_and, if_true]
      exact entriesOf_twice_iff huser hselected hpid rfl hfirst.2 hsecond.2
    · simp only [Bool.not_true, Bool.and_false, Bool.false_eq_true, if_false, true_iff]
      intro hshows
      obtain ⟨-, -, -, -, info, hinfo, hdebug, -⟩ := hshows
      have happ : info ∈ apps := List.mem_filter.mpr ⟨hinfo, hdebug⟩
      rw [List.isEmpty_iff.mp hnone] at happ
      cases happ
  · exact ⟨fun _ hshows => hall ⟨hshows.1, hshows.2.2.1⟩,
      fun _ => contribution_processes_of_not h hall⟩

/-- For requests that are the same to `HandleDumpProcesses`, its section is the same
    exactly if `pidInfos_` is, or no debug application is shown. -/
theorem contributed_processes_iff
    (hhandle : handle .builtin sys other .processes = handle .builtin sys param .processes)
    (hdumps : dumpsSystemSystem other = dumpsSystemSystem param) :
    contributed .builtin sys other .processes = contributed .builtin sys param .processes ↔
      ProcessListAgrees sys param other := by
  obtain ⟨st, hst, hstart, hpids⟩ := exists_stateBefore_processes sys param
  obtain ⟨st', hst', hstart', hpids'⟩ := exists_stateBefore_processes sys other
  have hsame := hstart.sameStart hstart' hdumps
  rw [contributed_of_stateBefore hst, contributed_of_stateBefore hst', hhandle]
  unfold ProcessListAgrees
  cases hlists : beforeProcesses.any (listsProcesses param) <;>
    cases hlists' : beforeProcesses.any (listsProcesses other) <;>
    simp only [hlists, hlists', Bool.false_eq_true, if_false, if_true] at hpids hpids'
  · exact iff_of_true (contribution_processes_congr hsame (hpids'.trans hpids.symm)) (fun _ => rfl)
  · rw [eq_comm, contribution_processes_twice_iff hpids hpids' hsame.symm]
    simp
  · rw [contribution_processes_twice_iff hpids' hpids hsame]
    simp
  · exact iff_of_true (contribution_processes_congr hsame (hpids'.trans hpids.symm)) (fun _ => rfl)

end Processes

/-! ## All handlers -/

section Main

variable {sys : System} {param other : DumperParameter} {opts : DumperOpts}

open SectionHandler

/-- The flag and the pid of a handler that has a pid. -/
def ownInputs (opts : DumperOpts) : SectionHandler → Option (Bool × Int)
  | cpuUsage => some (opts.isDumpCpuUsage, opts.cpuUsagePid)
  | mem => some (opts.isDumpMem, opts.memPid)
  | memShowMaps => some (opts.isShowSmaps, opts.memPid)
  | storage => some (opts.isDumpStorage, opts.storagePid)
  | net => some (opts.isDumpNet, opts.netPid)
  | ipcStat => some (opts.isDumpIpc, opts.ipcStatPid)
  | _ => none

/-- A handler with a pid is fixed by its own flag and pid and the system cluster,
    the storage section apart. -/
private theorem contributed_own_iff {handler : SectionHandler} (huid : other.uid = param.uid)
    (hown : (ownInputs param.opts handler).isSome = true)
    (hinputs : ownInputs other.opts handler = ownInputs param.opts handler)
    (hdumps : dumpsSystemSystem other = dumpsSystemSystem param) :
    contributed .builtin sys other handler = contributed .builtin sys param handler ↔
      (handler = .storage → StorageGuardAgrees param other) := by
  cases handler with
  -- The one section whose guard reads the pid of another option.
  | storage =>
    simp only [ownInputs, Option.some.injEq, Prod.mk.injEq] at hinputs
    rw [contributed_storage_iff huid hinputs.1 hinputs.2 hdumps]
    exact ⟨fun h _ => h, fun h => h rfl⟩
  -- The other sections read their own inputs and the user's id only.
  | cpuUsage =>
    simp only [ownInputs, Option.some.injEq, Prod.mk.injEq] at hinputs
    refine iff_of_true (contributed_congr (by decide) (by decide) hdumps fun st => ?_)
      (fun h => absurd h (by decide))
    simp only [handle, handleDumpCpuUsage, hinputs.1, hinputs.2, huid]
  | mem =>
    simp only [ownInputs, Option.some.injEq, Prod.mk.injEq] at hinputs
    refine iff_of_true (contributed_congr (by decide) (by decide) hdumps fun st => ?_)
      (fun h => absurd h (by decide))
    simp only [handle, handleDumpMem, handleDumpMemCommon, hinputs.1, hinputs.2, huid]
  | memShowMaps =>
    simp only [ownInputs, Option.some.injEq, Prod.mk.injEq] at hinputs
    refine iff_of_true (contributed_congr (by decide) (by decide) hdumps fun st => ?_)
      (fun h => absurd h (by decide))
    simp only [handle, handleDumpMemShowMaps, handleDumpMemCommon, hinputs.1, hinputs.2, huid]
  | net =>
    simp only [ownInputs, Option.some.injEq, Prod.mk.injEq] at hinputs
    refine iff_of_true (contributed_congr (by decide) (by decide) hdumps fun st => ?_)
      (fun h => absurd h (by decide))
    simp only [handle, handleDumpNet, netGroups, hinputs.1, hinputs.2, huid]
  | ipcStat =>
    simp only [ownInputs, Option.some.injEq, Prod.mk.injEq] at hinputs
    refine iff_of_true (contributed_congr (by decide) (by decide) hdumps fun st => ?_)
      (fun h => absurd h (by decide))
    simp only [handle, handleDumpIpcStat, hinputs.1, hinputs.2, huid]
  -- Sections without inputs of their own.
  | system => cases hown
  | cpuFreq => cases hown
  | jsHeapMem => cases hown
  | cjHeapMem => cases hown
  | heapMem => cases hown
  | log => cases hown
  | list => cases hown
  | ability => cases hown
  | service => cases hown
  | processes => cases hown
  | faultLog => cases hown
  | appendix => cases hown

/-- A pid belongs to the sections of its own option. -/
private theorem ownInputs_setPid {pidSection : PidSection} {handler : SectionHandler}
    (hother : handler ∉ pidSection.handlers) (pid : Int) (opts : DumperOpts) :
    ownInputs (pidSection.setPid pid opts) handler = ownInputs opts handler := by
  cases pidSection <;> cases handler <;> first | rfl | exact absurd (by decide) hother

/-- The loop over the labels reads nothing but the caller of the request. -/
private theorem handleDumpSystemArgs_congr {table : ConfigData} (huid : other.uid = param.uid)
    (args : Option OptionArgs) (labels : List String) (st : ConfigUtils) :
    handleDumpSystemArgs table other args labels st =
      handleDumpSystemArgs table param args labels st := by
  induction labels generalizing st with
  | nil => rfl
  | cons label rest ih => simp only [handleDumpSystemArgs, ih, huid]

/-- The system section looks at no pid. -/
private theorem handleDumpSystem_setPid (pidSection : PidSection) (pid uid : Int) :
    handleDumpSystem .builtin ⟨pidSection.setPid pid opts, uid⟩ =
      handleDumpSystem .builtin ⟨opts, uid⟩ := by
  funext st
  have hargs := fun args labels st => @handleDumpSystemArgs_congr ⟨opts, uid⟩
    ⟨pidSection.setPid pid opts, uid⟩ .builtin rfl args labels st
  simp only [handleDumpSystem, hargs]
  cases pidSection <;> rfl

/-- A handler without a pid of its own reads none. -/
private theorem handle_setPid {handler : SectionHandler}
    (hown : ¬ (ownInputs opts handler).isSome = true)
    (pidSection : PidSection) (pid uid : Int) :
    handler.handle .builtin sys ⟨pidSection.setPid pid opts, uid⟩ =
      handler.handle .builtin sys ⟨opts, uid⟩ := by
  by_cases hsystem : handler = .system
  · subst hsystem
    exact handleDumpSystem_setPid pidSection pid uid
  · cases pidSection <;> cases handler <;>
      first | rfl | exact absurd rfl hsystem | exact absurd rfl hown

/-- Another pid changes the contribution of a section that it does not belong to exactly through the
    storage guard or the list of processes. -/
private theorem contributed_setPid_iff {pidSection : PidSection} {handler : SectionHandler}
    (hother : handler ∉ pidSection.handlers) (pid uid : Int) :
    contributed .builtin sys ⟨pidSection.setPid pid opts, uid⟩ handler =
        contributed .builtin sys ⟨opts, uid⟩ handler ↔
      (handler = .storage → StorageGuardAgrees ⟨opts, uid⟩ ⟨pidSection.setPid pid opts, uid⟩) ∧
      (handler = .processes → ProcessListAgrees sys ⟨opts, uid⟩
        ⟨pidSection.setPid pid opts, uid⟩) := by
  have hdumps : dumpsSystemSystem ⟨pidSection.setPid pid opts, uid⟩ =
      dumpsSystemSystem ⟨opts, uid⟩ := by cases pidSection <;> rfl
  -- The handlers with a pid are fixed by it, the others by what they share with other handlers.
  by_cases hown : (ownInputs opts handler).isSome = true
  · have hne : handler ≠ .processes := by
      rintro rfl
      exact nomatch hown
    have hiff := @contributed_own_iff sys ⟨opts, uid⟩ ⟨pidSection.setPid pid opts, uid⟩ handler rfl
      hown (ownInputs_setPid hother pid opts) hdumps
    rw [hiff]
    exact ⟨fun h => ⟨h, fun heq => absurd heq hne⟩, fun h => h.1⟩
  have hhandle := @handle_setPid sys opts handler hown pidSection pid uid
  have hstorage : handler ≠ .storage := by
    rintro rfl
    exact hown rfl
  by_cases hprocesses : handler = .processes
  · subst hprocesses
    rw [contributed_processes_iff hhandle hdumps]
    exact ⟨fun h => ⟨fun heq => absurd heq hstorage, fun _ => h⟩, fun h => h.2 rfl⟩
  · refine iff_of_true ?_ ⟨fun heq => absurd heq hstorage, fun heq => absurd heq hprocesses⟩
    by_cases hsystem : handler = .system
    · subst hsystem
      exact congrFun (congrArg contribution hhandle) _
    · exact contributed_congr hsystem hprocesses hdumps (congrFun hhandle)

/-- For every request and every second one by the same caller: if the two differ
    in the pid of one section, then each handler of the other sections contributes
    the same exactly if the storage guard and the list of processes agree, where it
    reads them; and a handler with a pid contributes the same for the same flag, pid
    and system cluster exactly if, as the storage handler, it has the same guard. -/
theorem contributed_eq_iff (sys : System) (param other : DumperParameter)
    (huid : other.uid = param.uid) :
    (∀ (pidSection : PidSection) (pid : Int), other.opts = pidSection.setPid pid param.opts →
      ∀ handler ∉ pidSection.handlers,
        (contributed .builtin sys other handler = contributed .builtin sys param handler ↔
          (handler = .storage → StorageGuardAgrees param other) ∧
          (handler = .processes → ProcessListAgrees sys param other))) ∧
    ∀ handler, (ownInputs param.opts handler).isSome = true →
      ownInputs other.opts handler = ownInputs param.opts handler →
      dumpsSystemSystem other = dumpsSystemSystem param →
      (contributed .builtin sys other handler = contributed .builtin sys param handler ↔
        (handler = .storage → StorageGuardAgrees param other)) := by
  refine ⟨fun pidSection pid hopts handler hother => ?_,
    fun handler hown hinputs hdumps => contributed_own_iff huid hown hinputs hdumps⟩
  obtain ⟨opts, uid⟩ := other
  cases huid
  cases hopts
  exact contributed_setPid_iff hother pid param.uid

/-- `clusterRequest` with another memory pid. -/
def clusterRequestOf (pid : Int) : DumperParameter :=
  ⟨PidSection.mem.setPid pid clusterRequest.opts, rootUid⟩

/-- Another memory pid in a request for the system cluster, memory and storage does not
    change the storage section, as long as there is one. -/
theorem contributed_eq_iff_otherMemPid :
    SectionHandler.storage ∉ PidSection.mem.handlers ∧
      contributed .builtin oneCpu (clusterRequestOf 7) .storage =
        contributed .builtin oneCpu clusterRequest .storage := by
  have hother : SectionHandler.storage ∉ PidSection.mem.handlers := by decide
  have hiff := (contributed_eq_iff oneCpu clusterRequest (clusterRequestOf 7) rfl).1 .mem 7 rfl
    .storage hother
  refine ⟨hother, hiff.mpr ⟨fun _ _ _ => ?_, fun hprocesses => ?_⟩⟩
  · decide
  · exact nomatch hprocesses

/-- Without a memory pid the same request loses its storage section. -/
theorem contributed_storage_ne_noMemPid :
    SectionHandler.storage ∉ PidSection.mem.handlers ∧
      contributed .builtin oneCpu (clusterRequestOf (-1)) .storage ≠
        contributed .builtin oneCpu clusterRequest .storage := by
  have hiff := @contributed_storage_iff oneCpu clusterRequest (clusterRequestOf (-1)) rfl rfl rfl rfl
  refine ⟨by decide, fun heq => ?_⟩
  have hguard := hiff.mp heq rfl rfl
  exact absurd (hguard.mp (by decide)) (by decide)

end Main

end HiDumper.Spec
