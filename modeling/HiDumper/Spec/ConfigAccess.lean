import HiDumper.Spec.ConfigHandlers

/-!
# Whose processes a configuration names

For a caller with an application uid, every configuration that carries a pid
carries the pid of a process of that uid. The uid is compared in two places, for
expanded and for other pid groups; both read the current processes, which all
handlers share. The invariant says that these come from `GetProcessInfo`, or have
no uid at all.

Key results:
* `ownedArgs_expansions`: expanding a group gives arguments of own processes only
* `getDumperConfigs_pids_owned`: so does the whole list
-/

namespace HiDumper.Spec

open HiDumper.Native HiDumper.Native.ConfigUtils Runs

/-- `info` is what `GetProcessInfo` says about some pid. -/
def Reported (sys : System) (info : PidInfo) : Prop := ∃ pid, (sys.getProcessInfo pid).2 = info

/-- If arguments carry a pid, it is that of a process reported with uid `uid`. -/
def OwnedArgs (sys : System) (uid : Int) (args : Option OptionArgs) : Prop :=
  ∀ a, args = some a → a.hasPid = true →
    ∃ info, Reported sys info ∧ info.pid = a.pid ∧ info.uid = uid

section Access

variable {table : ConfigData} {sys : System} {uid : Int} {st : ConfigUtils}

/-- The listed processes have the uids that the system reports. -/
private theorem reported_of_mem_getPidInfos {info : PidInfo} (h : info ∈ sys.getPidInfos false) :
    Reported sys info := by
  unfold System.getPidInfos at h
  obtain ⟨name, -, rfl⟩ := List.mem_map.mp h
  exact ⟨(sys.strings.strToInt name).getD (-1), rfl⟩

private theorem ownedArgs_none : OwnedArgs sys uid none := fun _ h => nomatch h

/-- Arguments that name no process are the caller's. -/
private theorem ownedArgs_of_hasPid {args : OptionArgs} (h : args.hasPid = false) :
    OwnedArgs sys uid (some args) := by
  intro a ha hpid
  rw [← Option.some.inj ha, h] at hpid
  exact nomatch hpid

/-- A CPU in the arguments does not change whose process they name. -/
theorem OwnedArgs.setCpuId {args : Option OptionArgs} (h : OwnedArgs sys uid args) (cpuId : Int) :
    OwnedArgs sys uid (some ((OptionArgs.clone args).setCpuId cpuId)) := by
  cases args with
  | none => exact ownedArgs_of_hasPid rfl
  | some a =>
    intro a' ha' hpid
    rw [← Option.some.inj ha'] at hpid ⊢
    exact h a rfl hpid

/-- Arguments about a process of the caller are the caller's. -/
theorem OwnedArgs.setPid {args : OptionArgs} {info : PidInfo} (hreported : Reported sys info)
    (huid : info.uid = uid) : OwnedArgs sys uid (some (args.setPid info.pid info.uid)) := by
  intro a ha _
  rw [← Option.some.inj ha]
  exact ⟨info, hreported, rfl, huid⟩

/-- An application is only let at processes of its own uid. -/
private theorem uid_eq_of_level {info : PidInfo} (huid : appFirstUid ≤ uid)
    (h : getDumpLevelByPid uid info ≠ .levelNone) : info.uid = uid := by
  unfold getDumpLevelByPid rootUid at h
  unfold appFirstUid at h huid
  rw [if_neg (by omega), if_neg (by omega)] at h
  split at h
  · rename_i heq
    exact heq.symm
  · exact absurd rfl h

/-! ## The invariant -/

/-- The processes the handlers work on are reported ones; the current one may
    also be a placeholder without uid. The list names own processes only. -/
structure AccessInv (sys : System) (uid : Int) (st : ConfigUtils) : Prop where
  pidInfos : ∀ info ∈ st.pidInfos, Reported sys info
  currentPidInfos : ∀ info ∈ st.currentPidInfos, Reported sys info
  currentPidInfo : Reported sys st.currentPidInfo ∨ st.currentPidInfo.uid = -1
  dumpCfgs : ∀ entry ∈ st.dumpCfgs, OwnedArgs sys uid entry.cfg.args

/-- At the start nothing is listed. -/
theorem AccessInv.init (cpuInfos : List Int) : AccessInv sys uid { cpuInfos := cpuInfos } where
  pidInfos _ h := nomatch h
  currentPidInfos _ h := nomatch h
  currentPidInfo := .inr rfl
  dumpCfgs _ h := nomatch h

/-- A group expanded over the processes in view names only those of the caller. -/
theorem ownedArgs_expansions (huid : appFirstUid ≤ uid) (hst : AccessInv sys uid st)
    {group : GroupCfg} {args : Option OptionArgs} {level : DumperConstant}
    {runs : List (Option OptionArgs × DumperConstant)} (hargs : OwnedArgs sys uid args)
    (h : expansions st uid group args level = some runs) :
    ∀ run ∈ runs, OwnedArgs sys uid run.1 := by
  intro run hrun
  simp only [expansions] at h
  split at h
  · -- One run for each current process the caller may see.
    rw [← Option.some.inj h, List.mem_filterMap] at hrun
    obtain ⟨info, hinfo, heq⟩ := hrun
    split at heq
    · exact nomatch heq
    · rename_i hlevel
      rw [← Option.some.inj heq]
      exact .setPid (hst.currentPidInfos info hinfo) (uid_eq_of_level huid hlevel)
  split at h
  -- One run for each cpu, with the process of the arguments.
  · rw [← Option.some.inj h, List.mem_map] at hrun
    obtain ⟨cpuId, -, rfl⟩ := hrun
    exact hargs.setCpuId cpuId
  split at h
  -- The current process, if the caller may see it.
  · split at h
    · rw [← Option.some.inj h] at hrun
      exact nomatch hrun
    · rename_i hlevel
      have hown := uid_eq_of_level huid hlevel
      rw [← Option.some.inj h, List.mem_singleton] at hrun
      rw [hrun]
      cases hst.currentPidInfo with
      | inl hreported => exact .setPid hreported hown
      | inr hunset =>
        unfold appFirstUid at huid
        omega
  split at h
  · rw [← Option.some.inj h, List.mem_singleton] at hrun
    rw [hrun]
    exact hargs.setCpuId (-1)
  split at h
  · rw [← Option.some.inj h, List.mem_singleton] at hrun
    rw [hrun]
    exact hargs
  · exact nomatch h

/-- The entries of a dumper have the arguments it was looked up with. -/
private theorem ownedArgs_getDumper {name : String} {args : Option OptionArgs}
    {level : DumperConstant}
    (hargs : OwnedArgs sys uid args) :
    ∀ cfg ∈ (getDumper table name args level).2, OwnedArgs sys uid cfg.args := by
  intro cfg hcfg
  obtain ⟨_, item, -, -, rfl⟩ := mem_getDumper hcfg
  simp only [dumpCfgOfItem]
  split
  · exact hargs
  · exact ownedArgs_none

theorem AccessInv.expansionInv (huid : appFirstUid ≤ uid) (hst : AccessInv sys uid st) :
    ExpansionInv table st uid (fun _ args => OwnedArgs sys uid args)
      (fun cfg => OwnedArgs sys uid cfg.args) where
  node _ _ := ownedArgs_none
  dumper hargs _ hruns hrun _ := ownedArgs_getDumper (ownedArgs_expansions huid hst hargs hruns _ hrun)
  minigroup hargs _ hruns hrun _ _ := ownedArgs_expansions huid hst hargs hruns _ hrun

/-- Looking up a name with such arguments keeps the invariant. -/
theorem AccessInv.getConfig (hacyclic : Layering.Acyclic (Includes table))
    (huid : appFirstUid ≤ uid) {name : String} {args : Option OptionArgs}
    (hargs : OwnedArgs sys uid args) :
    Meets (AccessInv sys uid) (getConfig table uid · name args) (AccessInv sys uid) := by
  intro st hst
  obtain ⟨entries, hrun, hgood⟩ := exists_getConfig hacyclic uid st name args
  have hentries := hgood (fun cfg => OwnedArgs sys uid cfg.args) (fun _ _ h => h)
    (ownedArgs_getDumper hargs) ((hst.expansionInv huid).getGroup _ hargs)
  refine ⟨_, hrun, { hst with dumpCfgs := ?_ }⟩
  intro entry hentry
  cases List.mem_append.mp hentry with
  | inl hold => exact hst.dumpCfgs entry hold
  | inr hnew => exact hentries entry hnew

/-- The process with a pid becomes the current one, if there is one. -/
theorem AccessInv.setCurrent (pid : Int) (hst : AccessInv sys uid st) :
    AccessInv sys uid { st with
      currentPidInfo := (sys.getProcessInfo pid).2
      currentPidInfos :=
        if (sys.getProcessInfo pid).1 then [(sys.getProcessInfo pid).2] else [] } := by
  refine { hst with currentPidInfos := fun info hinfo => ?_, currentPidInfo := .inl ⟨pid, rfl⟩ }
  dsimp only at hinfo
  split at hinfo
  · exact ⟨pid, (List.mem_singleton.mp hinfo).symm⟩
  · exact nomatch hinfo

/-- The pid that is asked for comes in with the uid of its process. -/
theorem AccessInv.mergePidInfos (pid : Int) (hst : AccessInv sys uid st) :
    AccessInv sys uid (mergePidInfos sys pid st) := by
  unfold ConfigUtils.mergePidInfos
  split
  · exact { hst with
      pidInfos := fun _ => reported_of_mem_getPidInfos
      currentPidInfos := fun _ => reported_of_mem_getPidInfos
      currentPidInfo := .inr rfl }
  · exact hst.setCurrent pid

theorem AccessInv.mergeDebugPidInfos (pid : Int) (hst : AccessInv sys uid st) :
    AccessInv sys uid (mergeDebugPidInfos sys pid st).2 := by
  unfold ConfigUtils.mergeDebugPidInfos
  split
  · have hall : ∀ info ∈ st.pidInfos ++ sys.getPidInfos false, Reported sys info := by
      intro info hinfo
      exact (List.mem_append.mp hinfo).elim (hst.pidInfos info) reported_of_mem_getPidInfos
    exact { hst with
      pidInfos := hall
      currentPidInfos := fun info hinfo => hall info (List.mem_of_mem_filter hinfo)
      currentPidInfo := .inr rfl }
  split
  · exact hst.setCurrent pid
  · exact { hst with currentPidInfos := fun _ hinfo => nomatch hinfo }

theorem AccessInv.sectionInv (hacyclic : Layering.Acyclic (Includes table))
    (huid : appFirstUid ≤ uid) :
    SectionInv table sys uid (fun _ args => OwnedArgs sys uid args) (AccessInv sys uid) where
  reset hst := { hst with
    currentPidInfos := fun _ hinfo => nomatch hinfo
    currentPidInfo := .inr rfl }
  merge pid hst := hst.mergePidInfos pid
  mergeDebug pid hst := hst.mergeDebugPidInfos pid
  config hargs := AccessInv.getConfig hacyclic huid hargs

end Access

/-! ## The whole list -/

/-- What the sections ask for names no process by itself. -/
private theorem ownedArgs_of_requested {sys : System} {uid : Int} {param : DumperParameter}
    {systemSystem : Bool} {name : String} {args : Option OptionArgs}
    (h : Requested param systemSystem name args) : OwnedArgs sys uid args := by
  cases h with
  | log _ => exact ownedArgs_of_hasPid rfl
  | ability => exact ownedArgs_of_hasPid rfl
  | _ => exact ownedArgs_none

private theorem ownedArgs_of_systemRequested {sys : System} {uid : Int} {param : DumperParameter}
    {name : String} {args : Option OptionArgs} (h : SystemRequested param name args) :
    OwnedArgs sys uid args := by
  cases h with
  | all _ => exact ownedArgs_none
  | label _ => exact ownedArgs_of_hasPid rfl

/-- On every table without cycles, for every system and every request of an
    application, the list is computed, and each entry that carries a pid carries
    the pid of a process whose reported uid is the caller's. -/
theorem getDumperConfigs_pids_owned (table : ConfigData)
    (hacyclic : Layering.Acyclic (Includes table)) (sys : System) (param : DumperParameter)
    (huid : appFirstUid ≤ param.uid) :
    ∃ cfgs, getDumperConfigs table sys param = some cfgs ∧
      ∀ entry ∈ cfgs, ∀ args, entry.cfg.args = some args → args.hasPid = true →
        ∃ info, Reported sys info ∧ info.pid = args.pid ∧ info.uid = param.uid := by
  have hsection : SectionInv table sys param.uid (fun _ args => OwnedArgs sys param.uid args)
      (AccessInv sys param.uid) := AccessInv.sectionInv hacyclic huid
  have hinit : WithFlag (AccessInv sys param.uid) false { cpuInfos := sys.getCpuInfos } :=
    ⟨AccessInv.init _, rfl⟩
  have hsystem := hsection.handleDumpSystem (fun st hst => { hst with })
    (fun _ _ => ownedArgs_of_systemRequested)
  have hhandlers := (hsection.withFlag (dumpsSystemSystem param)).runHandlers
    (fun _ hst => hst.2) (fun _ _ => ownedArgs_of_requested)
  obtain ⟨st, hrun, hst⟩ := exists_getDumperConfigs_of_meets hinit hsystem hhandlers
  exact ⟨st.dumpCfgs, hrun, fun entry hentry => hst.1.dumpCfgs entry hentry⟩

/-! ## A request for an own process -/

/-- Two processes, 42 of the application with uid 20010001 and 43 of another one. -/
def twoApps : System where
  strings := .simple
  procNames := some ["42", "43", "self"]
  procExists pid := pid = 42 || pid = 43
  procStatus pid :=
    if pid = 42 then some "Name:\tnotes\nPid:\t42\nPPid:\t1\nUid:\t20010001\t0\nGid:\t20010001\n"
    else if pid = 43 then some "Name:\tmail\nPid:\t43\nPPid:\t1\nUid:\t20010002\t0\nGid:\t20010002\n"
    else none
  procCmdline _ := none
  cpuNames := some ["cpu0", "cpufreq"]
  applicationInfo _ := none
  debuggable := "0"
  developerMode := ""

/-- A request of the first application for its own memory and for the other's ipc
    statistics: only its own pid gets into the list. -/
theorem getDumperConfigs_pids_owned_twoApps :
    appFirstUid ≤ 20010001 ∧
    ∃ cfgs, getDumperConfigs .builtin twoApps
        ⟨{ isDumpMem := true, memPid := 42, isDumpIpc := true, ipcStatPid := 43 }, 20010001⟩ =
          some cfgs ∧
      (cfgs.any fun entry => entry.cfg.args.any (·.hasPid)) = true ∧
      ∀ entry ∈ cfgs, ∀ args, entry.cfg.args = some args → args.hasPid = true →
        ∃ info, Reported twoApps info ∧ info.pid = args.pid ∧ info.uid = 20010001 := by
  refine ⟨by decide, ?_⟩
  obtain ⟨cfgs, hrun, howned⟩ := getDumperConfigs_pids_owned .builtin acyclic_builtin twoApps
    ⟨{ isDumpMem := true, memPid := 42, isDumpIpc := true, ipcStatPid := 43 }, 20010001⟩ (by decide)
  have hcarries : (getDumperConfigs .builtin twoApps
      ⟨{ isDumpMem := true, memPid := 42, isDumpIpc := true, ipcStatPid := 43 }, 20010001⟩).map
        (fun cfgs => cfgs.any fun entry => entry.cfg.args.any (·.hasPid)) = some true := by
    decide +kernel
  rw [hrun] at hcarries
  exact ⟨cfgs, hrun, Option.some.inj hcarries, howned⟩

end HiDumper.Spec
