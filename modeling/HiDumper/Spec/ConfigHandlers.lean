import HiDumper.Spec.ConfigExpansion

/-!
# Section handlers

All handlers of `ConfigUtils` get configurations between two changes of the
current processes. `SectionInv` is what an invariant has to satisfy for that;
`Requested` says which names a run of the handlers asks for, given whether the
system cluster was dumped. Every result about the whole list goes through the
two rules below.

Key results:
* `SectionInv.runHandlers`: the handlers keep an invariant that their requests keep
* `SectionInv.runHandlers_hit`: what one request establishes holds in the end
* `SectionInv.handleDumpSystem`: the same for the system cluster, with the flag it sets
* `exists_getDumperConfigs_of_meets`: the handlers together give the list
-/

namespace HiDumper.Spec

open HiDumper.Native HiDumper.Native.ConfigUtils Runs

/-- An invariant of the handlers, kept by `GetConfig` for the calls in `call`. -/
structure SectionInv (table : ConfigData) (sys : System) (uid : Int)
    (call : String → Option OptionArgs → Prop) (inv : ConfigUtils → Prop) : Prop where
  reset : ∀ {st}, inv st → inv st.resetCurrent
  merge : ∀ {st} pid, inv st → inv (mergePidInfos sys pid st)
  mergeDebug : ∀ {st} pid, inv st → inv (mergeDebugPidInfos sys pid st).2
  config : ∀ {name args}, call name args → Meets inv (getConfig table uid · name args) inv

/-- Names that are requested without regard to the system cluster. -/
def plainNames : List String :=
  ["dumper_jsheap_memory", "dumper_cjheap_memory", "dumper_heap_memory",
    "dumper_list_system_ability", "dumper_list_service", "dumper_list_system", "group_service",
    "dumper_fd_thread", "group_processes", "group_pid_processes", "group_eng_processes",
    "group_pid_eng_processes", "dumper_event_list", "dumper_event_detail", "group_faultlog",
    "group_log_kernel", "group_log_init", "group_log_hilog", "group_stack", "group_ipc"]

/-- The names and arguments the handlers after `HandleDumpSystem` may pass to
    `GetConfig`, where `systemSystem` is the value of `isDumpSystemSystem`. -/
inductive Requested (param : DumperParameter) (systemSystem : Bool) :
    String → Option OptionArgs → Prop
  | cpuFreq (h : param.opts.isDumpCpuFreq && !systemSystem) :
    Requested param systemSystem "group_cpufreq" none
  | cpuUsage (h : param.opts.isDumpCpuUsage && !(systemSystem && param.opts.cpuUsagePid < 0)) :
    Requested param systemSystem "group_cpuusage" none
  | mem (h : (param.opts.isDumpMem || param.opts.isShowSmaps) &&
      !(systemSystem && param.opts.memPid < 0)) :
    Requested param systemSystem "group_memory" none
  | log {arg : String} (h : arg ∈ param.opts.logArgs) :
    Requested param systemSystem (ConfigData.configGroupLog_ ++ arg)
      (some ((OptionArgs.clone none).setStrList param.opts.logArgs))
  | storage (h : param.opts.isDumpStorage && !(systemSystem && param.opts.memPid < 0)) :
    Requested param systemSystem (storageGroup param) none
  | net {name : String} (h : param.opts.isDumpNet && !(systemSystem && param.opts.netPid < 0))
      (hname : name ∈ netGroups param) :
    Requested param systemSystem name none
  | ability : Requested param systemSystem "group_ability"
      (some ((OptionArgs.clone none).setNamesAndArgs param.opts.abilitieNames
        param.opts.abilitieArgs))
  | plain {name : String} (h : name ∈ plainNames) : Requested param systemSystem name none

section Rules

variable {table : ConfigData} {sys : System} {param : DumperParameter}
  {call : String → Option OptionArgs → Prop} {inv post : ConfigUtils → Prop}

/-- Looking up several names keeps what looking up one does. -/
theorem SectionInv.getConfigs {uid : Int} (h : SectionInv table sys uid call inv)
    {names : List String} {args : Option OptionArgs} (hcall : ∀ name ∈ names, call name args) :
    Meets inv (getConfigs table uid names args) inv :=
  Meets.foldlM fun name hname => h.config (hcall name hname)

/-- A section keeps the invariant if what it chooses does and its names may be asked for. -/
theorem SectionInv.runSection {uid : Int} (h : SectionInv table sys uid call inv)
    {selected : ConfigUtils → Bool} {choose : ConfigUtils → ConfigUtils} {names : List String}
    {args : Option OptionArgs} (hchoose : ∀ {st}, inv st → inv (choose st))
    (hcall : ∀ st, inv st → selected st → ∀ name ∈ names, call name args) :
    Meets inv (fun st => runSection table uid (selected st) choose names args st) inv := by
  intro st hst
  show ∃ st', ConfigUtils.runSection table uid (selected st) choose names args st = some st' ∧ inv st'
  unfold ConfigUtils.runSection
  split
  · rename_i hselected
    obtain ⟨st', hrun, hst'⟩ := h.getConfigs (hcall st hst hselected) _ (hchoose (h.reset hst))
    exact ⟨st'.resetCurrent, by rw [hrun]; rfl, h.reset hst'⟩
  · exact ⟨st, rfl, hst⟩

/-- A handler that only asks for one dumper. -/
theorem SectionInv.getConfig_ite {uid : Int} (h : SectionInv table sys uid call inv) {skip : Bool}
    {name : String} {args : Option OptionArgs} (hcall : call name args) :
    Meets inv (fun st => if skip then some st else getConfig table uid st name args) inv := by
  intro st hst
  cases skip
  · exact h.config hcall st hst
  · exact ⟨st, rfl, hst⟩

/-- The section of the processes asks for the threads' files or for the group of processes. -/
theorem SectionInv.handleDumpProcesses (h : SectionInv table sys param.uid call inv)
    (hthread : call "dumper_fd_thread" none) (hgroup : call (processesGroup sys param) none) :
    Meets inv (handleDumpProcesses table sys param) inv := by
  intro st hst
  unfold ConfigUtils.handleDumpProcesses
  split
  · exact ⟨st, rfl, hst⟩
  -- User mode takes debug applications only; both ways keep the invariant.
  have hmerged : inv (mergeProcesses sys param st.resetCurrent).2 := by
    unfold mergeProcesses
    split
    · exact h.mergeDebug _ (h.reset hst)
    · exact h.merge _ (h.reset hst)
  split
  · rename_i st₁ heq
    exact ⟨st₁, rfl, by rwa [heq] at hmerged⟩
  · rename_i st₁ heq
    rw [heq] at hmerged
    split
    · exact h.config hthread st₁ hmerged
    · obtain ⟨st', hrun, hst'⟩ := h.config hgroup st₁ hmerged
      exact ⟨st'.resetCurrent, Option.map_eq_some_iff.mpr ⟨st', hrun, rfl⟩, h.reset hst'⟩

/-- The handlers after `HandleDumpSystem` keep an invariant that fixes
    `isDumpSystemSystem` and that what they request keeps. -/
theorem SectionInv.sectionHandlers (h : SectionInv table sys param.uid call inv)
    {systemSystem : Bool} (hflag : ∀ st, inv st → st.isDumpSystemSystem = systemSystem)
    (hcall : ∀ name args, Requested param systemSystem name args → call name args) :
    ∀ handle ∈ sectionHandlers table sys param, Meets inv handle inv := by
  have hplain : ∀ name ∈ plainNames, call name none := fun name hname => hcall _ _ (.plain hname)
  have hdumper : ∀ name ∈ plainNames, ∀ skip : Bool, Meets inv (fun st => if skip then some st
      else getConfig table param.uid st name none) inv :=
    fun name hname skip => h.getConfig_ite (hplain name hname)
  simp only [ConfigUtils.sectionHandlers, List.forall_mem_cons]
  refine ⟨?cpuFreq, ?cpuUsage, ?mem, hdumper _ (by decide) _, hdumper _ (by decide) _,
    hdumper _ (by decide) _, ?smaps, ?log, ?storage, ?net, ?list, ?ability, ?service, ?processes,
    ?faultLog, ?appendix, ?ipcStat, fun _ hmem => nomatch hmem⟩
  -- The sections that look at the system cluster.
  case cpuFreq =>
    refine h.runSection id fun st hst hsel => List.forall_mem_singleton.mpr ?_
    exact hcall _ _ (.cpuFreq (hflag st hst ▸ hsel))
  case cpuUsage =>
    refine h.runSection (h.merge _) fun st hst hsel => List.forall_mem_singleton.mpr ?_
    exact hcall _ _ (.cpuUsage (hflag st hst ▸ hsel))
  case mem =>
    refine h.runSection (h.merge _) fun st hst hsel => List.forall_mem_singleton.mpr ?_
    rw [hflag st hst, Bool.and_eq_true] at hsel
    exact hcall _ _ (.mem (by rw [hsel.1, hsel.2]; rfl))
  case smaps =>
    refine h.runSection (h.merge _) fun st hst hsel => List.forall_mem_singleton.mpr ?_
    rw [hflag st hst, Bool.and_eq_true] at hsel
    exact hcall _ _ (.mem (by rw [hsel.1, hsel.2, Bool.or_true]; rfl))
  case storage =>
    refine h.runSection (h.merge _) fun st hst hsel => List.forall_mem_singleton.mpr ?_
    exact hcall _ _ (.storage (hflag st hst ▸ hsel))
  case net =>
    refine h.runSection (h.merge _) fun st hst hsel name hname => ?_
    exact hcall _ _ (.net (hflag st hst ▸ hsel) hname)
  -- The other ones.
  case log =>
    refine h.runSection id fun st hst hsel => List.forall_mem_map.mpr fun arg harg => ?_
    exact hcall _ _ (.log harg)
  case list =>
    refine h.runSection id fun st hst hsel name hname => hplain name ?_
    revert name
    cases param.opts.isDumpSystemAbility <;> cases param.opts.isDumpService <;>
      cases param.opts.isDumpSystem <;> decide
  case ability =>
    exact h.runSection id fun st hst hsel => List.forall_mem_singleton.mpr (hcall _ _ .ability)
  case service =>
    exact h.runSection id fun st hst hsel => List.forall_mem_singleton.mpr (hplain _ (by decide))
  case processes =>
    refine h.handleDumpProcesses (hplain _ (by decide)) (hplain _ ?_)
    unfold processesGroup
    split <;> split <;> decide
  case faultLog =>
    refine h.runSection id fun st hst hsel => List.forall_mem_singleton.mpr (hplain _ ?_)
    split
    · decide
    · split <;> decide
  case appendix =>
    refine h.runSection (h.merge _) fun st hst hsel name hname => hplain name ?_
    revert name
    split <;> decide
  case ipcStat =>
    exact h.runSection (h.merge _) fun st hst hsel =>
      List.forall_mem_singleton.mpr (hplain _ (by decide))

/-- All sections together, for the names that the options request. -/
theorem SectionInv.runHandlers (h : SectionInv table sys param.uid call inv)
    {systemSystem : Bool} (hflag : ∀ st, inv st → st.isDumpSystemSystem = systemSystem)
    (hcall : ∀ name args, Requested param systemSystem name args → call name args) :
    Meets inv (ConfigUtils.runHandlers (ConfigUtils.sectionHandlers table sys param)) inv :=
  Meets.foldlM (h.sectionHandlers hflag hcall)

/-- If `GetConfig` on a name establishes what all handlers keep, then so does a
    section that asks for this name. -/
theorem SectionInv.runSection_hit {uid : Int}
    (h : SectionInv table sys uid (fun _ _ => True) inv)
    (hpost : SectionInv table sys uid (fun _ _ => True) post) {selected : ConfigUtils → Bool}
    {choose : ConfigUtils → ConfigUtils} {names : List String} {args : Option OptionArgs}
    {name : String} (hchoose : ∀ {st}, inv st → inv (choose st))
    (hselected : ∀ st, inv st → selected st) (hname : name ∈ names)
    (hhit : Meets inv (getConfig table uid · name args) post) :
    Meets inv (fun st => ConfigUtils.runSection table uid (selected st) choose names args st)
      post := by
  intro st hst
  show ∃ st', ConfigUtils.runSection table uid (selected st) choose names args st = some st' ∧
    post st'
  have hloop : Meets inv (ConfigUtils.getConfigs table uid names args) post :=
    Meets.foldlM_of_mem hname (fun _ _ => h.config trivial) hhit (fun _ _ => hpost.config trivial)
  obtain ⟨st', hrun, hst'⟩ := hloop _ (hchoose (h.reset hst))
  unfold ConfigUtils.runSection
  rw [if_pos (hselected st hst), hrun]
  exact ⟨st'.resetCurrent, rfl, hpost.reset hst'⟩

/-- What one section establishes and all handlers keep holds after all of them. -/
theorem SectionInv.runHandlers_hit (h : SectionInv table sys param.uid (fun _ _ => True) inv)
    (hpost : SectionInv table sys param.uid (fun _ _ => True) post) {systemSystem : Bool}
    (hflag : ∀ st, inv st → st.isDumpSystemSystem = systemSystem)
    (hflag' : ∀ st, post st → st.isDumpSystemSystem = systemSystem)
    {handle : ConfigUtils → Option ConfigUtils}
    (hmem : handle ∈ ConfigUtils.sectionHandlers table sys param)
    (hhit : Meets inv handle post) :
    Meets inv (ConfigUtils.runHandlers (ConfigUtils.sectionHandlers table sys param)) post :=
  Meets.foldlM_of_mem hmem (h.sectionHandlers hflag fun _ _ _ => trivial) hhit
    (hpost.sectionHandlers hflag' fun _ _ _ => trivial)

/-! ## The system cluster -/

/-- Does a request dump the system cluster? -/
def dumpsSystemSystem (param : DumperParameter) : Bool :=
  !param.opts.isDumpList && param.opts.isDumpSystem &&
    (param.opts.systemArgs.isEmpty || param.opts.systemArgs.contains "system")

/-- The same invariant, for the states in which `isDumpSystemSystem` has the value `flag`. -/
def WithFlag (inv : ConfigUtils → Prop) (flag : Bool) (st : ConfigUtils) : Prop :=
  inv st ∧ st.isDumpSystemSystem = flag

/-- `choose` changes only which processes are the current ones. -/
def ChoosesOnly (choose : ConfigUtils → ConfigUtils) : Prop :=
  ∀ st, (choose st).cpuInfos = st.cpuInfos ∧ (choose st).dumpCfgs = st.dumpCfgs ∧
    (choose st).isDumpSystemSystem = st.isDumpSystemSystem

theorem choosesOnly_id : ChoosesOnly id := fun _ => ⟨rfl, rfl, rfl⟩

theorem choosesOnly_resetCurrent : ChoosesOnly resetCurrent := fun _ => ⟨rfl, rfl, rfl⟩

/-- `MergePidInfos` only chooses processes. -/
theorem choosesOnly_mergePidInfos (pid : Int) : ChoosesOnly (mergePidInfos sys pid) := by
  intro st
  unfold mergePidInfos
  split <;> exact ⟨rfl, rfl, rfl⟩

theorem choosesOnly_mergeDebugPidInfos (pid : Int) :
    ChoosesOnly (fun st => (mergeDebugPidInfos sys pid st).2) := by
  intro st
  unfold mergeDebugPidInfos
  split
  · exact ⟨rfl, rfl, rfl⟩
  · split <;> exact ⟨rfl, rfl, rfl⟩

/-- Looking up a name leaves the flag of the system cluster alone. -/
theorem getConfig_flag {uid : Int} {st st' : ConfigUtils} {name : String}
    {args : Option OptionArgs} (h : getConfig table uid st name args = some st') :
    st'.isDumpSystemSystem = st.isDumpSystemSystem := by
  unfold getConfig at h
  split at h
  · exact (Option.some.inj h) ▸ rfl
  split at h
  · simp only [Option.bind_eq_bind, Option.bind_eq_some_iff, Option.some.injEq] at h
    obtain ⟨_, _, rfl⟩ := h
    rfl
  · exact (Option.some.inj h) ▸ rfl

/-- The flag of the system cluster can be part of the invariant, as no section changes it. -/
theorem SectionInv.withFlag {uid : Int} (h : SectionInv table sys uid call inv) (flag : Bool) :
    SectionInv table sys uid call (WithFlag inv flag) where
  reset hst := ⟨h.reset hst.1, (choosesOnly_resetCurrent _).2.2.trans hst.2⟩
  merge pid hst := ⟨h.merge pid hst.1, (choosesOnly_mergePidInfos pid _).2.2.trans hst.2⟩
  mergeDebug pid hst :=
    ⟨h.mergeDebug pid hst.1, (choosesOnly_mergeDebugPidInfos pid _).2.2.trans hst.2⟩
  config hcall := by
    intro st hst
    obtain ⟨st', hrun, hst'⟩ := h.config hcall st hst.1
    exact ⟨st', hrun, hst', (getConfig_flag hrun).trans hst.2⟩

/-- The names and arguments `HandleDumpSystem` may pass to `GetConfig`. -/
inductive SystemRequested (param : DumperParameter) : String → Option OptionArgs → Prop
  | all {name : String} (h : name ∈ ["group_system_base", "group_system_system"]) :
    SystemRequested param name none
  | label {arg : String} (h : arg ∈ param.opts.systemArgs) :
    SystemRequested param (ConfigData.configGroupSystem_ ++ arg)
      (some ((OptionArgs.clone none).setStrList param.opts.systemArgs))

/-- Only the label `system` names the group of the system cluster. -/
private theorem configGroupSystem_eq_iff (arg : String) :
    ConfigData.configGroupSystem_ ++ arg = "group_system_system" ↔ arg = "system" := by
  show ConfigData.configGroupSystem_ ++ arg = ConfigData.configGroupSystem_ ++ "system" ↔ _
  exact String.append_right_inj ConfigData.configGroupSystem_

/-- The system section is the one that sets the flag, for the label `system`. -/
theorem SectionInv.handleDumpSystemArgs (h : SectionInv table sys param.uid call inv)
    (hset : ∀ st, inv st → inv { st with isDumpSystemSystem := true }) {args : Option OptionArgs}
    {labels : List String}
    (hcall : ∀ arg ∈ labels, call (ConfigData.configGroupSystem_ ++ arg) args) (flag : Bool) :
    Meets (WithFlag inv flag) (ConfigUtils.handleDumpSystemArgs table param args labels)
      (WithFlag inv (flag || labels.contains "system")) := by
  -- Induction on the labels; the flag is set from the label `system` on.
  induction labels generalizing flag with
  | nil => exact fun st hst => ⟨st, rfl, by simpa using hst⟩
  | cons arg rest ih =>
    intro st hst
    obtain ⟨st₁, hrun₁, hst₁⟩ := (h.withFlag flag).config (hcall arg List.mem_cons_self) st hst
    have ih := ih fun b hb => hcall b (List.mem_cons_of_mem arg hb)
    simp only [ConfigUtils.handleDumpSystemArgs, configGroupSystem_eq_iff]
    simp only [hrun₁, Option.bind_eq_bind, Option.bind_some]
    by_cases harg : arg = "system"
    · subst harg
      obtain ⟨st₂, hrun₂, hst₂⟩ := ih true { st₁ with isDumpSystemSystem := true }
        ⟨hset st₁ hst₁.1, rfl⟩
      exact ⟨st₂, hrun₂, by simpa using hst₂⟩
    · obtain ⟨st₂, hrun₂, hst₂⟩ := ih flag st₁ hst₁
      refine ⟨st₂, by rw [if_neg harg]; exact hrun₂, ?_⟩
      have hne : ("system" == arg) = false := beq_eq_false_iff_ne.mpr (Ne.symm harg)
      rwa [List.contains_cons, hne, Bool.false_or]

/-- `HandleDumpSystem` keeps an invariant that does not look at the flag, and
    sets the flag if the system cluster is among what it dumps. -/
theorem SectionInv.handleDumpSystem (h : SectionInv table sys param.uid call inv)
    (hset : ∀ st, inv st → inv { st with isDumpSystemSystem := true })
    (hcall : ∀ name args, SystemRequested param name args → call name args) :
    Meets (WithFlag inv false) (ConfigUtils.handleDumpSystem table param)
      (WithFlag inv (dumpsSystemSystem param)) := by
  intro st hst
  unfold ConfigUtils.handleDumpSystem dumpsSystemSystem
  cases hlist : param.opts.isDumpList
  case true => exact ⟨st, rfl, hst⟩
  cases hsystem : param.opts.isDumpSystem
  case false => exact ⟨st, rfl, hst⟩
  simp only [Bool.not_true, Bool.or_false, Bool.false_eq_true, if_false, Bool.not_false,
    Bool.true_and]
  split
  · -- No labels: both groups, and the flag is set whatever they held.
    rename_i hnil
    obtain ⟨st', hrun, hst'⟩ := (h.withFlag false).getConfigs
      (fun name hname => hcall name none (.all hname)) _ ((h.withFlag false).reset hst)
    refine ⟨{ st' with isDumpSystemSystem := true }, by rw [hrun]; rfl, hset st' hst'.1, ?_⟩
    rw [hnil]
    rfl
  · rename_i hne
    obtain ⟨st', hrun, hst'⟩ := h.handleDumpSystemArgs hset
      (fun arg harg => hcall _ _ (.label harg)) false _ ((h.withFlag false).reset hst)
    refine ⟨st'.resetCurrent, by rw [hrun]; rfl, ?_⟩
    rw [List.isEmpty_eq_false_iff.mpr hne]
    exact (h.withFlag _).reset hst'

/-- If `GetConfig` on the system cluster establishes `post`, so does the loop
    over labels that have it among them. -/
theorem SectionInv.handleDumpSystemArgs_hit
    (h : SectionInv table sys param.uid (fun _ _ => True) inv)
    (hpost : SectionInv table sys param.uid (fun _ _ => True) post)
    (hset : ∀ st, post st → post { st with isDumpSystemSystem := true })
    {args : Option OptionArgs}
    (hhit : Meets inv (getConfig table param.uid · "group_system_system" args) post)
    {labels : List String} (hlabel : "system" ∈ labels) (flag : Bool) :
    Meets (WithFlag inv flag) (ConfigUtils.handleDumpSystemArgs table param args labels)
      (WithFlag post true) := by
  induction labels with
  | nil => exact nomatch hlabel
  | cons arg rest ih =>
    intro st hst
    simp only [ConfigUtils.handleDumpSystemArgs, configGroupSystem_eq_iff]
    by_cases harg : arg = "system"
    · -- This label brings the cluster; the labels after it keep what it brought.
      subst harg
      obtain ⟨st₁, hrun₁, hst₁⟩ := hhit st hst.1
      obtain ⟨st₂, hrun₂, hst₂⟩ := hpost.handleDumpSystemArgs hset (fun _ _ => trivial) true
        { st₁ with isDumpSystemSystem := true } ⟨hset st₁ hst₁, rfl⟩
      refine ⟨st₂, ?_, hst₂⟩
      rw [show ConfigData.configGroupSystem_ ++ "system" = "group_system_system" from rfl]
      simp only [hrun₁, Option.bind_eq_bind, Option.bind_some, if_pos]
      exact hrun₂
    · have hkeep : Meets (WithFlag inv flag)
          (getConfig table param.uid · (ConfigData.configGroupSystem_ ++ arg) args)
          (WithFlag inv flag) := (h.withFlag flag).config trivial
      obtain ⟨st₁, hrun₁, hst₁⟩ := hkeep st hst
      obtain ⟨st₂, hrun₂, hst₂⟩ := ih (List.mem_of_ne_of_mem (Ne.symm harg) hlabel) st₁ hst₁
      refine ⟨st₂, ?_, hst₂⟩
      simp only [hrun₁, Option.bind_eq_bind, Option.bind_some, if_neg harg]
      exact hrun₂

/-- The same for `HandleDumpSystem`. -/
theorem SectionInv.handleDumpSystem_hit
    (h : SectionInv table sys param.uid (fun _ _ => True) inv)
    (hpost : SectionInv table sys param.uid (fun _ _ => True) post)
    (hset : ∀ st, post st → post { st with isDumpSystemSystem := true })
    (hhit : ∀ args, Meets inv (getConfig table param.uid · "group_system_system" args) post)
    (hdumps : dumpsSystemSystem param = true) :
    Meets (WithFlag inv false) (ConfigUtils.handleDumpSystem table param) (WithFlag post true) := by
  intro st hst
  unfold dumpsSystemSystem at hdumps
  simp only [Bool.and_eq_true, Bool.not_eq_true', Bool.or_eq_true, List.isEmpty_iff,
    List.contains_iff_mem] at hdumps
  obtain ⟨⟨hlist, hsystem⟩, hargs⟩ := hdumps
  unfold ConfigUtils.handleDumpSystem
  rw [if_neg (by rw [hlist, hsystem]; decide)]
  by_cases hnil : param.opts.systemArgs = []
  · -- The cluster is the second of the two groups.
    have hloop : Meets inv (ConfigUtils.getConfigs table param.uid
        ["group_system_base", "group_system_system"] none) post :=
      Meets.foldlM_of_mem (List.mem_cons_of_mem _ List.mem_cons_self)
        (fun _ _ => h.config trivial) (hhit none) (fun _ _ => hpost.config trivial)
    obtain ⟨st', hrun, hst'⟩ := hloop _ (h.reset hst.1)
    rw [if_pos hnil, hrun]
    exact ⟨{ st' with isDumpSystemSystem := true }, rfl, hset st' hst', rfl⟩
  · obtain ⟨st', hrun, hst'⟩ := h.handleDumpSystemArgs_hit hpost hset
      (hhit (some ((OptionArgs.clone none).setStrList param.opts.systemArgs)))
      (hargs.resolve_left hnil) false _ ((h.withFlag false).reset hst)
    rw [if_neg hnil]
    exact ⟨st'.resetCurrent, Option.map_eq_some_iff.mpr ⟨st', hrun, rfl⟩,
      (hpost.withFlag true).reset hst'⟩

/-! ## The whole list -/

/-- What the handlers establish from the initial state on holds of the state whose
    list `GetDumperConfigs` returns. -/
theorem exists_getDumperConfigs_of_meets {pre mid post : ConfigUtils → Prop}
    (hinit : pre { cpuInfos := sys.getCpuInfos })
    (hsystem : Meets pre (handleDumpSystem table param) mid)
    (hhandlers : Meets mid (runHandlers (sectionHandlers table sys param)) post) :
    ∃ st, getDumperConfigs table sys param = some st.dumpCfgs ∧ post st := by
  obtain ⟨st, hrun, hst⟩ := hsystem.seq hhandlers _ hinit
  refine ⟨st, ?_, hst⟩
  obtain ⟨st₁, hrun₁, hrun₂⟩ := Option.bind_eq_some_iff.mp hrun
  simp only [getDumperConfigs, hrun₁, Option.bind_eq_bind, Option.bind_some, hrun₂]

end Rules

end HiDumper.Spec
