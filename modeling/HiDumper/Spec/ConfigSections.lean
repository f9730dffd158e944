import HiDumper.Spec.ConfigHandlers

/-!
# What a root request dumps

Five sections leave their work to the system cluster when that one is dumped as
well. For the table of the service and a root caller this file says exactly when
every dumper of the groups these sections stand for is in the executor list: the
cluster has the dumpers of the cpu and memory sections, but not those of the
storage and net sections, and the storage handler looks at the pid of the memory
section.

Key results:
* `meets_dumps_of_produces`: a group in the list brings the dumpers it lists
* `not_dumps_of_avoids`: a dumper that no requested group leads to is not in the list
* `getDumperConfigs_covers_iff`: the exact condition
-/

namespace HiDumper.Spec

open HiDumper.Native HiDumper.Native.ConfigUtils Runs

/-- The list has a configuration of the dumper named `dumper`. -/
def Dumps (cfgs : List ListedCfg) (dumper : String) : Prop :=
  ∃ entry ∈ cfgs, entry.cfg.isDumper = true ∧ entry.cfg.name = dumper

/-- The groups that the cpufreq, cpuusage, mem, storage and net sections of a
    request select, each for its own pid option. -/
def selectedGroups (param : DumperParameter) : List String :=
  (if param.opts.isDumpCpuFreq then ["group_cpufreq"] else []) ++
  (if param.opts.isDumpCpuUsage then ["group_cpuusage"] else []) ++
  (if param.opts.isDumpMem then ["group_memory"] else []) ++
  (if param.opts.isDumpStorage then [storageGroup param] else []) ++
  (if param.opts.isDumpNet then netGroups param else [])

/-- The list is computed and has every dumper that a selected group names. -/
def Covers (table : ConfigData) (sys : System) (param : DumperParameter) : Prop :=
  ∃ cfgs, getDumperConfigs table sys param = some cfgs ∧
    ∀ name ∈ selectedGroups param, ∀ group, table.findGroup name = some group →
      ∀ dumper ∈ group.list, Dumps cfgs dumper

/-! ## What is in the list -/

section Dumped

variable {table : ConfigData} {sys : System} {uid : Int}

/-- The cpus are known, and `dumper` is in the list. -/
def DumpsWith (cpuInfos : List Int) (dumper : String) (st : ConfigUtils) : Prop :=
  st.cpuInfos = cpuInfos ∧ Dumps st.dumpCfgs dumper

/-- More entries take nothing away. -/
theorem Dumps.append {cfgs : List ListedCfg} {dumper : String} (h : Dumps cfgs dumper)
    (entries : List ListedCfg) : Dumps (cfgs ++ entries) dumper := by
  obtain ⟨entry, hentry, hcfg⟩ := h
  exact ⟨entry, List.mem_append_left entries hentry, hcfg⟩

/-- What does not look at the current processes is an invariant if `GetConfig` keeps it. -/
private theorem sectionInv_of_congr {call : String → Option OptionArgs → Prop}
    {inv : ConfigUtils → Prop}
    (hcongr : ∀ {st st' : ConfigUtils}, inv st → st'.cpuInfos = st.cpuInfos →
      st'.dumpCfgs = st.dumpCfgs → inv st')
    (hconfig : ∀ {name args}, call name args → Meets inv (getConfig table uid · name args) inv) :
    SectionInv table sys uid call inv := by
  have hchoose : ∀ {choose st}, ChoosesOnly choose → inv st → inv (choose st) :=
    fun hchooses hst => hcongr hst (hchooses _).1 (hchooses _).2.1
  constructor
  case reset => exact hchoose choosesOnly_resetCurrent
  case merge => exact fun pid => hchoose (choosesOnly_mergePidInfos pid)
  case mergeDebug => exact fun pid hst => hchoose (choosesOnly_mergeDebugPidInfos pid) hst
  case config => exact hconfig

/-- So is what also survives the growth of the list. -/
private theorem sectionInv_of_append (hacyclic : Layering.Acyclic (Includes table))
    {inv : ConfigUtils → Prop}
    (hcongr : ∀ {st st' : ConfigUtils}, inv st → st'.cpuInfos = st.cpuInfos →
      st'.dumpCfgs = st.dumpCfgs → inv st')
    (happend : ∀ st entries, inv st → inv { st with dumpCfgs := st.dumpCfgs ++ entries }) :
    SectionInv table sys uid (fun _ _ => True) inv := by
  refine sectionInv_of_congr hcongr fun {name args} _ st hst => ?_
  obtain ⟨entries, hrun, -⟩ := exists_getConfig hacyclic uid st name args
  exact ⟨_, hrun, happend st entries hst⟩

/-- No section changes the CPUs. -/
private theorem sectionInv_cpuInfos (hacyclic : Layering.Acyclic (Includes table))
    (cpuInfos : List Int) :
    SectionInv table sys uid (fun _ _ => True) (fun st => st.cpuInfos = cpuInfos) :=
  sectionInv_of_append hacyclic (fun hst hcpu _ => hcpu.trans hst) (fun _ _ hst => hst)

/-- No section takes an entry out of the list. -/
private theorem sectionInv_dumpsWith (hacyclic : Layering.Acyclic (Includes table))
    (cpuInfos : List Int)
    (dumper : String) :
    SectionInv table sys uid (fun _ _ => True) (DumpsWith cpuInfos dumper) :=
  sectionInv_of_append hacyclic
    (fun hst hcpu hcfgs => ⟨hcpu.trans hst.1, by rw [hcfgs]; exact hst.2⟩)
    (fun _ entries hst => ⟨hst.1, hst.2.append entries⟩)

/-- `GetConfig` on a group that produces a dumper brings this dumper. -/
theorem meets_dumps_of_produces (hacyclic : Layering.Acyclic (Includes table)) {name : String}
    {args : Option OptionArgs} {cpuInfos : List Int} {dumper : String}
    (hname : ¬ startWith name ConfigData.configDumper_)
    (hgroup : startWith name ConfigData.configGroup_)
    (h : ∀ st : ConfigUtils, st.cpuInfos = cpuInfos → ∃ cfg, ∃ depth ≤ ConfigData.nestMax,
      cfg.isDumper = true ∧ cfg.name = dumper ∧ Produces table st uid name args .none cfg depth) :
    Meets (fun st => st.cpuInfos = cpuInfos) (getConfig table uid · name args)
      (DumpsWith cpuInfos dumper) := by
  intro st hst
  obtain ⟨cfg, depth, hdepth, hcls, hnamed, hproduces⟩ := h st hst
  obtain ⟨entries, hrun, entry, hentry, hentryName, hentryCls⟩ :=
    exists_getConfig_of_produces hacyclic hname hgroup hproduces hdepth
  refine ⟨_, hrun, hst, entry, List.mem_append_right _ hentry, ?_, ?_⟩
  · rw [hentryCls, hcls]
  · rw [hentryName, hnamed]

end Dumped

/-! ## Groups that lead to a dumper -/

/-- Does `GetGroup` run through a group for a root caller, whatever the current
    processes are? -/
def runsAlways (hasCpu : Bool) (group : GroupCfg) : Bool :=
  if group.expand then group.type = .grouptypeCpuid && hasCpu
  else group.type = .none || group.type = .grouptypePid

/-- Does group `name` lead a root caller to `dumper`, by at most `depth` steps to a
    minigroup? `hasCpu` says that there is a cpu. -/
def leadsTo (table : ConfigData) (hasCpu : Bool) (dumper : String) : Nat → String → Bool
  | 0, _ => false
  | depth + 1, name =>
    (table.findGroup name).any fun group =>
      runsAlways hasCpu group &&
      (group.list.all fun item => startWith item ConfigData.configDumper_ ||
        startWith item ConfigData.configMinigroup_) &&
      ((group.list.contains dumper && startWith dumper ConfigData.configDumper_) ||
        group.list.any fun item => startWith item ConfigData.configMinigroup_ &&
          !startWith item ConfigData.configDumper_ && leadsTo table hasCpu dumper depth item)

section Leads

variable {table : ConfigData} {st : ConfigUtils}

/-- A group that always runs is expanded at least once. -/
private theorem exists_expansions_of_runsAlways {hasCpu : Bool} {group : GroupCfg}
    {args : Option OptionArgs} {level : DumperConstant} (h : runsAlways hasCpu group = true)
    (hcpu : hasCpu = true → st.cpuInfos ≠ []) :
    ∃ runs run, expansions st rootUid group args level = some runs ∧ run ∈ runs := by
  unfold runsAlways at h
  unfold expansions
  -- A group that is not expanded runs once, for a root caller also if it is about a pid.
  cases hexpand : group.expand
  · simp only [hexpand, Bool.false_eq_true, if_false, Bool.or_eq_true, decide_eq_true_eq] at h
    simp only [Bool.false_eq_true, false_and, if_false]
    cases h with
    | inl htype => exact ⟨[(args, level)], _, by rw [htype]; rfl, List.mem_singleton_self _⟩
    | inr htype => exact ⟨[_], _, by rw [htype]; rfl, List.mem_singleton_self _⟩
  · simp only [hexpand, if_true, Bool.and_eq_true, decide_eq_true_eq] at h
    obtain ⟨cpuId, hmem⟩ := List.exists_mem_of_ne_nil _ (hcpu h.2)
    refine ⟨st.cpuInfos.map fun cpuId => (some ((OptionArgs.clone args).setCpuId cpuId), level), _,
      ?_, List.mem_map_of_mem hmem⟩
    rw [h.1]
    rfl

/-- Every dumper of the table has its name on an item of a dumper class, and its
    items have no other names. -/
def dumpersNamed (table : ConfigData) : Bool :=
  table.dumpers.all fun dumper =>
    (dumper.list.any fun item => item.name = dumper.name && item.cls.isDumper) &&
      dumper.list.all fun item => item.name = dumper.name || item.name = ""

/-- A dumper that is found under a name is one of the table with that name. -/
private theorem name_of_findDumper {name : String} {dumper : DumperCfg}
    (h : table.findDumper name = some dumper) : dumper ∈ table.dumpers ∧ dumper.name = name := by
  refine ⟨List.mem_of_find?_eq_some h, ?_⟩
  have hmatch := List.find?_some h
  simp only [ne_eq, Bool.and_eq_true, decide_eq_true_eq] at hmatch
  exact hmatch.2.symm

/-- A dumper is no filter. -/
private theorem isFilter_of_isDumper (cls : DumperConstant) (h : cls.isDumper = true) :
    cls.isFilter = false := by
  cases cls <;> first | rfl | exact nomatch h

/-- A dumper that is found has an entry with its name. -/
private theorem exists_named_of_findDumper (hnamed : dumpersNamed table = true) {name : String}
    (h : (table.findDumper name).isSome) (args : Option OptionArgs) (level : DumperConstant) :
    ∃ cfg ∈ (getDumper table name args level).2, cfg.isDumper = true ∧ cfg.name = name := by
  obtain ⟨dumper, hfind⟩ := Option.isSome_iff_exists.mp h
  obtain ⟨hmem, rfl⟩ := name_of_findDumper hfind
  simp only [dumpersNamed, List.all_eq_true, Bool.and_eq_true, List.any_eq_true,
    decide_eq_true_eq] at hnamed
  obtain ⟨item, hitem, hname, hcls⟩ := (hnamed dumper hmem).1
  refine ⟨dumpCfgOfItem item args, ?_, hcls, hname⟩
  simp only [getDumper, hfind]
  refine List.mem_map_of_mem (List.mem_filter.mpr ⟨hitem, ?_⟩)
  simp [skipsItem, isFilter_of_isDumper item.cls hcls]

/-- Where the table leads from a name to a dumper, the expansion of the name produces it. -/
private theorem produces_of_leadsTo (hnamed : dumpersNamed table = true) {hasCpu : Bool}
    {dumper : String}
    (hfind : (table.findDumper dumper).isSome) (hcpu : hasCpu = true → st.cpuInfos ≠ [])
    {n : Nat} {name : String} (h : leadsTo table hasCpu dumper n name = true)
    (args : Option OptionArgs) (level : DumperConstant) :
    ∃ cfg, ∃ depth ≤ 2 * n, cfg.isDumper = true ∧ cfg.name = dumper ∧
      Produces table st rootUid name args level cfg depth := by
  -- Induction on the steps to minigroups, as in the check.
  induction n generalizing name args level with
  | zero => exact nomatch h
  | succ n ih =>
    simp only [leadsTo, Option.any_eq_true, Bool.and_eq_true, Bool.or_eq_true,
      List.all_eq_true, List.any_eq_true, Bool.not_eq_true', List.contains_iff_mem] at h
    obtain ⟨group, hgroup, ⟨hruns, hlisted⟩, hleads⟩ := h
    obtain ⟨runs, run, hexp, hrun⟩ := exists_expansions_of_runsAlways hruns hcpu
    cases hleads with
    | inl hdirect =>
      obtain ⟨cfg, hcfg, hcls, hname⟩ := exists_named_of_findDumper hnamed hfind run.1 run.2
      exact ⟨cfg, 2, by omega, hcls, hname,
        .dumper hgroup hlisted hexp hrun hdirect.1 hdirect.2 hcfg⟩
    | inr hmini =>
      obtain ⟨item, hitem, ⟨hhead, hdumper⟩, hnext⟩ := hmini
      obtain ⟨cfg, depth, hdepth, hcls, hname, hproduces⟩ := ih hnext run.1 run.2
      refine ⟨cfg, depth + 2, by omega, hcls, hname, ?_⟩
      exact .minigroup hgroup hlisted hexp hrun hitem hhead (by rw [hdumper]; decide) hproduces

/-- `GetConfig` of a root caller on a group that leads to a dumper brings it. -/
private theorem meets_dumps_of_leadsTo (hacyclic : Layering.Acyclic (Includes table))
    (hnamed : dumpersNamed table = true) {hasCpu : Bool} {dumper name : String}
    (hfind : (table.findDumper dumper).isSome)
    (hdumper : startWith name ConfigData.configDumper_ = false)
    (hgroup : startWith name ConfigData.configGroup_ = true) {cpuInfos : List Int}
    (hcpu : hasCpu = true → cpuInfos ≠ [])
    (h : leadsTo table hasCpu dumper 5 name = true) (args : Option OptionArgs) :
    Meets (fun st => st.cpuInfos = cpuInfos) (getConfig table rootUid · name args)
      (DumpsWith cpuInfos dumper) := by
  refine meets_dumps_of_produces hacyclic (by rw [hdumper]; decide) hgroup fun st hst => ?_
  exact produces_of_leadsTo hnamed hfind (by rw [hst]; exact hcpu) h args .none

end Leads

/-! ## Groups that avoid a dumper -/

/-- Outside `bad`, no group lists `dumper` or a group of `bad`; expanded cpu groups
    do not count if there is no cpu. -/
def avoids (table : ConfigData) (hasCpu : Bool) (bad : List String) (dumper : String) : Bool :=
  table.groups.all fun group =>
    bad.contains group.name ||
      (group.name ≠ dumper &&
        ((!hasCpu && group.expand && group.type = .grouptypeCpuid) ||
          group.list.all fun item => item ≠ dumper && !bad.contains item))

/-- The cpus are known, and no entry is named `dumper`. -/
def LacksWith (cpuInfos : List Int) (dumper : String) (st : ConfigUtils) : Prop :=
  st.cpuInfos = cpuInfos ∧ ∀ entry ∈ st.dumpCfgs, entry.cfg.name ≠ dumper

section Avoids

variable {table : ConfigData} {sys : System} {st : ConfigUtils} {uid : Int} {bad : List String}
  {dumper : String}

/-- The entries of a dumper have its name or none. -/
private theorem name_of_mem_getDumper (hnamed : dumpersNamed table = true) {name : String}
    {args : Option OptionArgs} {level : DumperConstant} {cfg : DumpCfg}
    (h : cfg ∈ (getDumper table name args level).2) : cfg.name = name ∨ cfg.name = "" := by
  obtain ⟨found, item, hfind, hitem, rfl⟩ := mem_getDumper h
  obtain ⟨hmem, rfl⟩ := name_of_findDumper hfind
  simp only [dumpersNamed, List.all_eq_true, Bool.and_eq_true, Bool.or_eq_true,
    decide_eq_true_eq] at hnamed
  exact (hnamed found hmem).2 item hitem

private theorem ne_of_mem_getDumper (hnamed : dumpersNamed table = true) (hdumper : dumper ≠ "")
    {name : String} (hne : name ≠ dumper) {args : Option OptionArgs} {level : DumperConstant} :
    ∀ cfg ∈ (getDumper table name args level).2, cfg.name ≠ dumper := by
  intro cfg hcfg heq
  cases name_of_mem_getDumper hnamed hcfg with
  | inl hname => exact hne (hname.symm.trans heq)
  | inr hname => exact hdumper (heq.symm.trans hname)

/-- Where the table does not lead to a dumper, no expansion has it. -/
private theorem expansionInv_of_avoids (hnamed : dumpersNamed table = true) (hdumper : dumper ≠ "")
    (h : avoids table (!st.cpuInfos.isEmpty) bad dumper = true) :
    ExpansionInv table st uid (fun name _ => name ∉ bad) (fun cfg => cfg.name ≠ dumper) := by
  -- What the check says about a group that a call outside `bad` finds.
  have hcheck : ∀ {name group}, name ∉ bad → table.findGroup name = some group →
      group.name ≠ dumper ∧ ((st.cpuInfos = [] ∧ group.expand = true ∧
        group.type = .grouptypeCpuid) ∨ ∀ item ∈ group.list, item ≠ dumper ∧ item ∉ bad) := by
    intro name group hname hgroup
    obtain ⟨hmem, rfl⟩ := name_of_findGroup hgroup
    have hrow := List.all_eq_true.mp h group hmem
    simp only [Bool.or_eq_true, Bool.and_eq_true, decide_eq_true_eq, ne_eq, Bool.not_eq_true',
      Bool.not_eq_false', List.isEmpty_iff, List.all_eq_true, List.contains_eq_mem,
      decide_eq_false_iff_not, and_assoc] at hrow
    exact hrow.resolve_left hname
  -- An expanded cpu group has no runs when there is no cpu.
  have hlist : ∀ {name group args level runs run}, name ∉ bad →
      table.findGroup name = some group → expansions st uid group args level = some runs →
      run ∈ runs → ∀ item ∈ group.list, item ≠ dumper ∧ item ∉ bad := by
    intro name group args level runs run hname hgroup hruns hrun
    cases (hcheck hname hgroup).2 with
    | inl hcpu =>
      simp only [expansions, hcpu.1, hcpu.2.1, hcpu.2.2] at hruns
      rw [← Option.some.inj hruns] at hrun
      exact nomatch hrun
    | inr hitems => exact hitems
  exact {
    node := fun hname hgroup => (hcheck hname hgroup).1
    dumper := fun hname hgroup hruns hrun hitem =>
      ne_of_mem_getDumper hnamed hdumper (hlist hname hgroup hruns hrun _ hitem).1
    minigroup := fun hname hgroup hruns hrun hitem _ =>
      (hlist hname hgroup hruns hrun _ hitem).2 }

private theorem sectionInv_lacksWith (hacyclic : Layering.Acyclic (Includes table))
    (hnamed : dumpersNamed table = true) (hdumper : dumper ≠ "") {cpuInfos : List Int}
    (h : avoids table (!cpuInfos.isEmpty) bad dumper = true) :
    SectionInv table sys uid (fun name _ => name ∉ dumper :: bad) (LacksWith cpuInfos dumper) := by
  refine sectionInv_of_congr (fun hst hcpu hcfgs => ⟨hcpu.trans hst.1, ?_⟩)
    fun {name args} hname => ?_
  · rw [hcfgs]
    exact hst.2
  rw [List.mem_cons, not_or] at hname
  intro st hst
  obtain ⟨entries, hrun, hgood⟩ := exists_getConfig hacyclic uid st name args
  have hentries := hgood (fun cfg => cfg.name ≠ dumper) (fun _ _ hcfg => hcfg)
    (ne_of_mem_getDumper hnamed hdumper hname.1)
    ((expansionInv_of_avoids hnamed hdumper (by rw [hst.1]; exact h)).getGroup _ hname.2)
  refine ⟨_, hrun, hst.1, fun entry hentry => ?_⟩
  cases List.mem_append.mp hentry with
  | inl hold => exact hst.2 entry hold
  | inr hnew => exact hentries entry hnew

/-- A dumper that nothing requested leads to is not in the list. -/
theorem not_dumps_of_avoids (hacyclic : Layering.Acyclic (Includes table))
    (hnamed : dumpersNamed table = true) (hdumper : dumper ≠ "") {param : DumperParameter}
    (h : avoids table (!sys.getCpuInfos.isEmpty) bad dumper = true)
    (hsystem : ∀ name args, SystemRequested param name args → name ∉ dumper :: bad)
    (hrequested : ∀ name args, Requested param (dumpsSystemSystem param) name args →
      name ∉ dumper :: bad) {cfgs : List ListedCfg}
    (hrun : getDumperConfigs table sys param = some cfgs) : ¬ Dumps cfgs dumper := by
  have hsection : SectionInv table sys param.uid (fun name _ => name ∉ dumper :: bad)
      (LacksWith sys.getCpuInfos dumper) := sectionInv_lacksWith hacyclic hnamed hdumper h
  obtain ⟨st, hrun', hst⟩ := exists_getDumperConfigs_of_meets
    ⟨⟨rfl, fun _ hentry => nomatch hentry⟩, rfl⟩
    (hsection.handleDumpSystem (fun _ hst => hst) hsystem)
    ((hsection.withFlag _).runHandlers (fun _ hst => hst.2) hrequested)
  rw [hrun'] at hrun
  rw [← Option.some.inj hrun]
  rintro ⟨entry, hentry, -, hname⟩
  exact hst.1.2 entry hentry hname

end Avoids

/-! ## Requests of a root caller -/

section Root

variable {sys : System} {param : DumperParameter}

/-- In the service's table, group `name` leads to `dumper`. -/
def brings (hasCpu : Bool) (name dumper : String) : Bool :=
  (ConfigData.builtin.findDumper dumper).isSome && !startWith name ConfigData.configDumper_ &&
    startWith name ConfigData.configGroup_ && leadsTo .builtin hasCpu dumper 5 name

/-- Group `name` leads to all dumpers that `listed` lists. -/
def bringsAll (hasCpu : Bool) (name listed : String) : Bool :=
  (ConfigData.builtin.findGroup listed).all fun group => group.list.all (brings hasCpu name)

/-- The checks on the service's table. For the cpu and memory sections, their group brings
    what the system cluster brings in its place; for the storage and net sections, their
    groups bring their dumpers. -/
structure TableBrings : Prop where
  named : dumpersNamed ConfigData.builtin = true
  cpuFreq : bringsAll true "group_cpufreq" "group_cpufreq" = true
  cpuFreqSystem : bringsAll true "group_system_system" "group_cpufreq" = true
  cpuUsage : bringsAll false "group_cpuusage" "group_cpuusage" = true
  cpuUsageSystem : bringsAll false "group_system_system" "group_cpuusage" = true
  memory : bringsAll false "group_memory" "group_memory" = true
  memorySystem : bringsAll false "group_system_system" "group_memory" = true
  storage : bringsAll false "group_storage" "group_storage" = true
  storageIo : bringsAll false "group_storage io" "group_storage io" = true
  net : bringsAll false "group_net" "group_net" = true
  netTraffic : bringsAll false "group_net traffic" "group_net traffic" = true

/-- Looking up a name that brings a dumper lists the dumper. -/
private theorem meets_dumps_of_brings (htable : TableBrings)
    {hasCpu : Bool} {name dumper : String} {cpuInfos : List Int}
    (hcpu : hasCpu = true → cpuInfos ≠ []) (h : brings hasCpu name dumper = true)
    (args : Option OptionArgs) :
    Meets (fun st => st.cpuInfos = cpuInfos) (getConfig .builtin rootUid · name args)
      (DumpsWith cpuInfos dumper) := by
  simp only [brings, Bool.and_eq_true, Bool.not_eq_true'] at h
  obtain ⟨⟨⟨hfind, hdumper⟩, hgroup⟩, hleads⟩ := h
  exact meets_dumps_of_leadsTo acyclic_builtin htable.named hfind hdumper hgroup hcpu
    hleads args

/-- The CPUs are collected once and kept. -/
theorem sectionInv_cpuInfos_builtin : SectionInv .builtin sys param.uid (fun _ _ => True)
    (fun st => st.cpuInfos = sys.getCpuInfos) :=
  sectionInv_cpuInfos acyclic_builtin _

private theorem sectionInv_dumpsWith_builtin (dumper : String) :
    SectionInv .builtin sys param.uid (fun _ _ => True) (DumpsWith sys.getCpuInfos dumper) :=
  sectionInv_dumpsWith acyclic_builtin _ _

/-- The configuration of the repository always gives a list. -/
private theorem exists_getDumperConfigs (sys : System) (param : DumperParameter) :
    ∃ cfgs, getDumperConfigs .builtin sys param = some cfgs := by
  have hinv := @sectionInv_cpuInfos_builtin sys param
  obtain ⟨st, hrun, -⟩ := exists_getDumperConfigs_of_meets ⟨rfl, rfl⟩
    (hinv.handleDumpSystem (fun _ hst => hst) (fun _ _ _ => trivial))
    ((hinv.withFlag _).runHandlers (fun _ hst => hst.2) (fun _ _ _ => trivial))
  exact ⟨st.dumpCfgs, hrun⟩

/-- What a section of a root request asks for brings the dumpers it leads to. -/
private theorem dumps_of_section (htable : TableBrings)
    {hasCpu : Bool} {name dumper : String} {selected : ConfigUtils → Bool}
    {choose : ConfigUtils → ConfigUtils} {names : List String} (huid : param.uid = rootUid)
    (hmem : (fun st => runSection .builtin param.uid (selected st) choose names none st) ∈
      sectionHandlers .builtin sys param)
    (hchoose : ChoosesOnly choose)
    (hselected : ∀ st : ConfigUtils, st.isDumpSystemSystem = dumpsSystemSystem param → selected st)
    (hname : name ∈ names) (hcpu : hasCpu = true → sys.getCpuInfos ≠ [])
    (hbrings : brings hasCpu name dumper = true) {cfgs : List ListedCfg}
    (hrun : getDumperConfigs .builtin sys param = some cfgs) : Dumps cfgs dumper := by
  have hinv := @sectionInv_cpuInfos_builtin sys param
  have hpost := @sectionInv_dumpsWith_builtin sys param dumper
  -- The request of the section itself, among the names it asks for.
  have hget : Meets (WithFlag (fun st => st.cpuInfos = sys.getCpuInfos) (dumpsSystemSystem param))
      (getConfig .builtin param.uid · name none)
      (WithFlag (DumpsWith sys.getCpuInfos dumper) (dumpsSystemSystem param)) := by
    intro st hst
    obtain ⟨st', hrun, hst'⟩ := meets_dumps_of_brings htable hcpu hbrings none st hst.1
    rw [← huid] at hrun
    exact ⟨st', hrun, hst', (getConfig_flag hrun).trans hst.2⟩
  have hhit := (hinv.withFlag (dumpsSystemSystem param)).runSection_hit
    (hpost.withFlag (dumpsSystemSystem param))
    (fun {st} hst => ⟨(hchoose st).1.trans hst.1, (hchoose st).2.2.trans hst.2⟩)
    (fun st hst => hselected st hst.2) hname hget
  obtain ⟨st, hrun', hst⟩ := exists_getDumperConfigs_of_meets ⟨rfl, rfl⟩
    (hinv.handleDumpSystem (fun _ hst => hst) (fun _ _ _ => trivial))
    ((hinv.withFlag (dumpsSystemSystem param)).runHandlers_hit (hpost.withFlag _)
      (fun _ hst => hst.2) (fun _ hst => hst.2) hmem hhit)
  rw [hrun'] at hrun
  exact Option.some.inj hrun ▸ hst.1.2

/-- The system cluster brings the dumpers it leads to. -/
private theorem dumps_of_system (htable : TableBrings)
    {hasCpu : Bool} {dumper : String} (huid : param.uid = rootUid)
    (hdumps : dumpsSystemSystem param = true) (hcpu : hasCpu = true → sys.getCpuInfos ≠ [])
    (hbrings : brings hasCpu "group_system_system" dumper = true) {cfgs : List ListedCfg}
    (hrun : getDumperConfigs .builtin sys param = some cfgs) : Dumps cfgs dumper := by
  have hinv := @sectionInv_cpuInfos_builtin sys param
  have hpost := @sectionInv_dumpsWith_builtin sys param dumper
  have hget : ∀ args, Meets (fun st => st.cpuInfos = sys.getCpuInfos)
      (getConfig .builtin param.uid · "group_system_system" args)
      (DumpsWith sys.getCpuInfos dumper) := by
    rw [huid]
    exact meets_dumps_of_brings htable hcpu hbrings
  obtain ⟨st, hrun', hst⟩ := exists_getDumperConfigs_of_meets ⟨rfl, rfl⟩
    (hinv.handleDumpSystem_hit hpost (fun _ hst => hst) hget hdumps)
    ((hpost.withFlag true).runHandlers (fun _ hst => hst.2) (fun _ _ _ => trivial))
  rw [hrun'] at hrun
  exact Option.some.inj hrun ▸ hst.1.2

/-- A group that brings everything it lists brings each dumper of its list. -/
private theorem brings_of_bringsAll {hasCpu : Bool} {name listed dumper : String} {group : GroupCfg}
    (h : bringsAll hasCpu name listed = true)
    (hgroup : ConfigData.builtin.findGroup listed = some group) (hmem : dumper ∈ group.list) :
    brings hasCpu name dumper = true := by
  unfold bringsAll at h
  rw [hgroup, Option.all_some, List.all_eq_true] at h
  exact h dumper hmem

/-- The condition under which no section is lost. -/
def KeepsSections (sys : System) (param : DumperParameter) : Prop :=
  (param.opts.isDumpCpuFreq = true → sys.getCpuInfos ≠ []) ∧
  (param.opts.isDumpStorage = true → dumpsSystemSystem param = true → 0 ≤ param.opts.memPid) ∧
  (param.opts.isDumpNet = true → dumpsSystemSystem param = true → 0 ≤ param.opts.netPid)

/-- A section that gives way to the system cluster on a negative pid: one of the
    two brings its dumpers. -/
private theorem dumps_of_shared (htable : TableBrings)
    {hasCpu flag : Bool} {pid : Int} {name dumper : String}
    {choose : ConfigUtils → ConfigUtils} (huid : param.uid = rootUid)
    (hmem : (fun st => runSection .builtin param.uid
      (flag && !(st.isDumpSystemSystem && pid < 0)) choose [name] none st) ∈
      sectionHandlers .builtin sys param)
    (hchoose : ChoosesOnly choose)
    (hflag : flag = true) (hcpu : hasCpu = true → sys.getCpuInfos ≠ [])
    (hown : brings hasCpu name dumper = true)
    (hsystem : brings hasCpu "group_system_system" dumper = true) {cfgs : List ListedCfg}
    (hrun : getDumperConfigs .builtin sys param = some cfgs) : Dumps cfgs dumper := by
  -- Either the section is skipped, and then the cluster was dumped, or it runs.
  by_cases hskip : (dumpsSystemSystem param && pid < 0) = true
  · exact dumps_of_system htable huid (Bool.and_eq_true_iff.mp hskip).1 hcpu hsystem hrun
  · refine dumps_of_section htable huid hmem hchoose (fun st hst => ?_) List.mem_cons_self hcpu
      hown hrun
    rw [hst, hflag, Bool.eq_false_iff.mpr hskip]
    rfl

private theorem mem_ite_nil {p : Bool} {l : List String} {name : String}
    (h : name ∈ if p then l else []) : p = true ∧ name ∈ l := by
  cases p
  · exact nomatch h
  · exact ⟨rfl, h⟩

/-! The five sections, each for a dumper that its group lists. -/

variable {cfgs : List ListedCfg} {group : GroupCfg} {name dumper : String}

private theorem no_cpu_needed : false = true → sys.getCpuInfos ≠ [] := fun hfalse => nomatch hfalse

/-- cpufreq: one copy for each cpu, in the section or in the cluster. -/
private theorem dumps_cpuFreq (htable : TableBrings)
    (huid : param.uid = rootUid) (hflag : param.opts.isDumpCpuFreq = true)
    (hcpu : sys.getCpuInfos ≠ []) (hgroup : ConfigData.builtin.findGroup "group_cpufreq" = some group)
    (hdumper : dumper ∈ group.list) (hrun : getDumperConfigs .builtin sys param = some cfgs) :
    Dumps cfgs dumper := by
  by_cases hsys : dumpsSystemSystem param = true
  · exact dumps_of_system htable huid hsys (fun _ => hcpu)
      (brings_of_bringsAll htable.cpuFreqSystem hgroup hdumper) hrun
  · have hmem : handleDumpCpuFreq .builtin param ∈ sectionHandlers .builtin sys param := by
      simp only [sectionHandlers, List.mem_cons, true_or]
    refine dumps_of_section htable huid hmem choosesOnly_id (fun st hst => ?_) List.mem_cons_self
      (fun _ => hcpu) (brings_of_bringsAll htable.cpuFreq hgroup hdumper) hrun
    rw [hflag, hst, Bool.eq_false_iff.mpr hsys]
    rfl

/-- The option `--cpuusage` brings the dumpers of its group. -/
private theorem dumps_cpuUsage (htable : TableBrings)
    (huid : param.uid = rootUid) (hflag : param.opts.isDumpCpuUsage = true)
    (hgroup : ConfigData.builtin.findGroup "group_cpuusage" = some group)
    (hdumper : dumper ∈ group.list) (hrun : getDumperConfigs .builtin sys param = some cfgs) :
    Dumps cfgs dumper := by
  have hmem : handleDumpCpuUsage .builtin sys param ∈ sectionHandlers .builtin sys param := by
    simp only [sectionHandlers, List.mem_cons, true_or, or_true]
  exact dumps_of_shared htable huid hmem (choosesOnly_mergePidInfos _) hflag no_cpu_needed
    (brings_of_bringsAll htable.cpuUsage hgroup hdumper)
    (brings_of_bringsAll htable.cpuUsageSystem hgroup hdumper) hrun

private theorem dumps_mem (htable : TableBrings)
    (huid : param.uid = rootUid) (hflag : param.opts.isDumpMem = true)
    (hgroup : ConfigData.builtin.findGroup "group_memory" = some group)
    (hdumper : dumper ∈ group.list) (hrun : getDumperConfigs .builtin sys param = some cfgs) :
    Dumps cfgs dumper := by
  have hmem : handleDumpMem .builtin sys param ∈ sectionHandlers .builtin sys param := by
    simp only [sectionHandlers, List.mem_cons, true_or, or_true]
  exact dumps_of_shared htable huid hmem (choosesOnly_mergePidInfos _) hflag no_cpu_needed
    (brings_of_bringsAll htable.memory hgroup hdumper)
    (brings_of_bringsAll htable.memorySystem hgroup hdumper) hrun

/-- The guard of a section that its condition in `KeepsSections` keeps open. -/
private theorem guard_of_keeps {flag : Bool} {pid : Int} {st : ConfigUtils} (hflag : flag = true)
    (hst : st.isDumpSystemSystem = dumpsSystemSystem param)
    (hkeep : dumpsSystemSystem param = true → 0 ≤ pid) :
    (flag && !(st.isDumpSystemSystem && decide (pid < 0))) = true := by
  rw [hst, hflag]
  cases hsys : dumpsSystemSystem param
  · rfl
  · have hpid := hkeep hsys
    simp only [Bool.true_and, Bool.not_eq_true', decide_eq_false_iff_not]
    omega

/-- storage: the cluster has none of its dumpers. -/
private theorem dumps_storage (htable : TableBrings)
    (huid : param.uid = rootUid) (hflag : param.opts.isDumpStorage = true)
    (hkeep : dumpsSystemSystem param = true → 0 ≤ param.opts.memPid)
    (hgroup : ConfigData.builtin.findGroup (storageGroup param) = some group)
    (hdumper : dumper ∈ group.list) (hrun : getDumperConfigs .builtin sys param = some cfgs) :
    Dumps cfgs dumper := by
  have hbrings : brings false (storageGroup param) dumper = true := by
    unfold storageGroup at hgroup ⊢
    split at hgroup
    · rename_i hpid
      rw [if_pos hpid]
      exact brings_of_bringsAll htable.storage hgroup hdumper
    · rename_i hpid
      rw [if_neg hpid]
      exact brings_of_bringsAll htable.storageIo hgroup hdumper
  have hmem : handleDumpStorage .builtin sys param ∈ sectionHandlers .builtin sys param := by
    simp only [sectionHandlers, List.mem_cons, true_or, or_true]
  exact dumps_of_section htable huid hmem (choosesOnly_mergePidInfos _)
    (fun st hst => guard_of_keeps hflag hst hkeep) List.mem_cons_self no_cpu_needed hbrings hrun

private theorem dumps_net (htable : TableBrings)
    (huid : param.uid = rootUid) (hflag : param.opts.isDumpNet = true)
    (hkeep : dumpsSystemSystem param = true → 0 ≤ param.opts.netPid)
    (hname : name ∈ netGroups param) (hgroup : ConfigData.builtin.findGroup name = some group)
    (hdumper : dumper ∈ group.list) (hrun : getDumperConfigs .builtin sys param = some cfgs) :
    Dumps cfgs dumper := by
  have hbrings : brings false name dumper = true := by
    -- With a pid the traffic alone, else both.
    have hnames : name = "group_net traffic" ∨ name = "group_net" := by
      unfold netGroups at hname
      split at hname
      · simpa using hname
      · exact .inl (by simpa using hname)
    cases hnames with
    | inl heq =>
      subst heq
      exact brings_of_bringsAll htable.netTraffic hgroup hdumper
    | inr heq =>
      subst heq
      exact brings_of_bringsAll htable.net hgroup hdumper
  have hmem : handleDumpNet .builtin sys param ∈ sectionHandlers .builtin sys param := by
    simp only [sectionHandlers, List.mem_cons, true_or, or_true]
  exact dumps_of_section htable huid hmem (choosesOnly_mergePidInfos _)
    (fun st hst => guard_of_keeps hflag hst hkeep) hname no_cpu_needed hbrings hrun

/-- If no section is skipped, everything is covered. -/
private theorem covers_of_keepsSections (htable : TableBrings)
    (huid : param.uid = rootUid) (h : KeepsSections sys param) :
    Covers .builtin sys param := by
  obtain ⟨cfgs, hrun⟩ := exists_getDumperConfigs sys param
  refine ⟨cfgs, hrun, fun name hname group hgroup dumper hdumper => ?_⟩
  simp only [selectedGroups, List.mem_append] at hname
  obtain (((hname | hname) | hname) | hname) | hname := hname <;>
    obtain ⟨hflag, hname⟩ := mem_ite_nil hname
  · exact dumps_cpuFreq htable huid hflag (h.1 hflag) (List.mem_singleton.mp hname ▸ hgroup)
      hdumper hrun
  · exact dumps_cpuUsage htable huid hflag (List.mem_singleton.mp hname ▸ hgroup) hdumper hrun
  · exact dumps_mem htable huid hflag (List.mem_singleton.mp hname ▸ hgroup) hdumper hrun
  · exact dumps_storage htable huid hflag (h.2.1 hflag) (List.mem_singleton.mp hname ▸ hgroup)
      hdumper hrun
  · exact dumps_net htable huid hflag (h.2.2 hflag) hname hgroup hdumper hrun

/-! ## Lost sections -/

/-- The requested names that are neither a system or log label nor a group of the
    storage and net sections. -/
def fixedNames : List String :=
  ["group_cpufreq", "group_cpuusage", "group_memory", "group_ability"] ++ plainNames

/-- No handler but those of storage and net can ask for `name`. -/
def leftAlone (name : String) : Bool :=
  !startWith name ConfigData.configGroupLog_ && !startWith name ConfigData.configGroupSystem_ &&
    !fixedNames.contains name

private theorem startWith_append (head rest : String) : startWith (head ++ rest) head = true := by
  unfold startWith
  rw [List.isPrefixOf_iff_prefix, String.toList_append]
  exact List.prefix_append _ _

/-- Other handlers ask for the fixed names. -/
private theorem not_leftAlone_of_mem (h : name ∈ fixedNames) : leftAlone name = false := by
  unfold leftAlone
  rw [List.contains_iff_mem.mpr h, Bool.not_true, Bool.and_false]

private theorem not_leftAlone_of_log (arg : String) :
    leftAlone (ConfigData.configGroupLog_ ++ arg) = false := by
  unfold leftAlone
  rw [startWith_append, Bool.not_true, Bool.false_and, Bool.false_and]

private theorem not_leftAlone_of_system (arg : String) :
    leftAlone (ConfigData.configGroupSystem_ ++ arg) = false := by
  unfold leftAlone
  rw [startWith_append, Bool.not_true, Bool.and_false, Bool.false_and]

private theorem not_leftAlone_of_systemRequested {args : Option OptionArgs}
    (h : SystemRequested param name args) : leftAlone name = false := by
  cases h with
  | all hname =>
    revert name
    decide
  | label _ => exact not_leftAlone_of_system _

/-- Only the storage and net handlers ask for a name that is left alone, and they
    do so behind their guards. -/
private theorem requested_cases {systemSystem : Bool} {args : Option OptionArgs}
    (h : Requested param systemSystem name args) (halone : leftAlone name = true) :
    (name = storageGroup param ∧
        (param.opts.isDumpStorage && !(systemSystem && param.opts.memPid < 0)) = true) ∨
      (name ∈ netGroups param ∧
        (param.opts.isDumpNet && !(systemSystem && param.opts.netPid < 0)) = true) := by
  -- Fixed names are not left alone, by definition.
  have hfixed : ∀ {name}, leftAlone name = true → name ∉ fixedNames := by
    intro name halone hmem
    rw [not_leftAlone_of_mem hmem] at halone
    exact nomatch halone
  cases h with
  | storage hguard => exact .inl ⟨rfl, hguard⟩
  | net hguard hname => exact .inr ⟨hname, hguard⟩
  | log _ => exact nomatch (not_leftAlone_of_log _).symm.trans halone
  | plain hname => exact absurd (List.mem_append_right _ hname) (hfixed halone)
  | cpuFreq _ => exact absurd (by decide) (hfixed halone)
  | cpuUsage _ => exact absurd (by decide) (hfixed halone)
  | mem _ => exact absurd (by decide) (hfixed halone)
  | ability => exact absurd (by decide) (hfixed halone)

/-- A dumper that only the groups `bad` lead to is lost if these are left alone by
    the other handlers and the storage and net handlers do not ask for them. -/
private theorem not_dumps_of_leftAlone (htable : TableBrings) (bad : List String)
    (hdumper : dumper ≠ "")
    (havoids : avoids .builtin (!sys.getCpuInfos.isEmpty) bad dumper = true)
    (halone : (dumper :: bad).all leftAlone = true)
    (hstorage : (param.opts.isDumpStorage && !(dumpsSystemSystem param && param.opts.memPid < 0)) =
      true → storageGroup param ∉ dumper :: bad)
    (hnet : (param.opts.isDumpNet && !(dumpsSystemSystem param && param.opts.netPid < 0)) =
      true → ∀ name ∈ netGroups param, name ∉ dumper :: bad)
    (hrun : getDumperConfigs .builtin sys param = some cfgs) : ¬ Dumps cfgs dumper := by
  rw [List.all_eq_true] at halone
  refine not_dumps_of_avoids acyclic_builtin htable.named hdumper havoids ?_ ?_ hrun
  · intro name args hname hmem
    exact nomatch (not_leftAlone_of_systemRequested hname).symm.trans (halone name hmem)
  · intro name args hname hmem
    cases requested_cases hname (halone name hmem) with
    | inl hcase => exact hstorage hcase.2 (hcase.1 ▸ hmem)
    | inr hcase => exact hnet hcase.2 name hcase.1 hmem

private theorem storageGroup_mem : storageGroup param ∈ ["group_storage", "group_storage io"] := by
  unfold storageGroup
  split <;> decide

private theorem netGroups_subset (h : name ∈ netGroups param) :
    name ∈ ["group_net traffic", "group_net"] := by
  unfold netGroups at h
  split at h
  · exact h
  · exact List.mem_cons.mpr (.inl (List.mem_singleton.mp h))

/-- The group `name` lists `dumper`, and no handler but those of storage and net asks for
    the dumper or for the groups `bad`. -/
def listsAlone (name : String) (bad : List String) (dumper : String) : Bool :=
  ((ConfigData.builtin.findGroup name).any (·.list.contains dumper)) &&
    (dumper :: bad).all leftAlone

/-- The checks on the service's table for dumpers that only one section leads to. -/
structure TableLoses : Prop where
  cpuFreq : listsAlone "group_cpufreq" [] "dumper_cpu_freq" = true
  cpuFreqAvoids : avoids .builtin false [] "dumper_cpu_freq" = true
  storage : listsAlone "group_storage" ["group_storage"] "dumper_storage_state" = true
  storageAvoids : ∀ hasCpu,
    avoids .builtin hasCpu ["group_storage"] "dumper_storage_state" = true
  storageIo : listsAlone "group_storage io" ["group_storage io"] "dumper_io_info" = true
  storageIoAvoids : ∀ hasCpu,
    avoids .builtin hasCpu ["group_storage io"] "dumper_io_info" = true
  net : listsAlone "group_net traffic" ["group_net traffic"] "dumper_traffic" = true
  netAvoids : ∀ hasCpu, avoids .builtin hasCpu ["group_net traffic"] "dumper_traffic" = true

private theorem leftAlone_of_listsAlone {name dumper : String} {bad : List String}
    (h : listsAlone name bad dumper = true) : (dumper :: bad).all leftAlone = true :=
  (Bool.and_eq_true_iff.mp h).2

/-- Without a cpu there is no copy of the cpufreq dumper. -/
private theorem not_dumps_cpuFreq (htable : TableBrings) (hlost : TableLoses)
    (hcpu : sys.getCpuInfos = [])
    (hrun : getDumperConfigs .builtin sys param = some cfgs) : ¬ Dumps cfgs "dumper_cpu_freq" := by
  refine not_dumps_of_leftAlone htable [] (by decide) ?_ (leftAlone_of_listsAlone hlost.cpuFreq)
    ?_ ?_ hrun
  · rw [hcpu]
    exact hlost.cpuFreqAvoids
  · intro _ hmem
    have hgroup := @storageGroup_mem param
    rw [List.mem_singleton.mp hmem] at hgroup
    revert hgroup
    decide
  · intro _ name hname hmem
    have hgroup := netGroups_subset hname
    rw [List.mem_singleton.mp hmem] at hgroup
    revert hgroup
    decide

/-- The guard of the storage section closed: a dumper of its group is lost. -/
private theorem not_dumps_storage (htable : TableBrings) (hlost : TableLoses)
    (hskip : (dumpsSystemSystem param && param.opts.memPid < 0) = true)
    (hrun : getDumperConfigs .builtin sys param = some cfgs) :
    ¬ Dumps cfgs "dumper_storage_state" ∧ ¬ Dumps cfgs "dumper_io_info" := by
  have hstorage : (param.opts.isDumpStorage &&
      !(dumpsSystemSystem param && param.opts.memPid < 0)) ≠ true := by
    rw [hskip, Bool.not_true, Bool.and_false]
    decide
  -- The network groups, which run in any case, bring neither storage group.
  have hnet : ∀ forbidden : List String,
      (["group_net traffic", "group_net"].all fun name => !forbidden.contains name) = true →
      ∀ name ∈ netGroups param, name ∉ forbidden := by
    intro forbidden hall name hname
    have hfree := List.all_eq_true.mp hall name (netGroups_subset hname)
    simpa using hfree
  constructor
  · exact not_dumps_of_leftAlone htable ["group_storage"] (by decide) (hlost.storageAvoids _)
      (leftAlone_of_listsAlone hlost.storage) (fun hguard => absurd hguard hstorage)
      (fun _ => hnet _ (by decide)) hrun
  · exact not_dumps_of_leftAlone htable ["group_storage io"] (by decide) (hlost.storageIoAvoids _)
      (leftAlone_of_listsAlone hlost.storageIo) (fun hguard => absurd hguard hstorage)
      (fun _ => hnet _ (by decide)) hrun

/-- In the skipped case the traffic is missing from the list. -/
private theorem not_dumps_net (htable : TableBrings) (hlost : TableLoses)
    (hskip : (dumpsSystemSystem param && param.opts.netPid < 0) = true)
    (hrun : getDumperConfigs .builtin sys param = some cfgs) : ¬ Dumps cfgs "dumper_traffic" := by
  refine not_dumps_of_leftAlone htable ["group_net traffic"] (by decide) (hlost.netAvoids _)
    (leftAlone_of_listsAlone hlost.net) ?_ ?_ hrun
  · intro _
    unfold storageGroup
    split <;> decide
  · intro hguard
    rw [hskip, Bool.not_true, Bool.and_false] at hguard
    exact nomatch hguard

/-- What a covering list has. -/
private theorem dumps_of_covers (h : Covers .builtin sys param)
    (hname : name ∈ selectedGroups param)
    {bad : List String} (hlisted : listsAlone name bad dumper = true) :
    ∃ cfgs, getDumperConfigs .builtin sys param = some cfgs ∧ Dumps cfgs dumper := by
  obtain ⟨cfgs, hrun, hdumps⟩ := h
  obtain ⟨group, hgroup, hmem⟩ :=
    Option.any_eq_true _ _ |>.mp (Bool.and_eq_true_iff.mp hlisted).1
  exact ⟨cfgs, hrun, hdumps name hname group hgroup dumper (List.contains_iff_mem.mp hmem)⟩

/-- A list that covers everything comes from a run that skipped no section. -/
private theorem keepsSections_of_covers (htable : TableBrings) (hlost : TableLoses)
    (h : Covers .builtin sys param) : KeepsSections sys param := by
  refine ⟨fun hflag hcpu => ?cpuFreq, fun hflag hsys => ?storage, fun hflag hsys => ?net⟩
  case cpuFreq =>
    have hname : "group_cpufreq" ∈ selectedGroups param := by simp [selectedGroups, hflag]
    obtain ⟨cfgs, hrun, hdumps⟩ := dumps_of_covers h hname hlost.cpuFreq
    exact not_dumps_cpuFreq htable hlost hcpu hrun hdumps
  case storage =>
    by_contra hpid
    have hskip : (dumpsSystemSystem param && param.opts.memPid < 0) = true := by
      rw [hsys, Bool.true_and, decide_eq_true_eq]
      omega
    have hname : storageGroup param ∈ selectedGroups param := by simp [selectedGroups, hflag]
    -- Which dumper is missed depends on the group that the storage pid selects.
    by_cases hown : param.opts.storagePid < 0
    · rw [storageGroup, if_pos hown] at hname
      obtain ⟨cfgs, hrun, hdumps⟩ := dumps_of_covers h hname hlost.storage
      exact (not_dumps_storage htable hlost hskip hrun).1 hdumps
    · rw [storageGroup, if_neg hown] at hname
      obtain ⟨cfgs, hrun, hdumps⟩ := dumps_of_covers h hname hlost.storageIo
      exact (not_dumps_storage htable hlost hskip hrun).2 hdumps
  case net =>
    by_contra hpid
    have hskip : (dumpsSystemSystem param && param.opts.netPid < 0) = true := by
      rw [hsys, Bool.true_and, decide_eq_true_eq]
      omega
    have hname : "group_net traffic" ∈ selectedGroups param := by
      simp [selectedGroups, netGroups, hflag]
    obtain ⟨cfgs, hrun, hdumps⟩ := dumps_of_covers h hname hlost.net
    exact not_dumps_net htable hlost hskip hrun hdumps

private theorem tableBrings : TableBrings := by constructor <;> decide +kernel

private theorem tableLoses : TableLoses := by constructor <;> decide +kernel

end Root

/-- A root request gets every dumper of the groups its sections select if and only
    if there is a cpu for the cpufreq section, and the system cluster, if dumped,
    leaves the storage section a memory pid and the net section its own pid. -/
theorem getDumperConfigs_covers_iff (sys : System) (param : DumperParameter)
    (huid : param.uid = rootUid) : Covers .builtin sys param ↔ KeepsSections sys param :=
  ⟨keepsSections_of_covers tableBrings tableLoses, covers_of_keepsSections tableBrings huid⟩

/-- A device with one cpu and no processes. -/
def oneCpu : System where
  strings := .simple
  procNames := some []
  procExists _ := false
  procStatus _ := none
  procCmdline _ := none
  cpuNames := some ["cpu0", "cpufreq"]
  applicationInfo _ := none
  debuggable := "1"
  developerMode := ""

/-- A root request for the system cluster, storage and the memory of process 1. -/
def clusterRequest : DumperParameter where
  opts :=
    { isDumpSystem := true
      isDumpCpuFreq := true
      isDumpMem := true
      memPid := 1
      isDumpStorage := true }
  uid := rootUid

/-- It loses nothing: its memory pid keeps the storage section open. -/
theorem getDumperConfigs_covers_iff_clusterRequest :
    dumpsSystemSystem clusterRequest = true ∧ Covers .builtin oneCpu clusterRequest := by
  refine ⟨rfl, (getDumperConfigs_covers_iff oneCpu _ rfl).mpr ⟨fun _ => ?_, fun _ _ => ?_, ?_⟩⟩
  · decide
  · decide
  · exact fun hnet => nomatch hnet

/-- The request without arguments dumps the system cluster and no storage dumper. -/
theorem not_covers_addSelectAll :
    ¬ Covers .builtin oneCpu ⟨DumperOpts.addSelectAll {}, rootUid⟩ := by
  intro hcovers
  have hpid := (keepsSections_of_covers tableBrings tableLoses hcovers).2.1 rfl rfl
  exact absurd hpid (by decide)

end HiDumper.Spec
