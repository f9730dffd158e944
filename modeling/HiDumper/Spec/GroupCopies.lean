import HiDumper.ForStd.Walks
import HiDumper.Spec.ConfigExpansion

/-!
# What the expansion of a group has in it

`groupEntries` states what a group stands for, without trees, counters and lists that are
filled on the way: for each process, cpu or caller it is dumped for, one copy of each
dumper it lists, and in the place of a minigroup what that stands for. The nodes of the
groups themselves stand before their copies.

The list that `GetGroup` makes of a group has exactly these entries, in this order, as
long as no dumper stands more than `NEST_MAX` levels down: below that, flattening the
tree drops nodes. A group that is not expanded is one level, an expanded one is two.

Key results:
* `preorder_getGroup`: the tree of a group has the entries of `groupEntries` in pre-order
* `height_getGroup_le`: its levels are counted by the chains of minigroups
* `getGroupList_entries`: the list has all of them
-/

namespace HiDumper.Spec

open HiDumper.Native HiDumper.Native.ConfigUtils

variable {table : ConfigData} {st : ConfigUtils} {uid : Int}

/-! ## What a group stands for -/

/-- The copies of what a group lists: the arguments and the level of each.

* An expanded pid group: one for each current process that the caller may dump, with that
  process and its level.
* An expanded cpu group: one for each cpu.
* A pid group that is not expanded: one for the current process, if the caller may dump it.
* A cpu group that is not expanded: one, for no cpu in particular.
* A group without type: one, with the arguments of the caller.
* Another type is an error and gives nothing. -/
def copyArgs (st : ConfigUtils) (uid : Int) (group : GroupCfg) (args : Option OptionArgs)
    (level : DumperConstant) : List (Option OptionArgs × DumperConstant) :=
  if group.type = .grouptypePid then
    if group.expand then
      (st.currentPidInfos.filter fun info => getDumpLevelByPid uid info ≠ .levelNone).map fun info =>
        (some ((OptionArgs.clone args).setPid info.pid info.uid), getDumpLevelByPid uid info)
    else if getDumpLevelByPid uid st.currentPidInfo ≠ .levelNone then
      [(some ((OptionArgs.clone args).setPid st.currentPidInfo.pid st.currentPidInfo.uid), level)]
    else []
  else if group.type = .grouptypeCpuid then
    if group.expand then
      st.cpuInfos.map fun cpuId => (some ((OptionArgs.clone args).setCpuId cpuId), level)
    else [(some ((OptionArgs.clone args).setCpuId (-1)), level)]
  else if group.type = .none then [(args, level)]
  else []

/-- One copy of a dumper: its items without the filters for other levels, the arguments
    on those that dump. -/
def dumperCopy (table : ConfigData) (name : String) (args : Option OptionArgs)
    (level : DumperConstant) : List DumpCfg :=
  match table.findDumper name with
  | none => []
  | some dumper =>
    (dumper.list.filter fun item => !skipsItem item level).map fun item => dumpCfgOfItem item args

/-- The entries of a group, with those of minigroups at most `depth` groups down. -/
def groupEntries (table : ConfigData) (st : ConfigUtils) (uid : Int) :
    (depth : Nat) → String → Option OptionArgs → DumperConstant → List DumpCfg
  | 0, _, _, _ => []
  | depth + 1, name, args, level =>
    match table.findGroup name with
    | none => []
    | some group =>
      groupNode group :: (copyArgs st uid group args level).flatMap fun (args, level) =>
        (if group.expand ∧ group.list ≠ [] then [groupNode group] else []) ++
          group.list.flatMap fun item =>
            if startWith item ConfigData.configMinigroup_ then
              groupEntries table st uid depth item args level
            else dumperCopy table item args level

/-! ## Levels -/

/-- The levels that a group adds to a tree. -/
def groupLevels (group : GroupCfg) : Nat := if group.expand then 2 else 1

/-- A chain of groups from `name` on, each a minigroup that the one before it lists, adds
    up to `levels` levels. -/
inductive GroupChain (table : ConfigData) : String → Nat → Prop
  | last {name group} (hgroup : table.findGroup name = some group) :
    GroupChain table name (groupLevels group)
  | next {name group item levels} (hgroup : table.findGroup name = some group)
      (hitem : item ∈ group.list) (hmini : startWith item ConfigData.configMinigroup_)
      (hrest : GroupChain table item levels) :
    GroupChain table name (groupLevels group + levels)

/-- Every group that `name` leads to lists only names of dumpers and minigroups. -/
def WellListedFrom (table : ConfigData) (name : String) : Prop :=
  ∀ item group, Relation.ReflTransGen (Includes table) name item →
    table.findGroup item = some group → WellListed group

/-- What a well listed group lists is well listed. -/
theorem WellListedFrom.item {name item : String} (h : WellListedFrom table name)
    (hinc : Includes table name item) : WellListedFrom table item :=
  fun other group hreach => h other group (.head hinc hreach)

/-! ## Trees -/

/-- The entries of a dumper are the copies of its items. -/
private theorem getDumper_eq (name : String) (args : Option OptionArgs) (level : DumperConstant) :
    (getDumper table name args level).2 = dumperCopy table name args level := by
  unfold getDumper dumperCopy
  cases table.findDumper name <;> rfl

/-- The arguments that a group is expanded with. -/
private theorem expansions_getD (group : GroupCfg) (args : Option OptionArgs)
    (level : DumperConstant) :
    (expansions st uid group args level).getD [] = copyArgs st uid group args level := by
  -- The pids without a level are filtered out before the copies are made.
  have hpids : ∀ infos : List PidInfo, (infos.filterMap fun info =>
      if getDumpLevelByPid uid info = .levelNone then none
      else some (some ((OptionArgs.clone args).setPid info.pid info.uid),
        getDumpLevelByPid uid info)) =
      (infos.filter fun info => getDumpLevelByPid uid info ≠ .levelNone).map fun info =>
        (some ((OptionArgs.clone args).setPid info.pid info.uid), getDumpLevelByPid uid info) := by
    intro infos
    induction infos with
    | nil => rfl
    | cons info rest ih =>
      by_cases hlevel : getDumpLevelByPid uid info = .levelNone
      · simp [hlevel, ih]
      · simp [hlevel, ih]
  unfold expansions copyArgs
  -- One case for each type of group, as in the source.
  by_cases hpid : group.type = .grouptypePid
  · cases group.expand
    · by_cases hlevel : getDumpLevelByPid uid st.currentPidInfo = .levelNone
      · simp [hpid, hlevel]
      · simp [hpid, hlevel]
    · simp [hpid, hpids]
  by_cases hcpu : group.type = .grouptypeCpuid
  · cases group.expand
    · simp [hcpu]
    · simp [hcpu]
  by_cases hnone : group.type = .none
  · simp [hnone]
  · simp [hpid, hcpu, hnone]

/-- The loop over the names of a group, given what the minigroups among them come to. -/
private theorem preorder_getGroupItems {getGroup : Expander} {args : Option OptionArgs}
    {level : DumperConstant} {nest : Nat} {entries : String → List DumpCfg} {items : List String}
    {status : DumpStatus} {tree : Forest DumpCfg}
    (hlisted : ∀ item ∈ items, startWith item ConfigData.configDumper_ ∨
      startWith item ConfigData.configMinigroup_)
    (hmini : ∀ item ∈ items, startWith item ConfigData.configMinigroup_ → ∀ status sub,
      getGroup item args level (nest + 1) = some (status, sub) → sub.preorder = entries item)
    (h : getGroupItems table getGroup args level nest items = some (status, tree)) :
    tree.preorder = items.flatMap fun item =>
      if startWith item ConfigData.configMinigroup_ then entries item
      else dumperCopy table item args level := by
  induction items generalizing status tree with
  | nil =>
    simp only [getGroupItems, Option.some.injEq, Prod.mk.injEq] at h
    rw [← h.2]
    rfl
  | cons item rest ih =>
    have hrest : ∀ i ∈ rest, startWith i ConfigData.configDumper_ ∨
        startWith i ConfigData.configMinigroup_ :=
      fun i hi => hlisted i (List.mem_cons_of_mem item hi)
    have ih := fun others => @ih status others hrest
      fun i hi => hmini i (List.mem_cons_of_mem item hi)
    have hitem := hlisted item List.mem_cons_self
    rw [List.flatMap_cons]
    obtain ⟨rfl, -⟩ | ⟨hdumper, others, hothers, rfl⟩ |
      ⟨-, hhead, status', sub, others, hsub, hothers, rfl⟩ | ⟨-, hdumper, hhead, -⟩ :=
      getGroupItems_cons_cases h
    · exact absurd hitem (by decide)
    -- A dumper is a leaf.
    · have hnot : ¬ startWith item ConfigData.configMinigroup_ :=
        fun hhead => not_dumper_of_minigroup hhead hdumper
      rw [Forest.preorder_append, Forest.preorder_leaves, ih others hothers, if_neg hnot,
        getDumper_eq]
    -- A minigroup is a subtree.
    · rw [Forest.preorder_append, ih others hothers, if_pos hhead,
        hmini item List.mem_cons_self hhead status' sub hsub]
    · exact absurd hitem (not_or.mpr ⟨hdumper, hhead⟩)

/-- The items of a group are no higher than its highest minigroup. -/
private theorem height_getGroupItems_le {getGroup : Expander} {args : Option OptionArgs}
    {level : DumperConstant} {nest n : Nat} {items : List String} {status : DumpStatus}
    {tree : Forest DumpCfg} (hn : 1 ≤ n)
    (hmini : ∀ item ∈ items, startWith item ConfigData.configMinigroup_ → ∀ status sub,
      getGroup item args level (nest + 1) = some (status, sub) → sub.height ≤ n)
    (h : getGroupItems table getGroup args level nest items = some (status, tree)) :
    tree.height ≤ n := by
  induction items generalizing status tree with
  | nil =>
    simp only [getGroupItems, Option.some.injEq, Prod.mk.injEq] at h
    rw [← h.2]
    exact Nat.zero_le n
  | cons item rest ih =>
    have ih := fun others => @ih status others fun i hi => hmini i (List.mem_cons_of_mem item hi)
    obtain ⟨-, hrest⟩ | ⟨-, others, hothers, rfl⟩ |
      ⟨-, hhead, status', sub, others, hsub, hothers, rfl⟩ | ⟨-, -, -, rfl⟩ :=
      getGroupItems_cons_cases h
    · exact ih tree hrest
    -- Leaves have height one, which `n` is at least.
    · have hleaves := Forest.height_leaves_le (getDumper table item args level).2
      have hothers := ih others hothers
      rw [Forest.height_append]
      omega
    · have hsub := hmini item List.mem_cons_self hhead status' sub hsub
      have hothers := ih others hothers
      rw [Forest.height_append]
      omega
    · exact Nat.zero_le n

/-- The chains from a minigroup are shorter by the levels of the group that lists it. -/
private theorem chain_item_le {name item : String} {group : GroupCfg} {n : Nat}
    (hgroup : table.findGroup name = some group) (hitem : item ∈ group.list)
    (hmini : startWith item ConfigData.configMinigroup_)
    (hchain : ∀ levels, GroupChain table name levels → levels ≤ n) :
    ∀ levels, GroupChain table item levels → levels + groupLevels group ≤ n := by
  intro levels h
  have hle := hchain _ (.next hgroup hitem hmini h)
  omega

/-- A group is at least one level. -/
private theorem one_le_groupLevels (group : GroupCfg) : 1 ≤ groupLevels group := by
  unfold groupLevels
  split <;> omega

/-- The tree of a group has what the group stands for, in pre-order. -/
theorem preorder_getGroup {fuel n nest : Nat} {name : String} {args : Option OptionArgs}
    {level : DumperConstant} {status : DumpStatus} {tree : Forest DumpCfg}
    (hguard : nest ≤ 1) (hlisted : WellListedFrom table name)
    (hchain : ∀ levels, GroupChain table name levels → levels ≤ n)
    (h : getGroup table st uid fuel name args level nest = some (status, tree)) :
    tree.preorder = groupEntries table st uid n name args level := by
  -- Induction on the fuel: every minigroup has one less, and chains that are shorter.
  induction fuel generalizing n nest name args level status tree with
  | zero => exact nomatch h
  | succ fuel ih =>
    have hle : nest ≤ ConfigData.nestMax := hguard.trans (by decide)
    obtain ⟨hgroup, rfl⟩ | ⟨group, childs, hgroup, hchilds, rfl⟩ := getGroup_succ_cases hle h
    · cases n with
      | zero => rfl
      | succ n => simp [groupEntries, hgroup]
    · have hone := one_le_groupLevels group
      have hn := hchain _ (.last hgroup)
      obtain ⟨n, rfl⟩ : ∃ m, n = m + 1 := ⟨n - 1, by omega⟩
      -- What each run comes to.
      have hrun : ∀ run ∈ (expansions st uid group args level).getD [], ∀ child,
          (getGroupSimple table (getGroup table st uid fuel) group run.1 run.2 0).map (·.2) =
            some child →
          child.preorder = (if group.expand ∧ group.list ≠ [] then [groupNode group] else []) ++
            group.list.flatMap fun item =>
              if startWith item ConfigData.configMinigroup_ then
                groupEntries table st uid n item run.1 run.2
              else dumperCopy table item run.1 run.2 := by
        intro run _ child hchild
        obtain ⟨hlist, rfl⟩ | ⟨status', items, hlist, hitems, rfl⟩ := getGroupSimple_cases hchild
        · simp [hlist]
        · have hpre := preorder_getGroupItems (hlisted name group .refl hgroup)
            (fun item hitem hmini status sub hsub => ih (Nat.le_refl 1)
              (hlisted.item ⟨group, hgroup, hitem, hmini⟩)
              (fun levels hlevels => by
                have hshort := chain_item_le hgroup hitem hmini hchain levels hlevels
                show levels ≤ n
                omega) hsub) hitems
          cases hexpand : group.expand
          · simpa [hexpand] using hpre
          · simpa [hexpand, hlist] using hpre
      have hall := Runs.map_of_mapM hchilds hrun
      rw [expansions_getD] at hall
      simp only [Forest.preorder_cons, Forest.preorder_flatten, Forest.preorder_nil,
        List.append_nil, groupEntries, hgroup, hall, List.flatMap_def]

/-- The levels of the tree of a group are those of the longest chain, and one for dumpers. -/
theorem height_getGroup_le {fuel n nest : Nat} {name : String} {args : Option OptionArgs}
    {level : DumperConstant} {status : DumpStatus} {tree : Forest DumpCfg} (hguard : nest ≤ 1)
    (hchain : ∀ levels, GroupChain table name levels → levels ≤ n)
    (h : getGroup table st uid fuel name args level nest = some (status, tree)) :
    tree.height ≤ n + 1 := by
  induction fuel generalizing n nest name args level status tree with
  | zero => exact nomatch h
  | succ fuel ih =>
    have hle : nest ≤ ConfigData.nestMax := hguard.trans (by decide)
    obtain ⟨-, rfl⟩ | ⟨group, childs, hgroup, hchilds, rfl⟩ := getGroup_succ_cases hle h
    · exact Nat.zero_le _
    · have hn := hchain _ (.last hgroup)
      have hone := one_le_groupLevels group
      have hchild : ∀ child ∈ childs, child.height ≤ n := by
        intro child hmem
        obtain ⟨run, -, hrun⟩ := Runs.exists_of_mem_mapM hchilds hmem
        obtain ⟨-, rfl⟩ | ⟨status', items, -, hitems, rfl⟩ := getGroupSimple_cases hrun
        · exact Nat.zero_le n
        · have hheight : items.height ≤ n - groupLevels group + 1 := by
            apply height_getGroupItems_le (by omega) _ hitems
            intro item hitem hmini status sub hsub
            apply ih (Nat.le_refl 1) _ hsub
            intro levels hlevels
            have hshort := chain_item_le hgroup hitem hmini hchain levels hlevels
            omega
          -- An expanded group has a node for the run between its own and the dumpers.
          unfold groupLevels at hheight hn hone
          cases hexpand : group.expand
          · simp only [hexpand, Bool.false_eq_true, if_false] at hheight hn ⊢
            omega
          · simp only [hexpand, if_true, Forest.height] at hheight hn ⊢
            omega
      have hflat := Forest.height_flatten_le hchild
      simp only [Forest.height]
      omega

/-! ## Lists -/

/-- The list has all nodes of a tree whose levels the counter covers. -/
private theorem map_cfg_convertTreeToList {tree : Forest DumpCfg} {nest base : Nat}
    {parent : Option Nat}
    (hheight : nest + tree.height ≤ ConfigData.nestMax + 1) :
    (convertTreeToList tree nest base parent).map (·.cfg) = tree.preorder := by
  induction tree generalizing nest base parent with
  | nil => rfl
  | cons cfg childs rest ihc ihr =>
    simp only [Forest.height] at hheight
    rw [convertTreeToList, if_neg (by omega)]
    simp [@ihc (nest + 1) (base + 1) (some base) (by omega), @ihr nest _ parent (by omega)]

/-- An entry after `SetSection`. -/
def inSection (sectionName : String) (cfg : DumpCfg) : DumpCfg :=
  if cfg.isDumper then { cfg with sectionName } else cfg

/-- A group of a table without cycles, where no chain of groups from it has more than
    `NEST_MAX` levels, comes to the entries it stands for. -/
theorem getGroupList_entries (table : ConfigData) (st : ConfigUtils) (uid : Int) (name : String)
    (args : Option OptionArgs) (level : DumperConstant) (base : Nat)
    (hacyclic : Layering.Acyclic (Includes table)) (hlisted : WellListedFrom table name)
    (hlevels : ∀ levels, GroupChain table name levels → levels ≤ ConfigData.nestMax) :
    ∃ entries, getGroupList table st uid name args level base = some entries ∧
      entries.map (·.cfg) =
        (groupEntries table st uid ConfigData.nestMax name args level).map
          (inSection (getSectionName name)) := by
  obtain ⟨⟨status, tree⟩, hrun⟩ := @exists_getGroup_of_acyclic table st uid hacyclic name args
    level 0
  have hpre := preorder_getGroup (Nat.zero_le 1) hlisted hlevels hrun
  have hheight := height_getGroup_le (Nat.zero_le 1) hlevels hrun
  refine ⟨_, by rw [getGroupList, hrun]; rfl, ?_⟩
  rw [map_cfg_convertTreeToList (by simpa [setSection] using hheight), setSection,
    Forest.preorder_mapUpTo hheight, hpre]
  rfl

/-- The group of the cpu frequencies lists dumpers and no minigroup. -/
private theorem list_cpufreq : ∀ group, ConfigData.builtin.findGroup "group_cpufreq" = some group →
    ∀ item ∈ group.list, startWith item ConfigData.configDumper_ ∧
      ¬ startWith item ConfigData.configMinigroup_ := by
  decide +kernel

/-- The group of the CPU frequencies is well listed. -/
private theorem wellListedFrom_cpufreq : WellListedFrom .builtin "group_cpufreq" := by
  intro item group hreach hgroup
  rcases Relation.ReflTransGen.cases_head hreach with rfl | ⟨next, hinc, -⟩
  · exact fun name hname => .inl (list_cpufreq group hgroup name hname).1
  · obtain ⟨listed, hlisted, hnext, hmini⟩ := hinc
    exact absurd hmini (list_cpufreq listed hlisted next hnext).2

private theorem chain_cpufreq_le {levels : Nat} (h : GroupChain .builtin "group_cpufreq" levels) :
    levels ≤ ConfigData.nestMax := by
  cases h with
  | @last _ group _ =>
    have hle : groupLevels group ≤ 2 := by
      unfold groupLevels
      split <;> omega
    exact hle.trans (by decide)
  | next hgroup hitem hmini => exact absurd hmini (list_cpufreq _ hgroup _ hitem).2

/-- The group of the CPU frequencies with two CPUs. -/
theorem getGroupList_entries_cpufreq :
    ∃ entries, getGroupList .builtin { cpuInfos := [0, 1] } 0 "group_cpufreq" none .none 0 =
        some entries ∧
      entries.map (·.cfg) =
        (groupEntries .builtin { cpuInfos := [0, 1] } 0 ConfigData.nestMax "group_cpufreq" none
          .none).map (inSection "cpufreq") :=
  getGroupList_entries .builtin { cpuInfos := [0, 1] } 0 "group_cpufreq" none .none 0
    acyclic_builtin wellListedFrom_cpufreq fun _ => chain_cpufreq_le

/-- Six groups for the cpus, each listing the next one, and a dumper in the last. -/
def nestedCpuGroups : ConfigData where
  dumpers := [{ name := "dumper_a", desc := "", list := [{ name := "dumper_a", cls := .fileDumper }] }]
  groups := [("group_a", "groupmini_b"), ("groupmini_b", "groupmini_c"),
    ("groupmini_c", "groupmini_d"), ("groupmini_d", "groupmini_e"),
    ("groupmini_e", "groupmini_f"), ("groupmini_f", "dumper_a")].map fun (name, item) =>
      { name, desc := "", list := [item], type := .grouptypeCpuid, expand := true }

/-- A group of a type that groups do not have. -/
def untypedGroup : ConfigData where
  dumpers := nestedCpuGroups.dumpers
  groups := [{ name := "group_a", desc := "", list := ["dumper_a"], type := .loop, expand := false }]

/-- Far fewer minigroups than `NEST_MAX` are nested, and yet the dumper that the rule gives
    once is not in the list; and a group that is neither for processes nor for cpus has no
    copy of its dumper. -/
theorem getGroupList_drops_dumper :
    (Layering.Acyclic (Includes nestedCpuGroups) ∧ WellListedFrom nestedCpuGroups "group_a" ∧
      (¬∃ item, Layering.Walk (Includes nestedCpuGroups) ConfigData.nestMax "group_a" item) ∧
      "dumper_a" ∈ (groupEntries nestedCpuGroups { cpuInfos := [0] } 0 ConfigData.nestMax "group_a"
        none .none).map (·.name) ∧
      ∃ entries, getGroupList nestedCpuGroups { cpuInfos := [0] } 0 "group_a" none .none 0 =
        some entries ∧ "dumper_a" ∉ entries.map (·.cfg.name)) ∧
    ∃ entries, getGroupList untypedGroup {} 0 "group_a" none .none 0 = some entries ∧
      "dumper_a" ∉ entries.map (·.cfg.name) := by
  let position : String → Nat := fun name =>
    ["dumper_a", "groupmini_f", "groupmini_e", "groupmini_d", "groupmini_c", "groupmini_b",
      "group_a"].idxOf name
  -- The minigroups are nested in the order of this list, so there is no cycle.
  have hposition : ∀ name item, Includes nestedCpuGroups name item →
      position item < position name := by
    have hall : ∀ group ∈ nestedCpuGroups.groups, ∀ item ∈ group.list,
        startWith item ConfigData.configMinigroup_ → position item < position group.name := by
      decide +kernel
    intro name item hinc
    obtain ⟨group, hgroup, hitem, hmini⟩ := hinc
    obtain ⟨hmem, rfl⟩ := name_of_findGroup hgroup
    exact hall group hmem item hitem hmini
  have hlisted : WellListedFrom nestedCpuGroups "group_a" := by
    intro item group _ hgroup
    have hall : ∀ group ∈ nestedCpuGroups.groups, WellListed group := by
      unfold WellListed
      decide +kernel
    exact hall group (name_of_findGroup hgroup).1
  refine ⟨⟨Layering.acyclic_of_rank position hposition, hlisted, ?_, by decide +kernel, ?_⟩, ?_⟩
  · intro hwalk
    obtain ⟨item, hwalk⟩ := hwalk
    have hle := hwalk.rank_le hposition
    have hstart : position "group_a" + 1 ≤ ConfigData.nestMax := by
      decide +kernel
    omega
  · exact ⟨_, rfl, by decide +kernel⟩
  · exact ⟨_, rfl, by decide +kernel⟩

end HiDumper.Spec
