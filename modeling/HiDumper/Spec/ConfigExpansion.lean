import HiDumper.ForStd.Layering
import HiDumper.ForStd.Runs
import HiDumper.Native.ConfigUtils

/-!
# Expanding groups

Facts about `getGroup`, `convertTreeToList` and `getConfig` that hold for every
table and every state: what an expansion can put into a tree, that it ends on
tables without cycles, and that what stands near enough to the root of a tree
gets into the list.

Key results:
* `ExpansionInv.getGroup`: the induction rule for everything a tree holds
* `exists_getGroup`: on tables without cycles the expansion ends
* `mem_convertTreeToList_of_occursAt`: the list has every node of depth at most `NEST_MAX`
-/

namespace HiDumper.Spec

open HiDumper.Native HiDumper.Native.ConfigUtils

variable {table : ConfigData} {st : ConfigUtils} {uid : Int}

/-! ## What a tree holds -/

/-- An entry of a dumper is made from one of its items. -/
theorem mem_getDumper {name : String} {args : Option OptionArgs} {level : DumperConstant}
    {cfg : DumpCfg} (h : cfg ∈ (getDumper table name args level).2) :
    ∃ dumper item, table.findDumper name = some dumper ∧ item ∈ dumper.list ∧
      cfg = dumpCfgOfItem item args := by
  unfold getDumper at h
  split at h
  · exact nomatch h
  · rename_i dumper hfind
    rw [List.mem_map] at h
    obtain ⟨item, hitem, rfl⟩ := h
    exact ⟨dumper, item, hfind, List.mem_of_mem_filter hitem, rfl⟩

/-- What the loop over the names of a group does with the first of them. -/
theorem getGroupItems_cons_cases {getGroup : Expander} {args : Option OptionArgs}
    {level : DumperConstant} {nest : Nat} {item : String} {rest : List String}
    {status : DumpStatus} {tree : Forest DumpCfg}
    (h : getGroupItems table getGroup args level nest (item :: rest) = some (status, tree)) :
    (item = "" ∧ getGroupItems table getGroup args level nest rest = some (status, tree)) ∨
    (startWith item ConfigData.configDumper_ ∧ ∃ others,
      getGroupItems table getGroup args level nest rest = some (status, others) ∧
      tree = .leaves (getDumper table item args level).2 ++ others) ∨
    (¬ startWith item ConfigData.configDumper_ ∧ startWith item ConfigData.configMinigroup_ ∧
      ∃ status' sub others, getGroup item args level (nest + 1) = some (status', sub) ∧
      getGroupItems table getGroup args level nest rest = some (status, others) ∧
      tree = sub ++ others) ∨
    (item ≠ "" ∧ ¬ startWith item ConfigData.configDumper_ ∧
      ¬ startWith item ConfigData.configMinigroup_ ∧ tree = .nil) := by
  simp only [getGroupItems] at h
  split at h
  · exact .inl ⟨‹_›, h⟩
  split at h
  · rename_i hdumper
    simp only [Option.bind_eq_bind, Option.bind_eq_some_iff, Option.some.injEq] at h
    obtain ⟨⟨status', others⟩, hothers, heq⟩ := h
    obtain ⟨rfl, rfl⟩ := Prod.mk.inj heq
    exact .inr (.inl ⟨hdumper, others, hothers, rfl⟩)
  split at h
  · rename_i hdumper hmini
    simp only [Option.bind_eq_bind, Option.bind_eq_some_iff, Option.some.injEq] at h
    obtain ⟨⟨status₁, sub⟩, hsub, ⟨status', others⟩, hothers, heq⟩ := h
    obtain ⟨rfl, rfl⟩ := Prod.mk.inj heq
    exact .inr (.inr (.inl ⟨hdumper, hmini, status₁, sub, others, hsub, hothers, rfl⟩))
  -- Any other name ends the list.
  · rename_i hne hdumper hmini
    simp only [Option.some.injEq, Prod.mk.injEq] at h
    exact .inr (.inr (.inr ⟨hne, hdumper, hmini, h.2.symm⟩))

/-- What `GetGroup` does below the guard: nothing for an unknown name; else the node of the
    group, with what its runs come to below it. -/
theorem getGroup_succ_cases {fuel : Nat} {name : String} {args : Option OptionArgs}
    {level : DumperConstant} {nest : Nat} {status : DumpStatus} {tree : Forest DumpCfg}
    (hguard : nest ≤ ConfigData.nestMax)
    (h : getGroup table st uid (fuel + 1) name args level nest = some (status, tree)) :
    (table.findGroup name = none ∧ tree = .nil) ∨
    ∃ group childs, table.findGroup name = some group ∧
      ((expansions st uid group args level).getD []).mapM (fun run =>
        (getGroupSimple table (getGroup table st uid fuel) group run.1 run.2 0).map (·.2)) =
          some childs ∧
      tree = .cons (groupNode group) (.flatten childs) .nil := by
  simp only [getGroup] at h
  rw [if_neg (by omega)] at h
  split at h
  · simp only [Option.some.injEq, Prod.mk.injEq] at h
    exact .inl ⟨‹_›, h.2.symm⟩
  · rename_i group hgroup
    simp only [getGroupAt] at h
    rw [if_neg (by decide)] at h
    split at h
    -- A group without a type is expanded to nothing.
    · rename_i hexp
      simp only [Option.some.injEq, Prod.mk.injEq] at h
      exact .inr ⟨group, [], hgroup, by rw [hexp]; rfl, h.2.symm⟩
    · rename_i runs hexp
      simp only [Option.bind_eq_bind, Option.bind_eq_some_iff, Option.some.injEq] at h
      obtain ⟨childs, hchilds, heq⟩ := h
      exact .inr ⟨group, childs, hgroup, by rw [hexp]; exact hchilds, (Prod.mk.inj heq).2.symm⟩

/-- One run of `GetGroupSimple` over the names of a group. -/
theorem getGroupSimple_cases {getGroup : Expander} {group : GroupCfg} {args : Option OptionArgs}
    {level : DumperConstant} {tree : Forest DumpCfg}
    (h : (getGroupSimple table getGroup group args level 0).map (·.2) = some tree) :
    (group.list = [] ∧ tree = .nil) ∨
    ∃ status items, group.list ≠ [] ∧
      getGroupItems table getGroup args level 0 group.list = some (status, items) ∧
      tree = if group.expand then .cons (groupNode group) items .nil else items := by
  rw [Option.map_eq_some_iff] at h
  obtain ⟨⟨status', _⟩, h, rfl⟩ := h
  simp only [getGroupSimple] at h
  rw [if_neg (by decide)] at h
  split at h
  · simp only [Option.some.injEq, Prod.mk.injEq] at h
    exact .inl ⟨‹_›, h.2.symm⟩
  · rename_i hlist
    simp only [Option.bind_eq_bind, Option.bind_eq_some_iff, Option.some.injEq] at h
    obtain ⟨⟨status, items⟩, hitems, heq⟩ := h
    exact .inr ⟨status, items, hlist, hitems, (Prod.mk.inj heq).2.symm⟩

/-- A set of calls `GetGroup` can be made with, closed under the calls these
    make, such that every node they add is good. -/
structure ExpansionInv (table : ConfigData) (st : ConfigUtils) (uid : Int)
    (call : String → Option OptionArgs → Prop) (good : DumpCfg → Prop) : Prop where
  node : ∀ {name args group}, call name args → table.findGroup name = some group →
    good (groupNode group)
  dumper : ∀ {name args group level runs newArgs newLevel item}, call name args →
    table.findGroup name = some group → expansions st uid group args level = some runs →
    (newArgs, newLevel) ∈ runs → item ∈ group.list →
    ∀ cfg ∈ (getDumper table item newArgs newLevel).2, good cfg
  minigroup : ∀ {name args group level runs newArgs newLevel item}, call name args →
    table.findGroup name = some group → expansions st uid group args level = some runs →
    (newArgs, newLevel) ∈ runs → item ∈ group.list →
    startWith item ConfigData.configMinigroup_ → call item newArgs

/-- Every node of the tree that a call of `getGroup` builds is good. -/
def AllGood (good : DumpCfg → Prop) (result : Option (DumpStatus × Forest DumpCfg)) : Prop :=
  ∀ status tree, result = some (status, tree) → ∀ cfg ∈ tree.preorder, good cfg

/-- Entries of a group are good when those of its dumpers and minigroups are. -/
private theorem allGood_getGroupItems {good : DumpCfg → Prop} {getGroup : Expander}
    {args : Option OptionArgs} {level : DumperConstant} {nest : Nat} {items : List String}
    (hdumper : ∀ item ∈ items, ∀ cfg ∈ (getDumper table item args level).2, good cfg)
    (hmini : ∀ item ∈ items, startWith item ConfigData.configMinigroup_ →
      AllGood good (getGroup item args level (nest + 1))) :
    AllGood good (getGroupItems table getGroup args level nest items) := by
  induction items with
  | nil =>
    intro status tree h cfg hcfg
    simp only [getGroupItems, Option.some.injEq, Prod.mk.injEq] at h
    obtain ⟨-, rfl⟩ := h
    exact nomatch hcfg
  -- The first item is skipped, a dumper, a minigroup, or a minigroup past the nesting limit.
  | cons item rest ih =>
    have ih := ih (fun i hi => hdumper i (List.mem_cons_of_mem item hi))
      (fun i hi => hmini i (List.mem_cons_of_mem item hi))
    intro status tree h cfg hcfg
    obtain ⟨-, hrest⟩ | ⟨-, others, hothers, rfl⟩ |
      ⟨-, hhead, status', sub, others, hsub, hothers, rfl⟩ | ⟨-, -, -, rfl⟩ :=
      getGroupItems_cons_cases h
    · exact ih status tree hrest cfg hcfg
    · simp only [Forest.preorder_append, Forest.preorder_leaves, List.mem_append] at hcfg
      cases hcfg with
      | inl hcfg => exact hdumper item List.mem_cons_self cfg hcfg
      | inr hcfg => exact ih status others hothers cfg hcfg
    · simp only [Forest.preorder_append, List.mem_append] at hcfg
      cases hcfg with
      | inl hcfg => exact hmini item List.mem_cons_self hhead status' sub hsub cfg hcfg
      | inr hcfg => exact ih status others hothers cfg hcfg
    · exact nomatch hcfg

/-- What one run over the names of a group adds. -/
private theorem good_of_getGroupSimple {good : DumpCfg → Prop} {getGroup : Expander}
    {group : GroupCfg}
    {args : Option OptionArgs} {level : DumperConstant} {tree : Forest DumpCfg}
    (hnode : good (groupNode group))
    (hitems : AllGood good (getGroupItems table getGroup args level 0 group.list))
    (h : (getGroupSimple table getGroup group args level 0).map (·.2) = some tree) :
    ∀ cfg ∈ tree.preorder, good cfg := by
  intro cfg hcfg
  obtain ⟨-, rfl⟩ | ⟨status, items, -, hrun, rfl⟩ := getGroupSimple_cases h
  · exact nomatch hcfg
  · have hall := hitems status items hrun
    -- An expanded group gets a node of its own for each run.
    split at hcfg
    · simp only [Forest.preorder_cons, Forest.preorder_nil, List.append_nil,
        List.mem_cons] at hcfg
      cases hcfg with
      | inl hcfg => exact hcfg ▸ hnode
      | inr hcfg => exact hall cfg hcfg
    · exact hall cfg hcfg

/-- Induction over the expansion of groups. -/
theorem ExpansionInv.getGroup {call : String → Option OptionArgs → Prop} {good : DumpCfg → Prop}
    (hinv : ExpansionInv table st uid call good) (fuel : Nat) {name : String}
    {args : Option OptionArgs} {level : DumperConstant} {nest : Nat} (hcall : call name args) :
    AllGood good (getGroup table st uid fuel name args level nest) := by
  -- Induction on the fuel, which is the depth of nested minigroups.
  induction fuel generalizing name args level nest with
  | zero => exact fun _ _ h => nomatch h
  | succ fuel ih =>
    intro status tree h cfg hcfg
    by_cases hguard : nest ≤ ConfigData.nestMax
    · obtain ⟨-, rfl⟩ | ⟨group, childs, hgroup, hchilds, rfl⟩ := getGroup_succ_cases hguard h
      · exact nomatch hcfg
      · have hnode := hinv.node hcall hgroup
        simp only [Forest.preorder_cons, Forest.preorder_flatten, Forest.preorder_nil,
          List.append_nil, List.mem_cons, List.mem_flatten, List.mem_map] at hcfg
        obtain rfl | ⟨_, ⟨sub, hsub, rfl⟩, hcfg⟩ := hcfg
        · exact hnode
        · -- A node of the tree that one of the runs comes to.
          obtain ⟨run, hrun, hsimple⟩ := Runs.exists_of_mem_mapM hchilds hsub
          obtain ⟨runs, hruns, hmem⟩ : ∃ runs, expansions st uid group args level = some runs ∧
              run ∈ runs := by
            cases hexp : expansions st uid group args level with
            | none => simp [hexp] at hrun
            | some runs => exact ⟨runs, rfl, by simpa [hexp] using hrun⟩
          have hitems : AllGood good (getGroupItems table (ConfigUtils.getGroup table st uid fuel)
              run.1 run.2 0 group.list) := by
            apply allGood_getGroupItems
            · exact fun item hitem => hinv.dumper hcall hgroup hruns hmem hitem
            · intro item hitem hhead
              exact ih (hinv.minigroup hcall hgroup hruns hmem hitem hhead)
          exact good_of_getGroupSimple hnode hitems hsimple cfg hcfg
    · simp only [ConfigUtils.getGroup] at h
      rw [if_pos (by omega), Option.some.injEq, Prod.mk.injEq] at h
      rw [← h.2] at hcfg
      exact nomatch hcfg

/-! ## Tables without cycles -/

/-- Group `name` lists the minigroup `item`. -/
def Includes (table : ConfigData) (name item : String) : Prop :=
  ∃ group, table.findGroup name = some group ∧ item ∈ group.list ∧
    startWith item ConfigData.configMinigroup_

/-- A group that is found under a name is one of the table with that name. -/
theorem name_of_findGroup {name : String} {group : GroupCfg}
    (h : table.findGroup name = some group) : group ∈ table.groups ∧ group.name = name := by
  refine ⟨List.mem_of_find?_eq_some h, ?_⟩
  have hmatch := List.find?_some h
  simp only [ne_eq, Bool.and_eq_true, decide_eq_true_eq] at hmatch
  exact hmatch.2.symm

/-- The name of a minigroup is not the name of a dumper. -/
theorem not_dumper_of_minigroup {item : String} (h : startWith item ConfigData.configMinigroup_) :
    ¬ startWith item ConfigData.configDumper_ := by
  intro hdumper
  unfold startWith at h hdumper
  rw [List.isPrefixOf_iff_prefix] at h hdumper
  -- One of the two heads would be the start of the other.
  have hheads := List.prefix_or_prefix_of_prefix h hdumper
  revert hheads
  decide

/-- The names that the loop of `GetGroupSimple` comes to: all up to the first that is the
    name of neither a dumper nor a minigroup. -/
def visitedItems (list : List String) : List String :=
  list.takeWhile fun item => item = "" || startWith item ConfigData.configDumper_ ||
    startWith item ConfigData.configMinigroup_

/-- The items of a group are listed when every minigroup on the way is. -/
private theorem isSome_getGroupItems {getGroup : Expander} {args : Option OptionArgs}
    {level : DumperConstant} {nest : Nat} {items : List String} :
    (getGroupItems table getGroup args level nest items).isSome ↔
      ∀ item ∈ visitedItems items, startWith item ConfigData.configMinigroup_ →
        (getGroup item args level (nest + 1)).isSome := by
  induction items with
  | nil => simp [getGroupItems, visitedItems]
  | cons item rest ih =>
    unfold visitedItems at ih ⊢
    by_cases hempty : item = ""
    · have hmini : ¬ startWith item ConfigData.configMinigroup_ := by
        rw [hempty]
        decide
      simp [getGroupItems, hempty, ih, hempty ▸ hmini]
    by_cases hdumper : startWith item ConfigData.configDumper_
    · have hmini : ¬ startWith item ConfigData.configMinigroup_ :=
        fun hmini => not_dumper_of_minigroup hmini hdumper
      simp [getGroupItems, hempty, hdumper, hmini, ih, Option.isSome_bind]
    by_cases hmini : startWith item ConfigData.configMinigroup_
    · cases hsub : getGroup item args level (nest + 1) with
      | none => simp [getGroupItems, hempty, hdumper, hmini, hsub]
      | some sub => simp [getGroupItems, hempty, hdumper, hmini, hsub, ← ih, Option.isSome_bind]
    · -- The loop ends here, and so do the names it comes to.
      simp [getGroupItems, hempty, hdumper, hmini]

/-- With whatever is done for minigroups: `GetGroup` by index ends when the calls it
    makes do. -/
theorem isSome_getGroupAt {getGroup : Expander} {group : GroupCfg} {args : Option OptionArgs}
    {level : DumperConstant} :
    (getGroupAt table st uid getGroup group args level 0).isSome ↔
      ∀ runs, expansions st uid group args level = some runs → ∀ run ∈ runs,
        ∀ item ∈ visitedItems group.list, startWith item ConfigData.configMinigroup_ →
          (getGroup item run.1 run.2 (0 + 1)).isSome := by
  -- One run at nesting 0 passes the guard, so it ends iff every nested expansion does.
  have hsimple : ∀ run : Option OptionArgs × DumperConstant,
      (getGroupSimple table getGroup group run.1 run.2 0).isSome ↔
        ∀ item ∈ visitedItems group.list, startWith item ConfigData.configMinigroup_ →
          (getGroup item run.1 run.2 (0 + 1)).isSome := by
    intro run
    rw [getGroupSimple, if_neg (by decide)]
    split
    · rename_i hlist
      simp [hlist, visitedItems]
    · rw [← @isSome_getGroupItems table]
      simp [Option.isSome_bind]
  unfold getGroupAt
  rw [if_neg (by decide)]
  -- A group that cannot be run gives its own node, whatever is nested.
  cases expansions st uid group args level with
  | none => simp
  | some runs =>
    simp only [Option.some.injEq, forall_eq', ← hsimple]
    constructor
    · intro h run hrun
      simp only [Option.isSome_iff_exists, Option.bind_eq_bind, Option.bind_eq_some_iff] at h
      obtain ⟨_, childs, hchilds, -⟩ := h
      obtain ⟨sub, -, hsub⟩ := Runs.mem_mapM hchilds hrun
      simp only [Option.map_eq_some_iff] at hsub
      obtain ⟨result, hresult, -⟩ := hsub
      exact Option.isSome_iff_exists.mpr ⟨result, hresult⟩
    · intro h
      apply Runs.isSome_mapM_bind
      · intro run hrun
        obtain ⟨result, hresult⟩ := Option.isSome_iff_exists.mp (h run hrun)
        exact ⟨result.2, congrArg (Option.map (·.2)) hresult⟩
      · intro childs
        rfl

/-- With a rank that drops at every minigroup, fuel above the rank is enough. -/
theorem exists_getGroup {rank : String → Nat}
    (hrank : ∀ name item, Includes table name item → rank item < rank name) {fuel : Nat}
    {name : String} (hfuel : rank name < fuel) (args : Option OptionArgs) (level : DumperConstant)
    (nest : Nat) : ∃ r, getGroup table st uid fuel name args level nest = some r := by
  induction fuel generalizing name args level nest with
  | zero => omega
  | succ fuel ih =>
    simp only [getGroup]
    split
    · exact ⟨_, rfl⟩
    split
    · exact ⟨_, rfl⟩
    · rename_i group hgroup
      rw [← Option.isSome_iff_exists, isSome_getGroupAt]
      intro runs _ run _ item hitem hmini
      -- A minigroup has a smaller rank, so the fuel left is enough for it.
      have hmem : item ∈ group.list := (List.takeWhile_sublist _).subset hitem
      have hlt := hrank name item ⟨group, hgroup, hmem, hmini⟩
      exact Option.isSome_iff_exists.mpr (ih (by omega) run.1 run.2 _)

/-- On a table without cycles the fuel of `getConfig` is enough. -/
theorem exists_getGroup_of_acyclic (hacyclic : Layering.Acyclic (Includes table)) (name : String)
    (args : Option OptionArgs) (level : DumperConstant) (nest : Nat) :
    ∃ r, getGroup table st uid (groupFuel table) name args level nest = some r := by
  -- Only names of groups include anything, so ranks up to their number are enough.
  have hlisted : ∀ name item, Includes table name item → name ∈ table.groups.map (·.name) := by
    intro name item hinc
    obtain ⟨group, hgroup, -⟩ := hinc
    obtain ⟨hmem, rfl⟩ := name_of_findGroup hgroup
    exact List.mem_map_of_mem hmem
  obtain ⟨rank, hrank, hle⟩ := hacyclic.exists_rank _ hlisted
  refine exists_getGroup hrank ?_ args level nest
  have hname := hle name
  rw [List.length_map] at hname
  unfold groupFuel
  omega

/-- The minigroups of the service's table list no minigroups. -/
theorem acyclic_builtin : Layering.Acyclic (Includes ConfigData.builtin) := by
  -- Minigroups list no minigroup: the built-in table nests once.
  have hflat : (ConfigData.builtin.groups.all fun group =>
      !startWith group.name ConfigData.configMinigroup_ ||
        group.list.all fun item => !startWith item ConfigData.configMinigroup_) = true := by
    decide +kernel
  apply Layering.acyclic_of_rank
    fun name => if startWith name ConfigData.configMinigroup_ then 0 else 1
  intro name item hinc
  obtain ⟨group, hgroup, hitem, hmini⟩ := hinc
  obtain ⟨hmem, rfl⟩ := name_of_findGroup hgroup
  have hname : startWith group.name ConfigData.configMinigroup_ = false := by
    have hrow := List.all_eq_true.mp hflat group hmem
    cases hname : startWith group.name ConfigData.configMinigroup_
    · rfl
    · rw [hname, Bool.not_true, Bool.false_or, List.all_eq_true] at hrow
      have := hrow item hitem
      rw [hmini] at this
      exact nomatch this
  rw [if_pos hmini, if_neg (by rw [hname]; decide)]
  exact Nat.zero_lt_one

/-! ## What a tree has to hold -/

/-- All names of the group are names of dumpers or minigroups. -/
def WellListed (group : GroupCfg) : Prop :=
  ∀ item ∈ group.list,
    startWith item ConfigData.configDumper_ ∨ startWith item ConfigData.configMinigroup_

/-- Expanding group `name` produces `cfg`, at most `depth` levels down: it lists
    the dumper, or a minigroup that produces it. -/
inductive Produces (table : ConfigData) (st : ConfigUtils) (uid : Int) :
    String → Option OptionArgs → DumperConstant → DumpCfg → Nat → Prop
  | dumper {name args level group runs run item cfg}
      (hgroup : table.findGroup name = some group) (hlisted : WellListed group)
      (hruns : expansions st uid group args level = some runs) (hrun : run ∈ runs)
      (hitem : item ∈ group.list) (hhead : startWith item ConfigData.configDumper_)
      (hcfg : cfg ∈ (getDumper table item run.1 run.2).2) :
    Produces table st uid name args level cfg 2
  | minigroup {name args level group runs run item cfg depth}
      (hgroup : table.findGroup name = some group) (hlisted : WellListed group)
      (hruns : expansions st uid group args level = some runs) (hrun : run ∈ runs)
      (hitem : item ∈ group.list) (hhead : startWith item ConfigData.configMinigroup_)
      (hdumper : ¬ startWith item ConfigData.configDumper_)
      (h : Produces table st uid item run.1 run.2 cfg depth) :
    Produces table st uid name args level cfg (depth + 2)

/-- A node that one name contributes to the loop is in the result of the loop. -/
private theorem occursWithin_getGroupItems {getGroup : Expander} {args : Option OptionArgs}
    {level : DumperConstant} {nest : Nat} {items : List String} {item : String} {cfg : DumpCfg}
    {depth : Nat} {status : DumpStatus} {tree : Forest DumpCfg}
    (hlisted : ∀ i ∈ items, startWith i ConfigData.configDumper_ ∨
      startWith i ConfigData.configMinigroup_)
    (hitem : item ∈ items)
    (hdumper : startWith item ConfigData.configDumper_ →
      (Forest.leaves (getDumper table item args level).2).OccursWithin cfg depth)
    (hmini : ¬ startWith item ConfigData.configDumper_ → ∀ status sub,
      getGroup item args level (nest + 1) = some (status, sub) → sub.OccursWithin cfg depth)
    (h : getGroupItems table getGroup args level nest items = some (status, tree)) :
    tree.OccursWithin cfg depth := by
  induction items generalizing status tree with
  | nil => exact nomatch hitem
  | cons first rest ih =>
    have hfirst := hlisted first List.mem_cons_self
    have hrest : ∀ i ∈ rest, startWith i ConfigData.configDumper_ ∨
        startWith i ConfigData.configMinigroup_ :=
      fun i hi => hlisted i (List.mem_cons_of_mem first hi)
    -- The loop puts what `first` gives before what the other names give.
    obtain ⟨rfl, -⟩ | ⟨hhead, others, hothers, rfl⟩ |
      ⟨hhead, -, status', sub, others, hsub, hothers, rfl⟩ | ⟨-, hhead, hother, -⟩ :=
      getGroupItems_cons_cases h
    · exact absurd hfirst (by decide)
    · cases List.mem_cons.mp hitem with
      | inl heq =>
        subst heq
        exact (hdumper hhead).append_left others
      | inr hmem => exact (ih hrest hmem hothers).append_right _
    · cases List.mem_cons.mp hitem with
      | inl heq =>
        subst heq
        exact (hmini hhead status' sub hsub).append_left others
      | inr hmem => exact (ih hrest hmem hothers).append_right _
    · exact absurd hfirst (not_or.mpr ⟨hhead, hother⟩)

/-- A node in the result of the loop gets one level down, or two in an expanded group. -/
private theorem occursWithin_getGroup_succ {fuel nest : Nat} {name : String} {group : GroupCfg}
    {args : Option OptionArgs} {level : DumperConstant}
    {runs : List (Option OptionArgs × DumperConstant)} {run : Option OptionArgs × DumperConstant}
    {cfg : DumpCfg} {depth : Nat} {status : DumpStatus} {tree : Forest DumpCfg}
    (hguard : nest ≤ ConfigData.nestMax) (hgroup : table.findGroup name = some group)
    (hne : group.list ≠ []) (hruns : expansions st uid group args level = some runs)
    (hrun : run ∈ runs)
    (hitems : ∀ status items, getGroupItems table (getGroup table st uid fuel) run.1 run.2 0
      group.list = some (status, items) → items.OccursWithin cfg depth)
    (h : getGroup table st uid (fuel + 1) name args level nest = some (status, tree)) :
    tree.OccursWithin cfg (depth + 2) := by
  obtain ⟨hnone, -⟩ | ⟨found, childs, hfound, hchilds, rfl⟩ := getGroup_succ_cases hguard h
  · rw [hgroup] at hnone
    exact nomatch hnone
  · rw [hgroup, Option.some.injEq] at hfound
    subst hfound
    rw [hruns, Option.getD_some] at hchilds
    obtain ⟨sub, hsub, hsimple⟩ := Runs.mem_mapM hchilds hrun
    obtain ⟨hnil, -⟩ | ⟨status', items, -, hget, rfl⟩ := getGroupSimple_cases hsimple
    · exact absurd hnil hne
    · have hocc := hitems status' items hget
      -- Below the node of the group, and below that of the run if it is expanded.
      cases hexpand : group.expand
      · rw [hexpand] at hsub
        exact ((hocc.flatten hsub).below _ _).mono (Nat.le_succ _)
      · rw [hexpand] at hsub
        exact ((hocc.below _ _).flatten hsub).below _ _

/-- An entry that a name produces stands in the tree of the name, at that depth or above. -/
theorem Produces.occursWithin {name : String} {args : Option OptionArgs} {level : DumperConstant}
    {cfg : DumpCfg} {depth : Nat} (h : Produces table st uid name args level cfg depth)
    {fuel nest : Nat} (hnest : nest ≤ 1) {status : DumpStatus} {tree : Forest DumpCfg}
    (hget : getGroup table st uid fuel name args level nest = some (status, tree)) :
    tree.OccursWithin cfg depth := by
  -- `nest` is 0 or 1 at every call, since it is not passed on.
  have hguard : nest ≤ ConfigData.nestMax := hnest.trans (by decide)
  induction h generalizing fuel nest status tree with
  | dumper hgroup hlisted hruns hrun hitem hhead hcfg =>
    cases fuel with
    | zero => exact nomatch hget
    | succ fuel =>
      apply occursWithin_getGroup_succ hguard hgroup (List.ne_nil_of_mem hitem) hruns hrun _ hget
      intro status items hitems
      exact occursWithin_getGroupItems hlisted hitem
        (fun _ => ⟨0, Nat.le_refl 0, Forest.occursAt_leaves.mpr hcfg⟩)
        (fun hdumper => absurd hhead hdumper) hitems
  | minigroup hgroup hlisted hruns hrun hitem hhead hdumper _ ih =>
    cases fuel with
    | zero => exact nomatch hget
    | succ fuel =>
      apply occursWithin_getGroup_succ hguard hgroup (List.ne_nil_of_mem hitem) hruns hrun _ hget
      intro status items hitems
      exact occursWithin_getGroupItems hlisted hitem (fun hhead => absurd hhead hdumper)
        (fun _ _ _ hsub => ih (Nat.le_refl 1) hsub (by decide)) hitems

/-! ## From trees to lists -/

/-- A listed entry is one of the tree. -/
private theorem mem_convertTreeToList {tree : Forest DumpCfg} {nest base : Nat}
    {parent : Option Nat}
    {entry : ListedCfg} (h : entry ∈ convertTreeToList tree nest base parent) :
    entry.cfg ∈ tree.preorder := by
  induction tree generalizing nest base parent with
  | nil => exact nomatch h
  | cons cfg childs rest ihc ihr =>
    simp only [convertTreeToList] at h
    split at h
    · exact nomatch h
    · simp only [List.mem_cons, List.mem_append] at h
      simp only [Forest.preorder_cons, List.mem_cons, List.mem_append]
      exact h.imp (congrArg ListedCfg.cfg) (Or.imp ihc ihr)

/-- The list has every node with at most `NEST_MAX` nodes above it. -/
theorem mem_convertTreeToList_of_occursAt {tree : Forest DumpCfg} {cfg : DumpCfg} {depth nest : Nat}
    (h : tree.OccursAt cfg depth) (hdepth : nest + depth ≤ ConfigData.nestMax) (base : Nat)
    (parent : Option Nat) :
    ∃ entry ∈ convertTreeToList tree nest base parent, entry.cfg = cfg := by
  induction tree generalizing depth nest base parent with
  | nil => cases depth <;> exact nomatch h
  | cons first childs rest ihc ihr =>
    simp only [convertTreeToList]
    rw [if_neg (by omega)]
    simp only [List.mem_cons, List.mem_append]
    cases depth with
    | zero =>
      -- The node is the first one here or a sibling of it.
      cases h with
      | inl h => exact ⟨_, .inl rfl, h.symm⟩
      | inr h =>
        obtain ⟨entry, hentry, heq⟩ := ihr h hdepth _ parent
        exact ⟨entry, .inr (.inr hentry), heq⟩
    | succ depth =>
      -- It is below the first one, or in the rest at the same depth.
      cases h with
      | inl h =>
        obtain ⟨entry, hentry, heq⟩ := ihc h (show nest + 1 + depth ≤ _ by omega) (base + 1)
          (some base)
        exact ⟨entry, .inr (.inl hentry), heq⟩
      | inr h =>
        obtain ⟨entry, hentry, heq⟩ := ihr h hdepth _ parent
        exact ⟨entry, .inr (.inr hentry), heq⟩

/-! ## GetConfig -/

/-- `GetConfig` appends to the list and changes nothing else. What it appends is
    good if the dumper's or the group's nodes are and the section does not matter. -/
theorem exists_getConfig (hacyclic : Layering.Acyclic (Includes table)) (uid : Int)
    (st : ConfigUtils) (name : String) (args : Option OptionArgs) :
    ∃ entries, getConfig table uid st name args =
        some { st with dumpCfgs := st.dumpCfgs ++ entries } ∧
      ∀ good : DumpCfg → Prop,
        (∀ cfg sectionName, good cfg → good { cfg with sectionName := sectionName }) →
        (∀ cfg ∈ (getDumper table name args .none).2, good cfg) →
        AllGood good (getGroup table st uid (groupFuel table) name args .none 0) →
        ∀ entry ∈ entries, good entry.cfg := by
  unfold getConfig
  split
  · refine ⟨_, rfl, fun good _ hdumper _ entry hentry => ?_⟩
    obtain ⟨cfg, hcfg, rfl⟩ := List.mem_map.mp hentry
    exact hdumper cfg hcfg
  split
  · obtain ⟨⟨status, tree⟩, hrun⟩ := @exists_getGroup_of_acyclic table st uid hacyclic name args
      .none 0
    refine ⟨_, by rw [hrun]; rfl, fun good hsection _ hgroup entry hentry => ?_⟩
    obtain ⟨cfg, hcfg, heq⟩ := Forest.mem_preorder_mapUpTo (mem_convertTreeToList hentry)
    -- An entry is a node of the tree, or one whose section was set.
    have hgood := hgroup status tree hrun cfg hcfg
    cases heq with
    | inl heq => exact heq ▸ hgood
    | inr heq =>
      rw [heq]
      split
      · exact hsection cfg _ hgood
      · exact hgood
  · exact ⟨[], by rw [List.append_nil], fun _ _ _ _ _ hentry => nomatch hentry⟩

/-- What the expansion of a group has to hold gets into the list. -/
theorem exists_getConfig_of_produces (hacyclic : Layering.Acyclic (Includes table))
    {name : String} {args : Option OptionArgs} {cfg : DumpCfg} {depth : Nat}
    (hdumper : ¬ startWith name ConfigData.configDumper_)
    (hgroup : startWith name ConfigData.configGroup_)
    (h : Produces table st uid name args .none cfg depth) (hdepth : depth ≤ ConfigData.nestMax) :
    ∃ entries, getConfig table uid st name args =
        some { st with dumpCfgs := st.dumpCfgs ++ entries } ∧
      ∃ entry ∈ entries, entry.cfg.name = cfg.name ∧ entry.cfg.isDumper = cfg.isDumper := by
  obtain ⟨⟨status, tree⟩, hrun⟩ := @exists_getGroup_of_acyclic table st uid hacyclic name args
    .none 0
  obtain ⟨k, hk, hocc⟩ := h.occursWithin (Nat.zero_le 1) hrun
  -- `SetSection` changes the section of the node only.
  let assign : DumpCfg → DumpCfg := fun cfg =>
    if cfg.isDumper then { cfg with sectionName := getSectionName name } else cfg
  have hassign : (assign cfg).name = cfg.name ∧ (assign cfg).isDumper = cfg.isDumper := by
    simp only [assign]
    split <;> exact ⟨rfl, rfl⟩
  have hocc' : (setSection tree (getSectionName name)).OccursAt (assign cfg) k :=
    Forest.occursAt_mapUpTo hocc (by omega)
  obtain ⟨entry, hentry, heq⟩ := mem_convertTreeToList_of_occursAt hocc'
    (show 0 + k ≤ _ by omega) st.dumpCfgs.length none
  refine ⟨_, ?_, entry, hentry, by rw [heq]; exact hassign.1, by rw [heq]; exact hassign.2⟩
  unfold getConfig
  rw [if_neg hdumper, if_pos hgroup, hrun]
  rfl

end HiDumper.Spec
