import HiDumper.ForStd.Walks
import HiDumper.Spec.ConfigExpansion

/-!
# How deep groups nest

`GetGroup` by name, `GetGroup` by index and `GetGroupSimple` take a nesting counter and
stop above `NEST_MAX`. `GetGroup` by name calls `GetGroup` by index without the counter,
which starts again at 0 there, so no call is ever made with more than 1.

`Calls` is the relation between a call of `GetGroup` by name and the calls it makes; an
expansion ends when the calls do. Which groups it comes to does not depend on the
arguments and the level (`Expands`).

Key results:
* `isSome_getGroup_iff`: fuel is enough exactly when no chain of calls is as long
* `exists_walk_calls_iff`: the chains of calls are the chains of minigroups
* `nestBounded_iff`: the counter counts the steps only while there is one at most, and
  the expansion ends only where no cycle is reached
-/

namespace HiDumper.Spec

open HiDumper.Native HiDumper.Native.ConfigUtils Layering

variable {table : ConfigData} {st : ConfigUtils} {uid : Int}

/-! ## The calls of an expansion -/

/-- A call of `GetGroup` by name. -/
structure GroupCall where
  name : String
  args : Option OptionArgs
  level : DumperConstant
  nest : Nat

/-- What such a call does with the given fuel. -/
def GroupCall.run (table : ConfigData) (st : ConfigUtils) (uid : Int) (fuel : Nat)
    (call : GroupCall) : Option (DumpStatus × Forest DumpCfg) :=
  getGroup table st uid fuel call.name call.args call.level call.nest

/-- The first call makes the second. The counter of the second is one above the 0 with
    which `GetGroup` by index starts. -/
inductive Calls (table : ConfigData) (st : ConfigUtils) (uid : Int) : GroupCall → GroupCall → Prop
  | minigroup {call : GroupCall} {group : GroupCfg}
      {runs : List (Option OptionArgs × DumperConstant)} {run : Option OptionArgs × DumperConstant}
      {item : String} (hguard : call.nest ≤ ConfigData.nestMax)
      (hgroup : table.findGroup call.name = some group)
      (hruns : expansions st uid group call.args call.level = some runs) (hrun : run ∈ runs)
      (hitem : item ∈ visitedItems group.list) (hmini : startWith item ConfigData.configMinigroup_) :
    Calls table st uid call ⟨item, run.1, run.2, 0 + 1⟩

/-- One call ends when the calls it makes end with one less fuel. -/
private theorem isSome_run_succ {fuel : Nat} {call : GroupCall} :
    (call.run table st uid (fuel + 1)).isSome ↔
      ∀ next, Calls table st uid call next → (next.run table st uid fuel).isSome := by
  simp only [GroupCall.run, getGroup]
  split
  -- Past the guard the call ends at once, and calls nothing.
  · rename_i hguard
    simp only [Option.isSome_some, true_iff]
    intro next hcall
    cases hcall with
    | minigroup hle => omega
  · rename_i hguard
    cases hgroup : table.findGroup call.name with
    -- An unknown group calls nothing either.
    | none =>
      simp only [Option.isSome_some, true_iff]
      intro next hcall
      cases hcall with
      | minigroup _ hfound =>
        rw [hgroup] at hfound
        cases hfound
    -- A group calls the minigroups of its list, once for each of its expansions.
    | some group =>
      simp only [isSome_getGroupAt]
      constructor
      · intro h next hcall
        cases hcall with
        | minigroup _ hfound hruns hrun hitem hmini =>
          rw [hgroup, Option.some.injEq] at hfound
          subst hfound
          exact h _ hruns _ hrun _ hitem hmini
      · intro h runs hruns run hrun item hitem hmini
        apply h ⟨item, run.1, run.2, 0 + 1⟩
        exact .minigroup (by omega) hgroup hruns hrun hitem hmini

/-- Fuel is enough for a call exactly when no chain of calls from it is as long. -/
private theorem isSome_run_iff {fuel : Nat} {call : GroupCall} :
    (call.run table st uid fuel).isSome ↔ ¬∃ last, Walk (Calls table st uid) fuel call last := by
  induction fuel generalizing call with
  | zero =>
    have hnone : call.run table st uid 0 = none := rfl
    simp only [hnone, Option.isSome_none, Bool.false_eq_true, false_iff, not_not]
    exact ⟨call, .nil call⟩
  | succ fuel ih =>
    rw [isSome_run_succ]
    constructor
    · rintro h ⟨last, hwalk⟩
      obtain ⟨next, hcall, hrest⟩ := Walk.succ_iff.mp hwalk
      exact ih.mp (h next hcall) ⟨last, hrest⟩
    · intro h next hcall
      apply ih.mpr
      rintro ⟨last, hrest⟩
      exact h ⟨last, .cons hcall hrest⟩

/-! ## The chains of minigroups -/

/-- Group `name` is expanded for something, and its loop comes to the minigroup `item`. -/
def Expands (table : ConfigData) (st : ConfigUtils) (uid : Int) (name item : String) : Prop :=
  ∃ group, table.findGroup name = some group ∧
    (∃ runs, expansions st uid group none .none = some runs ∧ runs ≠ []) ∧
    item ∈ visitedItems group.list ∧ startWith item ConfigData.configMinigroup_

/-- For how many processes or cpus a group is expanded does not depend on the arguments
    and the level. -/
private theorem length_expansions (group : GroupCfg) (args args' : Option OptionArgs)
    (level level' : DumperConstant) :
    (expansions st uid group args level).map List.length =
      (expansions st uid group args' level').map List.length := by
  have hpids : ∀ clone clone' : OptionArgs,
      (st.currentPidInfos.filterMap fun pidInfo =>
        if getDumpLevelByPid uid pidInfo = .levelNone then none
        else some (some (clone.setPid pidInfo.pid pidInfo.uid), getDumpLevelByPid uid pidInfo)).length =
      (st.currentPidInfos.filterMap fun pidInfo =>
        if getDumpLevelByPid uid pidInfo = .levelNone then none
        else some (some (clone'.setPid pidInfo.pid pidInfo.uid),
          getDumpLevelByPid uid pidInfo)).length := by
    intro clone clone'
    induction st.currentPidInfos with
    | nil => rfl
    | cons pidInfo rest ih =>
      simp only [List.filterMap_cons]
      by_cases hlevel : getDumpLevelByPid uid pidInfo = .levelNone
      · simp [hlevel, ih]
      · simp [hlevel, ih]
  -- The cases are those of the type of the group.
  unfold expansions
  split
  · simp only [Option.map_some, hpids (OptionArgs.clone args) (OptionArgs.clone args')]
  split
  · simp
  split
  · split <;> rfl
  split
  · rfl
  split <;> rfl

/-- Whether a group is expanded does not depend on the arguments it is given. -/
private theorem exists_expansions_iff (group : GroupCfg) (args : Option OptionArgs)
    (level : DumperConstant) :
    (∃ runs, expansions st uid group args level = some runs ∧ runs ≠ []) ↔
      ∃ runs, expansions st uid group none .none = some runs ∧ runs ≠ [] := by
  have hlength := @length_expansions st uid group args none level .none
  cases hleft : expansions st uid group args level with
  | none => simp_all
  | some runs =>
    cases hright : expansions st uid group none .none with
    | none => simp_all
    | some runs' =>
      simp only [hleft, hright, Option.map_some, Option.some.injEq] at hlength
      simp [← List.length_pos_iff, hlength]

/-- A call leads to one for `item` exactly when its group comes to `item`. -/
private theorem exists_calls_iff {call : GroupCall} (hguard : call.nest ≤ ConfigData.nestMax)
    {item : String} :
    (∃ next, Calls table st uid call next ∧ next.name = item ∧ next.nest = 1) ↔
      Expands table st uid call.name item := by
  constructor
  · rintro ⟨next, hcall, rfl, -⟩
    cases hcall with
    | minigroup _ hgroup hruns hrun hitem hmini =>
      have hne := List.ne_nil_of_mem hrun
      exact ⟨_, hgroup, (exists_expansions_iff _ _ _).mp ⟨_, hruns, hne⟩, hitem, hmini⟩
  · rintro ⟨group, hgroup, hexp, hitem, hmini⟩
    obtain ⟨runs, hruns, hne⟩ := (exists_expansions_iff group call.args call.level).mpr hexp
    obtain ⟨run, hrun⟩ := List.exists_mem_of_ne_nil runs hne
    exact ⟨_, .minigroup hguard hgroup hruns hrun hitem hmini, rfl, rfl⟩

/-- A call for a minigroup has the nesting 1, whatever that of its caller is. -/
theorem Calls.nest_eq {call next : GroupCall} (h : Calls table st uid call next) : next.nest = 1 := by
  cases h
  rfl

/-- The chains of calls from a call are the chains of minigroups from its group. -/
theorem exists_walk_calls_iff {n : Nat} {call : GroupCall} (hguard : call.nest ≤ ConfigData.nestMax) :
    (∃ last, Walk (Calls table st uid) n call last) ↔
      ∃ item, Walk (Expands table st uid) n call.name item := by
  induction n generalizing call with
  | zero => exact ⟨fun _ => ⟨call.name, .nil _⟩, fun _ => ⟨call, .nil call⟩⟩
  | succ n ih =>
    constructor
    · rintro ⟨last, hwalk⟩
      obtain ⟨next, hcall, hrest⟩ := Walk.succ_iff.mp hwalk
      -- The counter starts again at each group, so the guard never stops a walk.
      have hnext : next.nest ≤ ConfigData.nestMax := by
        rw [hcall.nest_eq]
        decide
      obtain ⟨item, hitem⟩ := (ih hnext).mp ⟨last, hrest⟩
      have hexpands := (exists_calls_iff hguard).mp ⟨next, hcall, rfl, hcall.nest_eq⟩
      exact ⟨item, .cons hexpands hitem⟩
    · rintro ⟨item, hwalk⟩
      obtain ⟨name, hexpands, hrest⟩ := Walk.succ_iff.mp hwalk
      obtain ⟨next, hcall, rfl, hnest⟩ := (exists_calls_iff hguard).mpr hexpands
      have hnext : next.nest ≤ ConfigData.nestMax := by
        rw [hnest]
        decide
      obtain ⟨last, hlast⟩ := (ih hnext).mpr ⟨item, hrest⟩
      exact ⟨last, .cons hcall hlast⟩

/-- Fuel is enough for a group exactly when no chain of minigroups from it is as long. -/
theorem isSome_getGroup_iff {fuel : Nat} {name : String} {args : Option OptionArgs}
    {level : DumperConstant} {nest : Nat} (hguard : nest ≤ ConfigData.nestMax) :
    (getGroup table st uid fuel name args level nest).isSome ↔
      ¬∃ item, Walk (Expands table st uid) fuel name item := by
  have hcalls := @exists_walk_calls_iff table st uid fuel ⟨name, args, level, nest⟩ hguard
  rw [← hcalls]
  exact @isSome_run_iff table st uid fuel ⟨name, args, level, nest⟩

/-! ## The bound that the counter is meant to be -/

/-- The expansion that starts with `call` is bounded by the counter: the calls end at the
    one after `NEST_MAX`, and every call has the number of steps to it as its counter. -/
structure NestBounded (table : ConfigData) (st : ConfigUtils) (uid : Int) (call : GroupCall) :
    Prop where
  ends : (call.run table st uid (ConfigData.nestMax + 2)).isSome
  counts : ∀ n last, Walk (Calls table st uid) n call last → last.nest = n

/-- The counter of a call in an expansion: 0 for the first, 1 for all others. -/
private theorem nest_of_walk_succ {n : Nat} {call last : GroupCall}
    (h : Walk (Calls table st uid) (n + 1) call last) : last.nest = 1 := by
  induction n generalizing call with
  | zero =>
    obtain ⟨next, hcall, hrest⟩ := Walk.succ_iff.mp h
    cases hrest
    exact hcall.nest_eq
  | succ n ih =>
    obtain ⟨next, -, hrest⟩ := Walk.succ_iff.mp h
    exact ih hrest

/-- The nesting is bounded exactly if no minigroup calls a minigroup. -/
private theorem nestBounded_iff_no_walk {call : GroupCall} (hnest : call.nest = 0) :
    NestBounded table st uid call ↔ ¬∃ last, Walk (Calls table st uid) 2 call last := by
  constructor
  · rintro h ⟨last, hwalk⟩
    have hcounts := h.counts 2 last hwalk
    rw [nest_of_walk_succ hwalk] at hcounts
    omega
  · intro hno
    constructor
    · apply isSome_run_iff.mpr
      rintro ⟨last, hwalk⟩
      exact hno (hwalk.exists_of_le (by decide))
    · intro n last hwalk
      match n, hwalk with
      | 0, .nil _ => exact hnest
      | 1, hwalk => exact nest_of_walk_succ hwalk
      | n + 2, hwalk => exact absurd (hwalk.exists_of_le (by omega)) hno

/-- Expanding a group from the outside, as `GetConfig` does. The counter bounds the
    expansion exactly when no minigroup on the way lists a minigroup; the calls end where
    the counter would stop them exactly when no chain of minigroups gets there, and they
    end at all exactly when no cycle of minigroups is reached. -/
theorem nestBounded_iff (table : ConfigData) (st : ConfigUtils) (uid : Int) (name : String)
    (args : Option OptionArgs) (level : DumperConstant) :
    (NestBounded table st uid ⟨name, args, level, 0⟩ ↔
      ¬∃ item, Walk (Expands table st uid) 2 name item) ∧
    ((getGroup table st uid (ConfigData.nestMax + 2) name args level 0).isSome ↔
      ¬∃ item, Walk (Expands table st uid) (ConfigData.nestMax + 2) name item) ∧
    ((∃ fuel, (getGroup table st uid fuel name args level 0).isSome) ↔
      ¬ReachesCycle (Expands table st uid) name) := by
  have hguard : 0 ≤ ConfigData.nestMax := Nat.zero_le _
  refine ⟨?_, isSome_getGroup_iff hguard, ?_⟩
  · rw [nestBounded_iff_no_walk rfl, exists_walk_calls_iff hguard]
  · -- Only the names of groups expand to anything.
    have hlisted : ∀ x y, Expands table st uid x y → x ∈ table.groups.map (·.name) := by
      rintro x y ⟨group, hgroup, -⟩
      obtain ⟨hmem, rfl⟩ := name_of_findGroup hgroup
      exact List.mem_map_of_mem hmem
    rw [← exists_no_walk_iff _ hlisted]
    simp only [isSome_getGroup_iff hguard]

/-- A group with a minigroup that lists itself. -/
def selfListing : ConfigData where
  dumpers := []
  groups :=
    [{ name := "group_a", desc := "", list := ["groupmini_a"], type := .none, expand := false },
      { name := "groupmini_a", desc := "", list := ["groupmini_a"], type := .none,
        expand := false }]

private theorem expands_selfListing :
    Expands selfListing {} 0 "group_a" "groupmini_a" ∧
      Expands selfListing {} 0 "groupmini_a" "groupmini_a" := by
  constructor
  · exact ⟨_, rfl, ⟨_, rfl, by decide⟩, by decide, by decide⟩
  · exact ⟨_, rfl, ⟨_, rfl, by decide⟩, by decide, by decide⟩

/-- A group that lists itself is looked up without end. -/
theorem not_nestBounded_selfListing :
    ¬ NestBounded selfListing {} 0 ⟨"group_a", none, .none, 0⟩ ∧
      ∀ fuel, getGroup selfListing {} 0 fuel "group_a" none .none 0 = none := by
  have hwalk : ∀ n, ∃ item, Walk (Expands selfListing {} 0) n "group_a" item := by
    have hcycle : ReachesCycle (Expands selfListing {} 0) "group_a" :=
      ⟨"groupmini_a", .single expands_selfListing.1, .single expands_selfListing.2⟩
    exact hcycle.exists_walk
  constructor
  · rw [nestBounded_iff_no_walk rfl, exists_walk_calls_iff (Nat.zero_le _), not_not]
    exact hwalk 2
  · intro fuel
    rw [← Option.not_isSome_iff_eq_none, isSome_getGroup_iff (Nat.zero_le _), not_not]
    exact hwalk fuel

end HiDumper.Spec
