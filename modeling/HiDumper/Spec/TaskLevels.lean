import HiDumper.ForStd.Layering
import HiDumper.Native.TaskControl

/-!
# Levels of a task collection

What the selection loop shared by `VerifyTaskTopo` and `ExecuteTaskInner`
computes. `SelectRun` is the loop as a derivation, so that both functions are
compared with one object: the levels it passes through and the tasks it leaves.
The invariant `Residual` ties what is left of a collection to the original one:
a task that is not excluded is either done, or present with its original
dependencies less the done ones.

## Key results

- `SelectRun.layered`: the levels layer the dependency relation
- `verifyTaskTopo_iff`: what `VerifyTaskTopo` accepts, in terms of the graph alone
-/

namespace HiDumper.Spec

open HiDumper.Native Layering

variable {V : Type} {container tasks orig : TaskCollection}

/-! ## Dependencies and what is left of them -/

/-- `t` depends on `d` in the collection. -/
def DependsOn (tasks : TaskCollection) (t d : TaskId) : Prop :=
  ∃ info, tasks.lookup t = some info ∧ d ∈ info.taskDependency

/-- A task whose dependencies on `done` have been stripped. -/
def strip (done : List TaskId) (info : RegTaskInfo) : RegTaskInfo :=
  { info with taskDependency := info.taskDependency.filter fun d => !done.contains d }

/-- Taking done tasks off twice takes all of them off. -/
private theorem strip_strip (l done : List TaskId) (info : RegTaskInfo) :
    strip l (strip done info) = strip (l ++ done) info := by
  unfold strip
  simp only [List.filter_filter, RegTaskInfo.mk.injEq, true_and, and_true]
  apply List.filter_congr
  intro d _
  simp only [List.contains_eq_mem, List.mem_append, Bool.decide_or, Bool.not_or]

/-- A task is ready when all its dependencies are done. -/
private theorem strip_isEmpty_iff {done : List TaskId} {info : RegTaskInfo} :
    (strip done info).taskDependency.isEmpty = true ↔ ∀ d ∈ info.taskDependency, d ∈ done := by
  simp only [strip, List.isEmpty_iff, List.filter_eq_nil_iff, List.contains_eq_mem,
    Bool.not_eq_true', decide_eq_false_iff_not, not_not]

/-- `tasks` is what the loop has left of `orig` after running `done`. -/
structure Residual (container orig : TaskCollection) (done : List TaskId)
    (tasks : TaskCollection) : Prop where
  /-- A task that is not excluded is done or present with its remaining dependencies. -/
  lookup : ∀ t, isTaskExcessivelyFailed container t = false →
    tasks.lookup t = if t ∈ done then none else (orig.lookup t).map (strip done)
  /-- Nothing new appears. -/
  mem_orig : ∀ t ∈ tasks, t ∈ orig

/-- Before the first level all tasks are left. -/
theorem Residual.start (container tasks : TaskCollection) : Residual container tasks [] tasks := by
  refine ⟨fun t _ => ?_, fun t ht => ht⟩
  have hid : strip [] = id := by
    funext info
    simp [strip]
  simp [hid]

/-! ## One selection -/

/-- Runnable are the tasks without dependencies that have not failed too often. -/
theorem lookup_runnable (t : TaskId) :
    (selectRunnableTasks container tasks).1.lookup t = (tasks.lookup t).filter fun info =>
      !isTaskExcessivelyFailed container t && info.taskDependency.isEmpty := by
  unfold selectRunnableTasks
  exact AList.lookup_filterEntries _ _ _

/-- What remains has lost the dependencies that are running. -/
private theorem lookup_remaining (t : TaskId) :
    (selectRunnableTasks container tasks).2.lookup t = ((tasks.lookup t).filter fun info =>
      !isTaskExcessivelyFailed container t && !info.taskDependency.isEmpty).map
        (strip (selectRunnableTasks container tasks).1.keys) := by
  unfold selectRunnableTasks updateTaskDependencies
  rw [AList.lookup_mapVal, AList.lookup_filterEntries]
  rfl

/-- A key is selected when it has no dependencies and is not excluded. -/
theorem mem_runnable_iff {t : TaskId} : t ∈ (selectRunnableTasks container tasks).1 ↔
    isTaskExcessivelyFailed container t = false ∧
      ∃ info, tasks.lookup t = some info ∧ info.taskDependency.isEmpty = true := by
  rw [← AList.lookup_isSome, lookup_runnable]
  cases h : tasks.lookup t with
  | none => simp
  | some info =>
    rw [Option.isSome_filter]
    simp

/-- Remaining are the tasks with dependencies that have not failed too often. -/
theorem mem_remaining_iff {t : TaskId} : t ∈ (selectRunnableTasks container tasks).2 ↔
    isTaskExcessivelyFailed container t = false ∧
      ∃ info, tasks.lookup t = some info ∧ info.taskDependency.isEmpty = false := by
  rw [← AList.lookup_isSome, lookup_remaining, Option.isSome_map]
  cases h : tasks.lookup t with
  | none => simp
  | some info =>
    rw [Option.isSome_filter]
    simp

/-- Only the exclusion of the tasks present matters, so a registry that agrees
    on them selects the same tasks. -/
theorem selectRunnableTasks_congr {container' : TaskCollection}
    (h : ∀ t ∈ tasks, isTaskExcessivelyFailed container t = isTaskExcessivelyFailed container' t) :
    selectRunnableTasks container tasks = selectRunnableTasks container' tasks := by
  have hfilter : ∀ q : RegTaskInfo → Bool,
      tasks.filterEntries (fun id info => !isTaskExcessivelyFailed container id && q info) =
        tasks.filterEntries (fun id info => !isTaskExcessivelyFailed container' id && q info) := by
    intro q
    apply AList.ext
    simp only [AList.filterEntries]
    apply List.filter_congr
    intro e he
    rw [h e.1 (List.mem_map_of_mem he)]
  unfold selectRunnableTasks
  rw [hfilter fun info => info.taskDependency.isEmpty,
    hfilter fun info => !info.taskDependency.isEmpty]

/-- Selecting something leaves strictly fewer tasks. -/
private theorem remaining_length_lt (h : (selectRunnableTasks container tasks).1.entries ≠ []) :
    (selectRunnableTasks container tasks).2.entries.length < tasks.entries.length := by
  simp only [selectRunnableTasks, updateTaskDependencies, AList.mapVal, AList.filterEntries,
    List.length_map] at h ⊢
  -- The filter for the remaining tasks drops every selected one.
  obtain ⟨e, he⟩ := List.exists_mem_of_ne_nil _ h
  rw [List.mem_filter] at he
  apply List.length_filter_lt_length_iff_exists.mpr
  refine ⟨e, he.1, ?_⟩
  have hempty := he.2
  simp only [Bool.and_eq_true, Bool.not_eq_true', List.isEmpty_iff] at hempty
  simp [hempty.2]

/-- Step lemma: one selection carries the invariant from `done` to the selected
    tasks and `done`. -/
theorem Residual.select {done : List TaskId} (h : Residual container orig done tasks) :
    Residual container orig ((selectRunnableTasks container tasks).1.keys ++ done)
      (selectRunnableTasks container tasks).2 := by
  refine ⟨fun t hexcl => ?_, fun t ht => ?_⟩
  · have hlookup := h.lookup t hexcl
    rw [lookup_remaining]
    by_cases hdone : t ∈ done
    · simp [hlookup, hdone]
    · rw [if_neg hdone] at hlookup
      cases ho : orig.lookup t with
      | none => simp [hlookup, ho]
      | some info =>
        rw [ho, Option.map_some] at hlookup
        -- The task is selected exactly when its stripped dependencies are empty.
        cases hemp : (strip done info).taskDependency.isEmpty with
        | true =>
          have hsel := AList.mem_keys.mp (mem_runnable_iff.mpr ⟨hexcl, _, hlookup, hemp⟩)
          simp [hlookup, List.isEmpty_iff.mp hemp, hsel]
        | false =>
          have hsel : t ∉ (selectRunnableTasks container tasks).1.keys := by
            intro hmem
            obtain ⟨_, info', hinfo', hemp'⟩ := mem_runnable_iff.mp (AList.mem_keys.mpr hmem)
            rw [hlookup, Option.some.injEq] at hinfo'
            rw [hinfo', hemp'] at hemp
            exact nomatch hemp
          simp [hlookup, List.isEmpty_eq_false_iff.mp hemp, hexcl, hsel, hdone,
            strip_strip]
  · obtain ⟨_, info, hinfo, _⟩ := mem_remaining_iff.mp ht
    exact h.mem_orig t (AList.lookup_isSome.mp (by simp [hinfo]))

/-- The selected tasks are the new ones whose dependencies are all done. -/
theorem Residual.selected_iff {done : List TaskId} (h : Residual container orig done tasks)
    {t : TaskId} : t ∈ (selectRunnableTasks container tasks).1 ↔
      isTaskExcessivelyFailed container t = false ∧ t ∈ orig ∧ t ∉ done ∧
        ∀ d, DependsOn orig t d → d ∈ done := by
  rw [mem_runnable_iff]
  apply and_congr_right
  intro hexcl
  rw [h.lookup t hexcl]
  by_cases hdone : t ∈ done
  · simp [hdone]
  · rw [if_neg hdone, ← AList.lookup_isSome]
    cases ho : orig.lookup t with
    | none => simp
    | some info =>
      -- Stripped dependencies are empty exactly when all of them are done.
      have hdep : (∀ d, DependsOn orig t d → d ∈ done) ↔ ∀ d ∈ info.taskDependency, d ∈ done := by
        simp only [DependsOn, ho, Option.some.injEq, exists_eq_left']
      rw [hdep, ← strip_isEmpty_iff]
      simp [hdone]

/-! ## The selection loop -/

/-- The loop `runnableTasks = SelectRunnableTasks(tasks)` until nothing is
    runnable: the levels `(runnable, remaining)` it passes and what it leaves. -/
inductive SelectRun (container : TaskCollection) :
    TaskCollection → List (TaskCollection × TaskCollection) → TaskCollection → Prop
  | stop {tasks : TaskCollection}
      (hempty : (selectRunnableTasks container tasks).1.entries = []) :
      SelectRun container tasks [] (selectRunnableTasks container tasks).2
  | level {tasks rest : TaskCollection} {levels : List (TaskCollection × TaskCollection)}
      (hsome : (selectRunnableTasks container tasks).1.entries ≠ [])
      (hrest : SelectRun container (selectRunnableTasks container tasks).2 levels rest) :
      SelectRun container tasks (selectRunnableTasks container tasks :: levels) rest

/-- The ids of the levels. -/
def layers (levels : List (TaskCollection × TaskCollection)) : List (List TaskId) :=
  levels.map fun level => level.1.keys

/-- The loop ends on every collection. -/
theorem exists_selectRun (container tasks : TaskCollection) :
    ∃ levels rest, SelectRun container tasks levels rest := by
  -- Induction on the number of tasks, which every level lowers.
  suffices ∀ n, ∀ tasks : TaskCollection, tasks.entries.length < n →
      ∃ levels rest, SelectRun container tasks levels rest from
    this _ tasks (Nat.lt_succ_self _)
  intro n
  induction n with
  | zero =>
    intro tasks hlt
    omega
  | succ n ih =>
    intro tasks hlt
    by_cases h : (selectRunnableTasks container tasks).1.entries = []
    · exact ⟨_, _, .stop h⟩
    · have hless := remaining_length_lt h
      obtain ⟨levels, rest, hrun⟩ := ih (selectRunnableTasks container tasks).2 (by omega)
      exact ⟨_, _, .level h hrun⟩

namespace SelectRun

variable {rest : TaskCollection} {levels : List (TaskCollection × TaskCollection)}

/-- There are at most as many levels as tasks. -/
theorem length_le (h : SelectRun container tasks levels rest) :
    levels.length ≤ tasks.entries.length := by
  induction h with
  | stop _ => exact Nat.zero_le _
  | level hsome _ ih =>
    have hless := remaining_length_lt hsome
    rw [List.length_cons]
    omega

/-- `verifyLoop` follows the derivation. -/
private theorem verifyLoop_eq (h : SelectRun container tasks levels rest) {fuel : Nat}
    (hfuel : levels.length < fuel) : verifyLoop container fuel tasks = some rest := by
  induction h generalizing fuel with
  | stop hempty =>
    cases fuel with
    | zero => omega
    | succ fuel => simp [verifyLoop, hempty]
  | level hsome hrest ih =>
    cases fuel with
    | zero => omega
    | succ fuel =>
      rw [List.length_cons] at hfuel
      simp only [verifyLoop, List.isEmpty_iff, hsome, ↓reduceIte]
      exact ih (by omega)

/-- Run lemma: the invariant reaches the end of the loop, with all levels done. -/
theorem residual (h : SelectRun container tasks levels rest) {done : List TaskId}
    (hres : Residual container orig done tasks) :
    ∃ done', (∀ t, t ∈ done' ↔ t ∈ (layers levels).flatten ∨ t ∈ done) ∧
      Residual container orig done' rest := by
  induction h generalizing done with
  | stop hempty =>
    -- The last selection is empty, so it adds nothing to what is done.
    refine ⟨(selectRunnableTasks container _).1.keys ++ done, fun t => ?_, hres.select⟩
    simp [layers, AList.keys, hempty]
  | level hsome hrest ih =>
    obtain ⟨done', hmem, hres'⟩ := ih hres.select
    refine ⟨done', fun t => ?_, hres'⟩
    rw [hmem t]
    simp only [layers, List.map_cons, List.flatten_cons, List.mem_append]
    tauto

/-- The levels layer the dependencies of the original collection. -/
theorem layered (h : SelectRun container tasks levels rest) {done : List TaskId}
    (hres : Residual container orig done tasks) :
    Layered (DependsOn orig) done (layers levels) := by
  induction h generalizing done with
  | stop _ => trivial
  | level hsome hrest ih =>
    refine ⟨AList.keys_nodup _, fun t ht => ?_, ih hres.select⟩
    have hready := hres.selected_iff.mp (AList.mem_keys.mpr ht)
    exact ⟨hready.2.2.1, hready.2.2.2⟩

/-- Level `i` holds exactly the tasks that become ready after the levels before it. -/
theorem mem_layer_iff (h : SelectRun container tasks levels rest) {done : List TaskId}
    (hres : Residual container orig done tasks) {i : Nat} {l : List TaskId}
    (hi : (layers levels)[i]? = some l) {t : TaskId} :
    t ∈ l ↔ isTaskExcessivelyFailed container t = false ∧ t ∈ orig ∧
      t ∉ ((layers levels).take i).flatten ++ done ∧
      ∀ d, DependsOn orig t d → d ∈ ((layers levels).take i).flatten ++ done := by
  induction h generalizing done i with
  | stop _ => simp [layers] at hi
  | level hsome hrest ih =>
    cases i with
    | zero =>
      -- The first level is the selection from the collection itself.
      simp only [layers, List.map_cons, List.getElem?_cons_zero, Option.some.injEq] at hi
      rw [← hi, ← AList.mem_keys, hres.selected_iff]
      simp
    | succ i =>
      -- A later level is one of the remaining run, whose done tasks include this level.
      simp only [layers, List.map_cons, List.getElem?_cons_succ] at hi
      rw [ih hres.select hi]
      simp only [layers, List.map_cons, List.take_succ_cons, List.flatten_cons, List.mem_append,
        or_assoc, or_left_comm]

/-- Every task of a level is a task of the collection that is not excluded. -/
theorem mem_of_mem_layers (h : SelectRun container tasks levels rest) {t : TaskId}
    (ht : t ∈ (layers levels).flatten) :
    t ∈ tasks ∧ isTaskExcessivelyFailed container t = false := by
  induction h with
  | stop _ => simp [layers] at ht
  | level hsome hrest ih =>
    simp only [layers, List.map_cons, List.flatten_cons, List.mem_append] at ht
    rcases ht with ht | ht
    · obtain ⟨hexcl, info, hinfo, _⟩ := mem_runnable_iff.mp (AList.mem_keys.mpr ht)
      exact ⟨AList.lookup_isSome.mp (by simp [hinfo]), hexcl⟩
    · obtain ⟨hmem, hexcl⟩ := ih ht
      obtain ⟨_, info, hinfo, _⟩ := mem_remaining_iff.mp hmem
      exact ⟨AList.lookup_isSome.mp (by simp [hinfo]), hexcl⟩

/-- When nothing is left at the end, every task that is not excluded lies in a level. -/
theorem mem_layers_of_rest (h : SelectRun container tasks levels rest) (hrest : rest.entries = [])
    {t : TaskId} (hexcl : isTaskExcessivelyFailed container t = false) (ht : t ∈ tasks) :
    t ∈ (layers levels).flatten := by
  obtain ⟨done, hdone, hres⟩ := h.residual (Residual.start container tasks)
  simp only [List.not_mem_nil, or_false] at hdone
  obtain ⟨info, hinfo⟩ := Option.isSome_iff_exists.mp (AList.lookup_isSome.mpr ht)
  have hlookup := hres.lookup t hexcl
  -- A task that is in no level would still be left at the end.
  by_contra hnot
  rw [if_neg (by rwa [hdone t]), hinfo, Option.map_some, AList.lookup_eq_some_iff,
    hrest] at hlookup
  exact nomatch hlookup

/-- A task left at the end is not excluded and still waits for some task. -/
private theorem waiting_of_mem_rest (h : SelectRun container tasks levels rest) {t : TaskId}
    (ht : t ∈ rest) : isTaskExcessivelyFailed container t = false ∧
      ∃ info, rest.lookup t = some info ∧ info.taskDependency ≠ [] := by
  induction h with
  | stop hempty =>
    -- Nothing was selected last, so nothing was stripped either.
    obtain ⟨hexcl, info, hinfo, hdep⟩ := mem_remaining_iff.mp ht
    rw [List.isEmpty_eq_false_iff] at hdep
    refine ⟨hexcl, strip [] info, ?_, ?_⟩
    · rw [lookup_remaining, hinfo]
      simp [AList.keys, hempty, hexcl, hdep]
    · simpa [strip] using hdep
  | level _ _ ih => exact ih ht

end SelectRun

/-! ## What VerifyTaskTopo accepts -/

/-- `VerifyTaskTopo` always answers, and accepts when the loop leaves nothing. -/
theorem verifyTaskTopo_eq {rest : TaskCollection}
    {levels : List (TaskCollection × TaskCollection)}
    (h : SelectRun container tasks levels rest) :
    verifyTaskTopo container tasks =
      some (decide (tasks.entries ≠ [] ∧ rest.entries = [])) := by
  unfold verifyTaskTopo
  have hlen := h.length_le
  cases htasks : tasks.entries with
  | nil => simp
  | cons e es =>
    rw [htasks, List.length_cons] at hlen
    rw [List.length_cons, h.verifyLoop_eq (by omega)]
    by_cases hrest : rest.entries = [] <;> simp [hrest]

/-- The dependencies between tasks that are not excluded. -/
def ActiveDependsOn (container tasks : TaskCollection) (t d : TaskId) : Prop :=
  isTaskExcessivelyFailed container t = false ∧ DependsOn tasks t d

/-- The loop runs all tasks that are not excluded exactly when these depend on
    one another only, and without a cycle. -/
theorem SelectRun.rest_empty_iff {rest : TaskCollection}
    {levels : List (TaskCollection × TaskCollection)}
    (h : SelectRun container tasks levels rest) :
    rest.entries = [] ↔
      (∀ t d, ActiveDependsOn container tasks t d →
        d ∈ tasks ∧ isTaskExcessivelyFailed container d = false) ∧
      Acyclic (ActiveDependsOn container tasks) := by
  obtain ⟨done, hdone, hres⟩ := h.residual (Residual.start container tasks)
  have hlayered := h.layered (Residual.start container tasks)
  simp only [List.not_mem_nil, or_false] at hdone
  refine ⟨fun hempty => ?_, fun hgraph => ?_⟩
  · -- Every active task lies in a layer, so its dependencies lie in earlier ones.
    have hactive : ∀ t d, ActiveDependsOn container tasks t d → t ∈ (layers levels).flatten := by
      intro t d htd
      obtain ⟨hexcl, info, hinfo, _⟩ := htd
      exact h.mem_layers_of_rest hempty hexcl (AList.lookup_isSome.mp (by simp [hinfo]))
    refine ⟨fun t d htd => ?_, ?_⟩
    · obtain ⟨l, hl, htl⟩ := List.mem_flatten.mp (hactive t d htd)
      obtain ⟨i, hi⟩ := List.getElem?_of_mem hl
      have hd := hlayered.dep_mem_take hi htl htd.2
      simp only [List.not_mem_nil, false_or] at hd
      obtain ⟨j, _, l', hl', hdl'⟩ := exists_lt_of_mem_flatten_take hd
      exact h.mem_of_mem_layers (List.mem_flatten.mpr ⟨l', List.mem_of_getElem? hl', hdl'⟩)
    · exact (hlayered.mono fun t d htd => htd.2).acyclic hactive
  · -- A task left over that depends on nothing left over would have been selected.
    by_contra hne
    have hkeys : rest.keys ≠ [] := by simpa [AList.keys, List.keys] using hne
    obtain ⟨t, ht, hready⟩ := hgraph.2.exists_ready rest.keys hkeys
    obtain ⟨hexcl, info, hinfo, hdep⟩ := h.waiting_of_mem_rest (AList.mem_keys.mpr ht)
    have hlookup := hres.lookup t hexcl
    rw [hinfo] at hlookup
    by_cases htdone : t ∈ done
    · simp [htdone] at hlookup
    rw [if_neg htdone] at hlookup
    obtain ⟨oinfo, hoinfo, hstrip⟩ := Option.map_eq_some_iff.mp hlookup.symm
    -- It waits for some `d` that is not done and, by assumption, is a task to run.
    obtain ⟨d, hd⟩ := List.exists_mem_of_ne_nil _ hdep
    simp only [← hstrip, strip, List.mem_filter, List.contains_eq_mem, Bool.not_eq_true',
      decide_eq_false_iff_not] at hd
    have htd : ActiveDependsOn container tasks t d := ⟨hexcl, oinfo, hoinfo, hd.1⟩
    obtain ⟨hdmem, hdexcl⟩ := hgraph.1 t d htd
    refine hready d (AList.mem_keys.mp ?_) htd
    obtain ⟨dinfo, hdinfo⟩ := Option.isSome_iff_exists.mp (AList.lookup_isSome.mpr hdmem)
    rw [← AList.lookup_isSome, hres.lookup d hdexcl, if_neg hd.2, hdinfo]
    rfl

/-- `VerifyTaskTopo` in terms of the graph: some task is left to check, the
    tasks that are not excluded depend only on such tasks of the collection, and
    there is no cycle among them. -/
theorem verifyTaskTopo_iff (container tasks : TaskCollection) :
    verifyTaskTopo container tasks = some true ↔
    tasks.entries ≠ [] ∧
      (∀ t d, ActiveDependsOn container tasks t d →
        d ∈ tasks ∧ isTaskExcessivelyFailed container d = false) ∧
      Acyclic (ActiveDependsOn container tasks) := by
  obtain ⟨levels, rest, h⟩ := exists_selectRun container tasks
  rw [verifyTaskTopo_eq h, ← h.rest_empty_iff]
  simp

/-- A root task `10001` that depends on a mandatory task `1`. -/
def chainTasks : TaskCollection :=
  ⟨[⟨10001, ⟨true, [], [1], "root", 0, false⟩⟩, ⟨1, ⟨true, [], [], "leaf", 0, true⟩⟩], by decide⟩

example : verifyTaskTopo chainTasks chainTasks = some true := by decide

end HiDumper.Spec
