import HiDumper.Spec.TaskLevels

/-!
# Runs of ExecuteTaskInner

A run goes through the levels of the selection loop up to the first one in which
a mandatory task fails. The registry changes during a run, but only for tasks
that have just been executed, so it never changes what later levels select.

## Key results

- `executeTaskInner_of_selectRun`: the whole run as a function of the levels
- `executeTaskInner_runs_levels`: order, multiplicity and status of a run
-/

namespace HiDumper.Spec

open HiDumper.Native Layering

variable {V : Type} {container tasks : TaskCollection}

/-! ## What a level does to the registry -/

/-- An update of one task's failure count leaves the exclusion of the others. -/
private theorem isTaskExcessivelyFailed_update {t t' : TaskId} (reset : Bool) (h : t' ≠ t) :
    isTaskExcessivelyFailed (updateTaskFailureCount container t reset) t' =
      isTaskExcessivelyFailed container t' := by
  unfold updateTaskFailureCount
  cases hlookup : container.lookup t with
  | none => rfl
  | some info =>
    unfold isTaskExcessivelyFailed
    rw [AList.lookup_insert_ne h]

/-- Step lemma: an event of another task leaves the exclusion of `t`. -/
private theorem isTaskExcessivelyFailed_apply (s : RunState V) {e : TaskId × TaskEvent V}
    {t : TaskId}
    (h : t ≠ e.1) : isTaskExcessivelyFailed (s.apply e).container t =
      isTaskExcessivelyFailed s.container t := by
  obtain ⟨t', ev⟩ := e
  cases ev with
  | start => rfl
  | op o => rfl
  | updateFailureCount reset => exact isTaskExcessivelyFailed_update reset h

/-- Run lemma: events of other tasks leave the exclusion of `t`. -/
private theorem isTaskExcessivelyFailed_foldl (s : RunState V)
    (events : List (TaskId × TaskEvent V))
    {t : TaskId} (h : ∀ e ∈ events, t ≠ e.1) :
    isTaskExcessivelyFailed (events.foldl RunState.apply s).container t =
      isTaskExcessivelyFailed s.container t := by
  induction events generalizing s with
  | nil => rfl
  | cons e events ih =>
    rw [List.foldl_cons, ih _ fun e' he' => h e' (List.mem_cons_of_mem e he'),
      isTaskExcessivelyFailed_apply s (h e List.mem_cons_self)]

/-- The events of a level belong to its tasks. -/
theorem mem_submitRunnableTasks {env : TaskEnv V} {level : Nat} {runnable : TaskCollection}
    {e : TaskId × TaskEvent V} (he : e ∈ env.submitRunnableTasks level runnable) :
    ∃ info, runnable.lookup e.1 = some info ∧ e.2 ∈ env.taskEvents e.1 info := by
  obtain ⟨t, ev⟩ := e
  obtain ⟨evs, hevs, hmem⟩ := Interleave.mem_interleave.mp he
  simp only [List.mem_map, Prod.mk.injEq] at hevs
  obtain ⟨⟨t', info⟩, hentry, rfl, rfl⟩ := hevs
  exact ⟨info, AList.lookup_eq_some_iff.mpr hentry, hmem⟩

/-- A level changes the counts of its own tasks only, so the tasks left for
    later levels are excluded after it exactly when they were before. -/
private theorem isTaskExcessivelyFailed_remaining (env : TaskEnv V) (level : Nat) (s : RunState V)
    (hagree : ∀ t ∈ tasks,
      isTaskExcessivelyFailed container t = isTaskExcessivelyFailed s.container t) :
    ∀ t ∈ (selectRunnableTasks container tasks).2,
      isTaskExcessivelyFailed container t = isTaskExcessivelyFailed
        ((env.submitRunnableTasks level (selectRunnableTasks container tasks).1).foldl
          RunState.apply s).container t := by
  intro t ht
  obtain ⟨_, info, hinfo, hdep⟩ := mem_remaining_iff.mp ht
  rw [isTaskExcessivelyFailed_foldl s _ ?_]
  · exact hagree t (AList.lookup_isSome.mp (by simp [hinfo]))
  · -- An event belongs to a selected task, and those have no dependencies left.
    intro e he heq
    obtain ⟨_, hlookup, _⟩ := mem_submitRunnableTasks he
    have hmem : e.1 ∈ (selectRunnableTasks container tasks).1 :=
      AList.lookup_isSome.mp (by simp [hlookup])
    rw [← heq] at hmem
    obtain ⟨_, info', hinfo', hdep'⟩ := mem_runnable_iff.mp hmem
    rw [hinfo, Option.some.injEq] at hinfo'
    rw [hinfo', hdep'] at hdep
    exact nomatch hdep

/-- Events that start a task. -/
def startedTask (e : TaskId × TaskEvent V) : Option TaskId :=
  match e with
  | (taskId, .start) => some taskId
  | _ => none

/-- A task starts once, whatever it does afterwards. -/
private theorem filterMap_startedTask_taskEvents (env : TaskEnv V) (t : TaskId)
    (info : RegTaskInfo) :
    ((env.taskEvents t info).map fun e => (t, e)).filterMap startedTask = [t] := by
  unfold TaskEnv.taskEvents
  simp only [List.map_append, List.map_cons, List.map_map, List.filterMap_append,
    List.filterMap_cons, startedTask]
  have hops : ∀ l : List (InventoryOp V),
      (l.map ((fun e => (t, e)) ∘ TaskEvent.op)).filterMap startedTask = [] := by
    intro l
    simp [startedTask]
  have hresets : ∀ l : List Bool,
      (l.map ((fun e => (t, e)) ∘ (TaskEvent.updateFailureCount (V := V)))).filterMap
        startedTask = [] := by
    intro l
    simp [startedTask]
  rw [hops, hresets]
  rfl

/-- Every task of a level starts exactly once in it, in whatever order. -/
private theorem filterMap_startedTask_submit (env : TaskEnv V) (level : Nat)
    (runnable : TaskCollection) :
    ((env.submitRunnableTasks level runnable).filterMap startedTask).Perm runnable.keys := by
  unfold TaskEnv.submitRunnableTasks
  -- Any interleaving has the same events, so the order of the threads does not matter.
  refine ((Interleave.interleave_perm _ _).filterMap _).trans (List.Perm.of_eq ?_)
  simp only [Interleave.events, AList.keys, List.keys]
  induction runnable.entries with
  | nil => rfl
  | cons entry entries ih =>
    simp only [List.map_cons, List.flatMap_cons, List.filterMap_append,
      filterMap_startedTask_taskEvents]
    rw [ih]
    rfl

/-! ## A run as a function of the levels -/

/-- Whether a mandatory task of the level fails. -/
def levelFailed (env : TaskEnv V) (level : TaskCollection × TaskCollection) : Bool :=
  !getTaskResult (env.levelStat level.1)

/-- The record of level `i`. -/
def traceOf (env : TaskEnv V) (i : Nat) (level : TaskCollection × TaskCollection) :
    LevelTrace V :=
  ⟨level.1, level.2, env.submitRunnableTasks i level.1, getTaskResult (env.levelStat level.1)⟩

/-- A level starts its runnable tasks, in some order. -/
theorem started_traceOf (env : TaskEnv V) (i : Nat) (level : TaskCollection × TaskCollection) :
    (traceOf env i level).started.Perm level.1.keys :=
  filterMap_startedTask_submit env i level.1

/-- The levels a run goes through: up to the first failing one, if any. -/
def runLevels (env : TaskEnv V) (levels : List (TaskCollection × TaskCollection)) :
    List (TaskCollection × TaskCollection) :=
  levels.take (levels.findIdx (levelFailed env) + 1)

/-- Level `i` of a run is the record of level `i` of the selection loop. -/
theorem getElem?_traces {env : TaskEnv V} {levels : List (TaskCollection × TaskCollection)}
    {i : Nat} {level : LevelTrace V}
    (hi : ((runLevels env levels).mapIdx (traceOf env))[i]? = some level) :
    ∃ l, levels[i]? = some l ∧ level = traceOf env i l := by
  rw [List.getElem?_mapIdx, Option.map_eq_some_iff] at hi
  obtain ⟨l, hl, heq⟩ := hi
  rw [runLevels, List.getElem?_take] at hl
  split at hl
  · exact ⟨l, hl, heq.symm⟩
  · exact nomatch hl

/-- The steps of a level as the shared state sees them. -/
theorem foldl_steps (s : RunState V) (level : LevelTrace V) :
    level.steps.foldl RunState.applyStep s =
      let s' := level.events.foldl RunState.apply s
      if level.executeResult then
        { s' with dataInventory := releaseNoUsedData s'.dataInventory level.tasks }
      else s' := by
  have hevents : ∀ events : List (TaskId × TaskEvent V), ∀ s : RunState V,
      (events.map fun e => RunStep.event e.1 e.2).foldl RunState.applyStep s =
        events.foldl RunState.apply s := by
    intro events s
    rw [List.foldl_map]
    rfl
  unfold LevelTrace.steps
  rw [List.foldl_append, hevents]
  cases level.executeResult <;> rfl

/-- The loop of `ExecuteTaskInner` follows the selection loop that starts with
    the same exclusions. -/
private theorem executeLevels_of_selectRun (env : TaskEnv V) {rest : TaskCollection}
    {levels : List (TaskCollection × TaskCollection)}
    (h : SelectRun container tasks levels rest) (fuel : Nat) (hfuel : levels.length < fuel)
    (level : Nat) (s : RunState V)
    (hagree : ∀ t ∈ tasks,
      isTaskExcessivelyFailed container t = isTaskExcessivelyFailed s.container t) :
    ∃ r, executeLevels env fuel level s tasks = some r ∧
      r.status = (if levels.any (levelFailed env) then .dumpFail else .dumpOk) ∧
      r.levels = (runLevels env levels).mapIdx (fun i l => traceOf env (level + i) l) ∧
      r.state = r.trace.foldl RunState.applyStep s := by
  -- Induction on the selection loop; the counts may have changed, the exclusions have not.
  induction h generalizing fuel level s with
  | stop hempty =>
    cases fuel with
    | zero => omega
    | succ fuel =>
      rw [selectRunnableTasks_congr hagree] at hempty
      exact ⟨⟨.dumpOk, [], s⟩, by simp [executeLevels, hempty], rfl, rfl, rfl⟩
  | @level tasks rest levels hsome hrest ih =>
    cases fuel with
    | zero => omega
    | succ fuel =>
      rw [List.length_cons] at hfuel
      have hselect := selectRunnableTasks_congr hagree
      simp only [executeLevels, ← hselect, List.isEmpty_iff, hsome, ↓reduceIte]
      by_cases hfail : levelFailed env (selectRunnableTasks container tasks) = true
      · -- A mandatory task of this level fails: the run ends here, without a release.
        have hresult : getTaskResult (env.levelStat (selectRunnableTasks container tasks).1) =
            false := by
          simpa [levelFailed] using hfail
        simp only [hresult, Bool.not_false, ↓reduceIte]
        refine ⟨_, rfl, ?_, ?_, ?_⟩
        · simp [hfail]
        · simp [runLevels, List.findIdx_cons, hfail, traceOf, hresult]
        · simp [RunResult.trace, foldl_steps]
      · -- All mandatory tasks succeed: release what is not used any more and go on.
        rw [Bool.not_eq_true] at hfail
        have hresult : getTaskResult (env.levelStat (selectRunnableTasks container tasks).1) =
            true := by
          simpa [levelFailed] using hfail
        simp only [hresult, Bool.not_true, Bool.false_eq_true, ↓reduceIte]
        obtain ⟨r, hr, hstatus, hlevels, hstate⟩ := ih fuel (by omega) (level + 1)
          { (env.submitRunnableTasks level (selectRunnableTasks container tasks).1).foldl
              RunState.apply s with
            dataInventory := releaseNoUsedData
              ((env.submitRunnableTasks level (selectRunnableTasks container tasks).1).foldl
                RunState.apply s).dataInventory (selectRunnableTasks container tasks).2 }
          (isTaskExcessivelyFailed_remaining env level s hagree)
        refine ⟨_, by rw [hr, Option.map_some], ?_, ?_, ?_⟩
        · simp only [hstatus, List.any_cons, hfail, Bool.false_or]
        · simp only [hlevels, runLevels, List.findIdx_cons, hfail, Bool.cond_false,
            List.take_succ_cons, List.mapIdx_cons, traceOf, hresult, Nat.add_zero]
          simp only [Nat.add_assoc, Nat.add_comm 1]
        · simp only [RunResult.trace, List.flatMap_cons, List.foldl_append, foldl_steps,
            ↓reduceIte] at hstate ⊢
          exact hstate

/-- `ExecuteTaskInner` as a function of the levels the selection loop finds. -/
theorem executeTaskInner_of_selectRun (env : TaskEnv V) {rest : TaskCollection}
    {levels : List (TaskCollection × TaskCollection)} (s : RunState V)
    (h : SelectRun s.container tasks levels rest) :
    ∃ r, executeTaskInner env s tasks = some r ∧
      r.status = (if levels.any (levelFailed env) then .dumpFail else .dumpOk) ∧
      r.levels = (runLevels env levels).mapIdx (traceOf env) ∧
      r.state = r.trace.foldl RunState.applyStep s := by
  have hlen := h.length_le
  have hrun := executeLevels_of_selectRun env h (tasks.entries.length + 1) (by omega) 0 s
    fun _ _ => rfl
  simp only [Nat.zero_add] at hrun
  exact hrun

/-! ## Order, multiplicity and status of a run -/

/-- A task is mandatory and does not end with `DUMP_OK`. -/
def MandatoryFailed (env : TaskEnv V) (tasks : TaskCollection) (t : TaskId) : Prop :=
  ∃ info, tasks.lookup t = some info ∧ info.mandatory = true ∧ env.dumpStatus t info ≠ .dumpOk

/-- The levels of a collection: each task once, in the first level after the
    levels of all its dependencies. -/
structure IsLevelPlan (tasks : TaskCollection) (plan : List (List TaskId)) : Prop where
  perm : plan.flatten.Perm tasks.keys
  mem_iff : ∀ (i : Nat) (l : List TaskId), plan[i]? = some l → ∀ t, t ∈ l ↔
    t ∈ tasks ∧ t ∉ (plan.take i).flatten ∧ ∀ d, DependsOn tasks t d → d ∈ (plan.take i).flatten

/-- Tasks of a level differ from the original ones in their dependencies only. -/
theorem SelectRun.lookup_level {rest orig : TaskCollection}
    {levels : List (TaskCollection × TaskCollection)}
    (h : SelectRun container tasks levels rest) {done : List TaskId}
    (hres : Residual container orig done tasks) {level : TaskCollection × TaskCollection}
    (hlevel : level ∈ levels) {t : TaskId} {info : RegTaskInfo}
    (hinfo : level.1.lookup t = some info) :
    ∃ done' oinfo, orig.lookup t = some oinfo ∧ info = strip done' oinfo := by
  induction h generalizing done with
  | stop _ => exact nomatch hlevel
  | level hsome hrest ih =>
    rcases List.mem_cons.mp hlevel with rfl | hlevel
    · -- A task of this level: a residual entry with nothing left to wait for.
      rw [lookup_runnable, Option.filter_eq_some_iff] at hinfo
      obtain ⟨hlookup, hcond⟩ := hinfo
      rw [Bool.and_eq_true, Bool.not_eq_true'] at hcond
      rw [hres.lookup t hcond.1] at hlookup
      by_cases hdone : t ∈ done
      · simp [hdone] at hlookup
      · rw [if_neg hdone] at hlookup
        obtain ⟨oinfo, hoinfo, heq⟩ := Option.map_eq_some_iff.mp hlookup
        exact ⟨done, oinfo, hoinfo, heq.symm⟩
    · exact ih hres.select hlevel

/-- A level fails exactly when one of its tasks is mandatory and fails. -/
theorem SelectRun.levelFailed_iff {rest : TaskCollection}
    {levels : List (TaskCollection × TaskCollection)}
    (h : SelectRun container tasks levels rest) (env : TaskEnv V)
    {level : TaskCollection × TaskCollection} (hlevel : level ∈ levels) :
    levelFailed env level = true ↔ ∃ t ∈ level.1.keys, MandatoryFailed env tasks t := by
  have hres := Residual.start container tasks
  unfold levelFailed getTaskResult TaskEnv.levelStat
  simp only [Bool.not_eq_true', List.all_eq_false, List.mem_map, exists_exists_and_eq_and,
    Bool.not_eq_false, Bool.and_eq_true, decide_eq_true_eq]
  refine ⟨fun hex => ?_, fun hex => ?_⟩
  · -- The statistics of a level have one entry for each of its tasks.
    obtain ⟨⟨t, info⟩, hentry, hstatus, hmand⟩ := hex
    have hlookup := AList.lookup_eq_some_iff.mpr hentry
    obtain ⟨done, oinfo, hoinfo, rfl⟩ := h.lookup_level hres hlevel hlookup
    exact ⟨t, List.mem_map_of_mem hentry, oinfo, hoinfo, hmand, hstatus⟩
  · obtain ⟨t, ht, oinfo, hoinfo, hmand, hstatus⟩ := hex
    obtain ⟨info, hinfo⟩ := Option.isSome_iff_exists.mp
      (AList.lookup_isSome.mpr (AList.mem_keys.mpr ht))
    obtain ⟨done, oinfo', hoinfo', rfl⟩ := h.lookup_level hres hlevel hinfo
    rw [hoinfo, Option.some.injEq] at hoinfo'
    subst hoinfo'
    exact ⟨⟨t, _⟩, AList.lookup_eq_some_iff.mp hinfo, hstatus, hmand⟩

/-- What a run starts is what its levels hold. -/
theorem flatMap_started_perm (env : TaskEnv V) (k : Nat)
    (levels : List (TaskCollection × TaskCollection)) :
    ((levels.mapIdx fun i l => traceOf env (k + i) l).flatMap LevelTrace.started).Perm
      (layers levels).flatten := by
  induction levels generalizing k with
  | nil => exact List.Perm.refl _
  | cons level levels ih =>
    have hrest := ih (k + 1)
    simp only [Nat.add_assoc, Nat.add_comm 1] at hrest
    simp only [List.mapIdx_cons, List.flatMap_cons, layers, List.map_cons, List.flatten_cons]
    exact (started_traceOf env _ level).append hrest

theorem layers_getElem? (levels : List (TaskCollection × TaskCollection)) (i : Nat) :
    (layers levels)[i]? = levels[i]?.map fun level => level.1.keys := by
  rw [layers, List.getElem?_map]

theorem layers_take (levels : List (TaskCollection × TaskCollection)) (k : Nat) :
    layers (levels.take k) = (layers levels).take k := by
  rw [layers, layers, List.map_take]

/-- The levels of an accepted collection without excluded tasks are its level plan. -/
theorem SelectRun.isLevelPlan {levels : List (TaskCollection × TaskCollection)}
    {rest : TaskCollection} (h : SelectRun container tasks levels rest)
    (hrest : rest.entries = [])
    (hexcl : ∀ t ∈ tasks, isTaskExcessivelyFailed container t = false) :
    IsLevelPlan tasks (layers levels) := by
  have hres := Residual.start container tasks
  have hlayered := h.layered hres
  refine ⟨?_, fun i l hi t => ?_⟩
  · -- Layers have no duplicates, so it is enough that they have the same members.
    apply (List.perm_ext_iff_of_nodup hlayered.nodup_flatten (AList.keys_nodup tasks)).mpr
    intro t
    rw [← AList.mem_keys]
    exact ⟨fun ht => (h.mem_of_mem_layers ht).1, fun ht => h.mem_layers_of_rest hrest (hexcl t ht) ht⟩
  · rw [h.mem_layer_iff hres hi, List.append_nil]
    exact ⟨fun ⟨_, hrest⟩ => hrest, fun hrest => ⟨hexcl t hrest.1, hrest⟩⟩

/-- Verification reads the collection as a set, so a copy with another iteration
    order gets the same answer. -/
private theorem verifyTaskTopo_perm {tasks' : TaskCollection}
    (hperm : tasks.entries.Perm tasks'.entries) :
    verifyTaskTopo container tasks = some true ↔ verifyTaskTopo container tasks' = some true := by
  have hlookup : ∀ t, tasks.lookup t = tasks'.lookup t := fun t => AList.perm_lookup hperm
  have hdep : ActiveDependsOn container tasks = ActiveDependsOn container tasks' := by
    funext t d
    simp only [ActiveDependsOn, DependsOn, hlookup]
  have hmem : ∀ d, d ∈ tasks ↔ d ∈ tasks' := by
    intro d
    rw [← AList.lookup_isSome, hlookup, AList.lookup_isSome]
  have hne : tasks.entries ≠ [] ↔ tasks'.entries ≠ [] := by
    rw [← List.length_pos_iff, ← List.length_pos_iff, hperm.length_eq]
  rw [verifyTaskTopo_iff, verifyTaskTopo_iff, hdep, hne]
  simp only [hmem]

/-- A dependency of a task that starts has started in an earlier level. -/
theorem SelectRun.started_before {levels : List (TaskCollection × TaskCollection)}
    {rest : TaskCollection} (h : SelectRun container tasks levels rest) (env : TaskEnv V)
    {r : RunResult V} (hlevels : r.levels = (runLevels env levels).mapIdx (traceOf env))
    {i : Nat} {level : LevelTrace V} {t d : TaskId} (hi : r.levels[i]? = some level)
    (ht : t ∈ level.started) (hd : DependsOn tasks t d) :
    ∃ (j : Nat) (level' : LevelTrace V),
      j < i ∧ r.levels[j]? = some level' ∧ d ∈ level'.started := by
  have hlayered := h.layered (Residual.start container tasks)
  obtain ⟨l, hl, rfl⟩ := getElem?_traces (hlevels ▸ hi)
  rw [(started_traceOf env i l).mem_iff] at ht
  have hlayer : (layers levels)[i]? = some l.1.keys := by
    rw [layers_getElem?, hl, Option.map_some]
  -- The dependency lies in a layer before layer `i`.
  have hmem := hlayered.dep_mem_take hlayer ht hd
  simp only [List.not_mem_nil, false_or] at hmem
  obtain ⟨j, hj, l', hl', hdl'⟩ := exists_lt_of_mem_flatten_take hmem
  -- The run has gone through every level before `i`.
  have hjlt : j < r.levels.length := by
    have hilt := (List.getElem?_eq_some_iff.mp hi).1
    omega
  obtain ⟨level', hjget⟩ : ∃ level', r.levels[j]? = some level' :=
    ⟨_, List.getElem?_eq_getElem hjlt⟩
  obtain ⟨lj, hlj, rfl⟩ := getElem?_traces (hlevels ▸ hjget)
  rw [layers_getElem?, hlj, Option.map_some, Option.some.injEq] at hl'
  refine ⟨j, traceOf env j lj, hj, hjget, ?_⟩
  rw [(started_traceOf env j lj).mem_iff, hl']
  exact hdl'

/-- What a run starts lies in the levels. -/
theorem mem_started_of_levels {env : TaskEnv V} {r : RunResult V}
    {levels : List (TaskCollection × TaskCollection)}
    (hlevels : r.levels = (runLevels env levels).mapIdx (traceOf env)) :
    (r.levels.flatMap LevelTrace.started).Perm (layers (runLevels env levels)).flatten := by
  have hstarted := flatMap_started_perm env 0 (runLevels env levels)
  simp only [Nat.zero_add] at hstarted
  rw [hlevels]
  exact hstarted

/-- Without a failing level the run goes through all levels. -/
private theorem runLevels_of_not_failed {env : TaskEnv V}
    {levels : List (TaskCollection × TaskCollection)}
    (h : ∀ l ∈ levels, levelFailed env l = false) : runLevels env levels = levels := by
  have hidx : levels.findIdx (levelFailed env) = levels.length := List.findIdx_eq_length.mpr h
  rw [runLevels, hidx, List.take_of_length_le (by omega)]

/-- A run of an accepted collection: only tasks that are not excluded start,
    each after its dependencies, and unless one of those that start is mandatory
    and fails they all do. -/
theorem executeTaskInner_of_accepted (env : TaskEnv V) (s : RunState V)
    (hverify : verifyTaskTopo s.container tasks = some true) :
    ∃ r : RunResult V, executeTaskInner env s tasks = some r ∧
      (∀ t ∈ r.levels.flatMap LevelTrace.started,
        t ∈ tasks ∧ isTaskExcessivelyFailed s.container t = false) ∧
      (∀ (i : Nat) (level : LevelTrace V) (t d : TaskId), r.levels[i]? = some level →
        t ∈ level.started → DependsOn tasks t d →
        ∃ (j : Nat) (level' : LevelTrace V),
          j < i ∧ r.levels[j]? = some level' ∧ d ∈ level'.started) ∧
      ((∃ t ∈ r.levels.flatMap LevelTrace.started, MandatoryFailed env tasks t) ∨
        (r.status = .dumpOk ∧
          ∀ t ∈ tasks, isTaskExcessivelyFailed s.container t = false →
            t ∈ r.levels.flatMap LevelTrace.started)) := by
  obtain ⟨levels, rest, h⟩ := exists_selectRun s.container tasks
  rw [verifyTaskTopo_eq h, Option.some.injEq, decide_eq_true_eq] at hverify
  obtain ⟨r, hr, hstatus, hlevels, -⟩ := executeTaskInner_of_selectRun env s h
  -- The tasks that start are those of the levels that are run.
  have hperm := mem_started_of_levels hlevels
  refine ⟨r, hr, fun t ht => ?_, fun i level t d hi ht hd => h.started_before env hlevels hi ht hd,
    ?_⟩
  · rw [hperm.mem_iff, runLevels, layers_take] at ht
    obtain ⟨l, hl, htl⟩ := List.mem_flatten.mp ht
    exact h.mem_of_mem_layers (List.mem_flatten.mpr ⟨l, List.mem_of_mem_take hl, htl⟩)
  · by_cases hfail : ∃ l ∈ levels, levelFailed env l = true
    · -- The first failing level is run, and holds the failing task.
      left
      have hlt := List.findIdx_lt_length_of_exists hfail
      have hlk := List.getElem?_eq_getElem hlt
      have hfailed := (h.levelFailed_iff env (List.mem_of_getElem? hlk)).mp
        (List.findIdx_getElem (w := hlt))
      obtain ⟨t, ht, hmand⟩ := hfailed
      refine ⟨t, ?_, hmand⟩
      rw [hperm.mem_iff]
      have hrun : (runLevels env levels)[levels.findIdx (levelFailed env)]? =
          some levels[levels.findIdx (levelFailed env)] := by
        rw [runLevels, List.getElem?_take_of_lt (by omega), hlk]
      exact List.mem_flatten.mpr ⟨_, List.mem_map_of_mem (List.mem_of_getElem? hrun), ht⟩
    · -- No level fails, so the run goes through all of them.
      right
      have hnone : ∀ l ∈ levels, levelFailed env l = false := by
        intro l hl
        rw [← Bool.not_eq_true]
        exact fun hl' => hfail ⟨l, hl, hl'⟩
      refine ⟨?_, fun t ht hexcl => ?_⟩
      · rw [hstatus, if_neg (by simpa using hnone)]
      · rw [hperm.mem_iff, runLevels_of_not_failed hnone]
        exact h.mem_layers_of_rest hverify.2 hexcl ht

/-- A run of an accepted collection without excluded tasks starts every task at
    most once and after its dependencies, in the order of the level plan. It
    runs all levels and returns `DUMP_OK` when no mandatory task fails;
    otherwise it returns `DUMP_FAIL` after the first level with a failed
    mandatory task. `verified` is the copy `VerifyTaskTopo` works on. -/
theorem executeTaskInner_runs_levels (container verified tasks : TaskCollection)
    (hcopy : tasks.entries.Perm verified.entries)
    (hverify : verifyTaskTopo container verified = some true)
    (hexcl : ∀ t ∈ tasks, isTaskExcessivelyFailed container t = false) :
    ∃ plan, IsLevelPlan tasks plan ∧
      ∀ (env : TaskEnv V) (dataInventory : DataInventory V),
        ∃ r : RunResult V, executeTaskInner env ⟨container, dataInventory⟩ tasks = some r ∧
          (r.levels.flatMap LevelTrace.started).Nodup ∧
          (∀ (i : Nat) (level : LevelTrace V), r.levels[i]? = some level →
            ∃ l, plan[i]? = some l ∧ level.started.Perm l) ∧
          (∀ (i : Nat) (level : LevelTrace V) (t d : TaskId), r.levels[i]? = some level →
            t ∈ level.started → DependsOn tasks t d →
            ∃ (j : Nat) (level' : LevelTrace V),
              j < i ∧ r.levels[j]? = some level' ∧ d ∈ level'.started) ∧
          ((∀ t ∈ tasks, ¬ MandatoryFailed env tasks t) →
            r.status = .dumpOk ∧ (r.levels.flatMap LevelTrace.started).Perm tasks.keys) ∧
          ((∃ t ∈ tasks, MandatoryFailed env tasks t) →
            r.status = .dumpFail ∧ ∃ (k : Nat) (l : List TaskId),
              r.levels.length = k + 1 ∧ plan[k]? = some l ∧
              (∃ t ∈ l, MandatoryFailed env tasks t) ∧
              ∀ (j : Nat) (l' : List TaskId), j < k → plan[j]? = some l' →
                ∀ t ∈ l', ¬ MandatoryFailed env tasks t) := by
  obtain ⟨levels, rest, h⟩ := exists_selectRun container tasks
  have hres := Residual.start container tasks
  rw [← verifyTaskTopo_perm hcopy, verifyTaskTopo_eq h, Option.some.injEq,
    decide_eq_true_eq] at hverify
  have hplan := h.isLevelPlan hverify.2 hexcl
  refine ⟨layers levels, hplan, fun env dataInventory => ?_⟩
  obtain ⟨r, hr, hstatus, hlevels, -⟩ :=
    executeTaskInner_of_selectRun env ⟨container, dataInventory⟩ h
  have hperm := mem_started_of_levels hlevels
  have hget : ∀ (i : Nat) (level : LevelTrace V), r.levels[i]? = some level →
      ∃ l, levels[i]? = some l ∧ level = traceOf env i l := fun i level hi =>
    getElem?_traces (hlevels ▸ hi)
  have hfailed : ∀ (i : Nat) (l : TaskCollection × TaskCollection), levels[i]? = some l →
      (levelFailed env l = true ↔ ∃ t ∈ l.1.keys, MandatoryFailed env tasks t) := fun i l hi =>
    h.levelFailed_iff env (List.mem_of_getElem? hi)
  refine ⟨r, hr, ?_, fun i level hi => ?_, fun i level t d hi ht hd => ?_, fun hok => ?_,
    fun hfail => ?_⟩
  · rw [hperm.nodup_iff, runLevels, layers_take]
    exact ((h.layered hres).take _).nodup_flatten
  · obtain ⟨l, hl, rfl⟩ := hget i level hi
    exact ⟨l.1.keys, by rw [layers_getElem?, hl, Option.map_some], started_traceOf env i l⟩
  · exact h.started_before env hlevels hi ht hd
  · -- Without a failed mandatory task no level fails.
    have hnone : ∀ l ∈ levels, levelFailed env l = false := by
      intro l hl
      obtain ⟨i, hi⟩ := List.getElem?_of_mem hl
      rw [← Bool.not_eq_true, hfailed i l hi]
      intro hex
      obtain ⟨t, ht, hmand⟩ := hex
      have hmem : t ∈ (layers levels).flatten :=
        List.mem_flatten.mpr ⟨_, List.mem_map_of_mem hl, ht⟩
      exact hok t (h.mem_of_mem_layers hmem).1 hmand
    refine ⟨?_, ?_⟩
    · rw [hstatus, if_neg (by simpa using hnone)]
    · rw [runLevels_of_not_failed hnone] at hperm
      exact hperm.trans hplan.perm
  · obtain ⟨t, ht, hmand⟩ := hfail
    -- The failing task lies in some level, so a first failing level exists.
    have hmem : t ∈ (layers levels).flatten := hplan.perm.mem_iff.mpr (AList.mem_keys.mp ht)
    obtain ⟨_, hlayer, htl⟩ := List.mem_flatten.mp hmem
    obtain ⟨l, hl, rfl⟩ := List.mem_map.mp hlayer
    have hex : ∃ l ∈ levels, levelFailed env l = true :=
      ⟨l, hl, (h.levelFailed_iff env hl).mpr ⟨t, htl, hmand⟩⟩
    have hlt := List.findIdx_lt_length_of_exists hex
    have hlk := List.getElem?_eq_getElem hlt
    refine ⟨?_, levels.findIdx (levelFailed env), _, ?_, by rw [layers_getElem?, hlk]; rfl, ?_,
      fun j l' hj hl' t' ht' hmand' => ?_⟩
    · rw [hstatus, if_pos (List.any_eq_true.mpr hex)]
    · rw [hlevels, List.length_mapIdx, runLevels, List.length_take]
      omega
    · exact (hfailed _ _ hlk).mp (List.findIdx_getElem (w := hlt))
    · -- A level before the first failing one does not fail.
      have hjlt : j < levels.length := by omega
      have hlj := List.getElem?_eq_getElem hjlt
      rw [layers_getElem?, hlj, Option.map_some, Option.some.injEq] at hl'
      have hnot := List.not_of_lt_findIdx hj
      rw [← Bool.not_eq_true, hfailed j _ hlj] at hnot
      exact hnot ⟨t', hl' ▸ ht', hmand'⟩

/-- A root and the one task that it depends on. -/
theorem executeTaskInner_runs_levels_chain :
    verifyTaskTopo chainTasks chainTasks = some true ∧
      (∀ t ∈ chainTasks, isTaskExcessivelyFailed chainTasks t = false) ∧
      ∃ plan, IsLevelPlan chainTasks plan ∧
        ∃ r : RunResult Nat,
          executeTaskInner ⟨fun _ => ⟨some ⟨[], .dumpOk⟩, none⟩, fun _ => []⟩
            ⟨chainTasks, ∅⟩ chainTasks = some r ∧
          (r.levels.flatMap LevelTrace.started).Nodup := by
  have hverify : verifyTaskTopo chainTasks chainTasks = some true := by decide
  have hexcl : ∀ t ∈ chainTasks, isTaskExcessivelyFailed chainTasks t = false := by
    intro t ht
    have hkeys : chainTasks.keys.all (fun t => !isTaskExcessivelyFailed chainTasks t) = true := by
      decide
    simpa using List.all_eq_true.mp hkeys t (AList.mem_keys.mp ht)
  obtain ⟨plan, hplan, hrun⟩ := executeTaskInner_runs_levels (V := Nat) chainTasks chainTasks
    chainTasks (List.Perm.refl _) hverify hexcl
  obtain ⟨r, hr, hnodup, _⟩ := hrun ⟨fun _ => ⟨some ⟨[], .dumpOk⟩, none⟩, fun _ => []⟩ ∅
  exact ⟨hverify, hexcl, plan, hplan, r, hr, hnodup⟩

end HiDumper.Spec
