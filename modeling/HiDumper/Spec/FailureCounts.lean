import Mathlib.Data.List.Induction
import HiDumper.Native.TaskControl
import Mathlib.Algebra.Group.Nat.Defs

/-!
# Failure counts over histories

`failureCount` is to be the number of failed executions of the task since its last
successful one. A first run or a retry that succeeds resets it, a retry that fails or
cannot be made counts; but an execution whose task cannot be created at first returns
`DUMP_FAIL` without counting. The counter is a `uint32_t`.

## Key results

- `reset_of_created`: what an execution does to the count of its task
- `countsFailures_concat_iff`: one more execution
- `countsFailures_iff`: the histories over which the counts are right
-/

namespace HiDumper.Spec

open HiDumper.Native

variable {V : Type}

/-! ## Executions -/

/-- One call of `ExecuteSingleTask`. -/
structure Execution (V : Type) where
  taskId : TaskId
  taskInfo : RegTaskInfo
  behaviour : TaskBehaviour V

/-- What the call returns and what it counts. -/
def Execution.result (execution : Execution V) : SingleTaskResult V :=
  executeSingleTask execution.taskInfo execution.behaviour

/-- The registry after the call. -/
def recordExecution (container : TaskCollection) (execution : Execution V) : TaskCollection :=
  match execution.result.reset with
  | none => container
  | some reset => updateTaskFailureCount container execution.taskId reset

/-- The registry after a history of calls. -/
def recordExecutions (container : TaskCollection) (executions : List (Execution V)) :
    TaskCollection :=
  executions.foldl recordExecution container

/-- The failed executions of `t` since its last successful one, `failures` before. -/
def failuresFrom (t : TaskId) (failures : Nat) (executions : List (Execution V)) : Nat :=
  executions.foldl (fun failures execution =>
    if execution.taskId ≠ t then failures
    else if execution.result.dumpStatus = .dumpOk then 0
    else failures + 1) failures

/-- The failed executions of `t` in a row at the end of the history. -/
def consecutiveFailures (executions : List (Execution V)) (t : TaskId) : Nat :=
  failuresFrom t 0 executions

/-- Every count is the number of failures in a row, and the tasks with
    `MAX_FAILURE_COUNT` of them or more are the excluded ones. -/
structure CountsFailures (container : TaskCollection) (executions : List (Execution V)) : Prop where
  count : ∀ t info, container.lookup t = some info →
    info.failureCount.toNat = consecutiveFailures executions t
  excluded : ∀ t ∈ container, isTaskExcessivelyFailed container t = true ↔
    maxFailureCount.toNat ≤ consecutiveFailures executions t

/-- A success resets the count of its task, and a failure adds one to it. -/
private theorem consecutiveFailures_concat (executions : List (Execution V))
    (execution : Execution V)
    (t : TaskId) :
    consecutiveFailures (executions ++ [execution]) t =
      if execution.taskId ≠ t then consecutiveFailures executions t
      else if execution.result.dumpStatus = .dumpOk then 0
      else consecutiveFailures executions t + 1 := by
  simp [consecutiveFailures, failuresFrom]

/-- So a history of less than `2 ^ 32` executions overflows no count. -/
private theorem consecutiveFailures_le_length (executions : List (Execution V)) (t : TaskId) :
    consecutiveFailures executions t ≤ executions.length := by
  induction executions using List.reverseRecOn with
  | nil => exact Nat.le_refl 0
  | append_singleton executions execution ih =>
    rw [consecutiveFailures_concat, List.length_append, List.length_singleton]
    split
    · omega
    · split <;> omega

/-- An execution after others is recorded in the registry that they leave. -/
private theorem recordExecutions_concat (container : TaskCollection)
    (executions : List (Execution V))
    (execution : Execution V) :
    recordExecutions container (executions ++ [execution]) =
      recordExecution (recordExecutions container executions) execution := by
  simp [recordExecutions]

/-- An execution whose task is created counts its status. -/
theorem reset_of_created {execution : Execution V}
    (h : (createTask execution.taskInfo execution.behaviour).isSome = true) :
    execution.result.reset = some (decide (execution.result.dumpStatus = .dumpOk)) := by
  obtain ⟨task, htask⟩ := Option.isSome_iff_exists.mp h
  simp only [Execution.result, executeSingleTask, htask]
  split
  · -- The retry: no second task, one that fails, or one that succeeds.
    unfold handleTaskRetry
    cases execution.behaviour.recreated with
    | none => simp
    | some retry =>
      by_cases hstatus : retry.status = .dumpOk <;> simp [hstatus]
  · rename_i hstatus
    simp [Decidable.not_not.mp hstatus]

/-- An execution whose task is not created fails without a count. -/
private theorem result_of_not_created {execution : Execution V}
    (h : createTask execution.taskInfo execution.behaviour = none) :
    execution.result = ⟨[], .dumpFail, none⟩ := by
  simp [Execution.result, executeSingleTask, h]

/-! ## The registry -/

/-- Only the count of the task itself changes. -/
private theorem lookup_updateTaskFailureCount (container : TaskCollection) (taskId t : TaskId)
    (reset : Bool) :
    (updateTaskFailureCount container taskId reset).lookup t =
      if taskId = t then (container.lookup t).map fun info =>
        { info with failureCount := if reset then 0 else info.failureCount + 1 }
      else container.lookup t := by
  unfold updateTaskFailureCount
  by_cases heq : taskId = t
  · subst heq
    cases hinfo : container.lookup taskId with
    | none => simp [hinfo]
    | some info => simp [AList.lookup_insert]
  · rw [if_neg heq]
    cases container.lookup taskId with
    | none => rfl
    | some info => exact AList.lookup_insert_ne fun h => heq h.symm

/-- Recording registers nothing. -/
private theorem mem_recordExecution {container : TaskCollection} {execution : Execution V}
    {t : TaskId} :
    t ∈ recordExecution container execution ↔ t ∈ container := by
  unfold recordExecution
  split
  · rfl
  · rw [← AList.lookup_isSome, lookup_updateTaskFailureCount, ← AList.lookup_isSome]
    split <;> simp

private theorem mem_recordExecutions {container : TaskCollection} {executions : List (Execution V)}
    {t : TaskId} : t ∈ recordExecutions container executions ↔ t ∈ container := by
  induction executions using List.reverseRecOn with
  | nil => rfl
  | append_singleton executions execution ih =>
    rw [recordExecutions_concat, mem_recordExecution, ih]

/-- A right count decides the exclusion. -/
private theorem countsFailures_of_count {container : TaskCollection}
    {executions : List (Execution V)}
    (h : ∀ t info, container.lookup t = some info →
      info.failureCount.toNat = consecutiveFailures executions t) :
    CountsFailures container executions := by
  refine ⟨h, fun t ht => ?_⟩
  obtain ⟨info, hinfo⟩ := Option.isSome_iff_exists.mp (AList.lookup_isSome.mpr ht)
  rw [← h t info hinfo]
  simp [isTaskExcessivelyFailed, hinfo, UInt32.le_iff_toNat_le]

/-- The execution counts as it should: its task is created, and the count of a failure
    fits the counter. -/
structure ExecutionCounts (past : List (Execution V)) (execution : Execution V) : Prop where
  created : execution.taskInfo.creator = true ∧ execution.behaviour.created.isSome = true
  fits : consecutiveFailures (past ++ [execution]) execution.taskId < 2 ^ 32

/-- A task is created if it has a creator and this makes one. -/
private theorem isSome_createTask {execution : Execution V} :
    (createTask execution.taskInfo execution.behaviour).isSome = true ↔
      execution.taskInfo.creator = true ∧ execution.behaviour.created.isSome = true := by
  unfold createTask
  cases execution.taskInfo.creator <;> simp

/-- Step lemma: after counts that are right, they stay right if and only if the execution
    counts as it should. -/
theorem countsFailures_concat_iff {container : TaskCollection} {past : List (Execution V)}
    {execution : Execution V} (hmem : execution.taskId ∈ container)
    (hcounts : CountsFailures container past) :
    CountsFailures (recordExecution container execution) (past ++ [execution]) ↔
      ExecutionCounts past execution := by
  obtain ⟨info, hinfo⟩ := Option.isSome_iff_exists.mp (AList.lookup_isSome.mpr hmem)
  have hcount := hcounts.count _ info hinfo
  have hlt := info.failureCount.toNat_lt
  constructor
  · intro hnext
    have hnextCount := hnext.count execution.taskId
    rw [recordExecution] at hnextCount
    cases hcreated : createTask execution.taskInfo execution.behaviour with
    | none =>
      -- Without a task the count stays, but the failure is one more.
      rw [result_of_not_created hcreated] at hnextCount
      have heq := hnextCount info hinfo
      rw [consecutiveFailures_concat, result_of_not_created hcreated] at heq
      simp only [ne_eq, not_true_eq_false, if_false, reduceCtorEq] at heq
      omega
    | some task =>
      have hsome : (createTask execution.taskInfo execution.behaviour).isSome = true := by
        simp [hcreated]
      refine ⟨isSome_createTask.mp hsome, ?_⟩
      rw [reset_of_created hsome] at hnextCount
      simp only [lookup_updateTaskFailureCount, if_true, hinfo, Option.map_some] at hnextCount
      rw [← hnextCount _ rfl]
      exact UInt32.toNat_lt _
  · intro hexecution
    have hreset := reset_of_created (isSome_createTask.mpr hexecution.created)
    apply countsFailures_of_count
    intro t info' hinfo'
    rw [recordExecution, hreset] at hinfo'
    simp only [lookup_updateTaskFailureCount] at hinfo'
    rw [consecutiveFailures_concat]
    split at hinfo'
    · rename_i heq
      subst heq
      rw [hinfo, Option.map_some, Option.some.injEq] at hinfo'
      have hfits := hexecution.fits
      rw [consecutiveFailures_concat] at hfits
      rw [← hinfo']
      by_cases hok : execution.result.dumpStatus = .dumpOk
      · simp [hok]
      · simp only [ne_eq, not_true_eq_false, if_false, hok] at hfits
        simp only [hok, decide_false, Bool.false_eq_true, if_false, ne_eq, not_true_eq_false,
          UInt32.toNat_add, UInt32.toNat_one]
        omega
    · rename_i hne
      rw [if_pos hne]
      exact hcounts.count t info' hinfo'

/-- From a registry without failures, the counts are right after every execution of a
    history if and only if each execution has a task created and no task fails `2 ^ 32`
    times in a row. -/
theorem countsFailures_iff (container : TaskCollection) (executions : List (Execution V))
    (hfresh : ∀ t info, container.lookup t = some info → info.failureCount = 0)
    (hregistered : ∀ execution ∈ executions, execution.taskId ∈ container) :
    (∀ past, past <+: executions → CountsFailures (recordExecutions container past) past) ↔
      ∀ past execution, past ++ [execution] <+: executions → ExecutionCounts past execution := by
  have hstart : CountsFailures (recordExecutions container ([] : List (Execution V)))
      ([] : List (Execution V)) := by
    apply countsFailures_of_count
    intro t info hinfo
    rw [hfresh t info hinfo]
    rfl
  have hmem : ∀ past execution, past ++ [execution] <+: executions →
      execution.taskId ∈ recordExecutions container past := by
    intro past execution hpre
    rw [mem_recordExecutions]
    exact hregistered execution (hpre.subset (by simp))
  constructor
  · intro hcounts past execution hpre
    have hnext := hcounts (past ++ [execution]) hpre
    rw [recordExecutions_concat] at hnext
    exact (countsFailures_concat_iff (hmem past execution hpre)
      (hcounts past ((List.prefix_append _ _).trans hpre))).mp hnext
  · -- Induction on the history, one execution at a time.
    intro hexecutions past
    induction past using List.reverseRecOn with
    | nil => exact fun _ => hstart
    | append_singleton past execution ih =>
      intro hpre
      rw [recordExecutions_concat]
      exact (countsFailures_concat_iff (hmem past execution hpre)
        (ih ((List.prefix_append _ _).trans hpre))).mpr (hexecutions past execution hpre)

/-- A task registered for its data only, whose creator is null. -/
def creatorless : TaskCollection := ⟨[⟨1, ⟨false, [7], [], "", 0, false⟩⟩], by decide⟩

/-- Its execution fails and is not counted. -/
theorem not_countsFailures_creatorless :
    ¬∀ past : List (Execution Unit),
      past <+: [⟨1, ⟨false, [7], [], "", 0, false⟩, ⟨none, none⟩⟩] →
        CountsFailures (recordExecutions creatorless past) past := by
  intro h
  have hcounts := h _ (List.prefix_refl _)
  exact absurd (hcounts.count 1 ⟨false, [7], [], "", 0, false⟩ (by decide)) (by decide)

/-- A task that fails, cannot be created for its retry, and later succeeds. -/
def recovered : List (Execution Unit) :=
  [⟨1, ⟨true, [], [], "leaf", 0, true⟩, ⟨some ⟨[], .dumpFail⟩, none⟩⟩,
    ⟨1, ⟨true, [], [], "leaf", 0, true⟩, ⟨some ⟨[], .dumpOk⟩, none⟩⟩]

/-- A failure that is followed by a success. -/
theorem countsFailures_recovered :
    CountsFailures (recordExecutions ⟨[⟨1, ⟨true, [], [], "leaf", 0, true⟩⟩], by decide⟩ recovered)
      recovered := by
  refine (countsFailures_iff _ recovered (by simp [AList.lookup_eq_some_iff])
    (by simp [recovered, AList.mem_keys, AList.keys, List.keys])).mpr
    (fun past execution hpre => ⟨?_, ?_⟩) recovered (List.prefix_refl _)
  · have hmem : execution ∈ recovered := hpre.subset (by simp)
    rcases List.mem_pair.mp hmem with rfl | rfl <;> exact ⟨rfl, rfl⟩
  · apply Nat.lt_of_le_of_lt (consecutiveFailures_le_length _ _)
    have hlength := hpre.length_le
    have htwo : recovered.length = 2 := rfl
    omega

end HiDumper.Spec
