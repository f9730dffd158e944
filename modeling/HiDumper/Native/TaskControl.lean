import HiDumper.ForStd.Interleave
import HiDumper.Native.DataInventory

/-!
# TaskControl: level-by-level task execution

Model of the scheduling half of `task/base/task_control.cpp`: one task with its
retry and failure count, the selection of runnable tasks, the verification of a
topology and the execution of its levels.

What a task does is an input of the run. `TaskBehaviour` gives, for the two
times `ExecuteSingleTask` may create a task, the inventory steps and the status
of its `Run`, or `none` when the creator yields no task. The tasks of a level
run concurrently (`ffrt::submit` ... `ffrt::wait`), so their steps are
interleaved as a list of picks says. `TaskEnv` collects both for a whole run.

A run is recorded as a list of levels, each with its events, so that statements
can refer to any moment of it. `RecordTaskStat` and the other statistics that
exist under `HIDUMPER_DFX` only are left out.
-/

namespace HiDumper.Native

variable {V : Type}

/-! ## One task -/

/-- What `Task::Run` does: its inventory steps in order, and its status. -/
structure Attempt (V : Type) where
  ops : List (InventoryOp V)
  status : DumpStatus

/-- The task yielded by the first creator call and the one yielded for the retry. -/
structure TaskBehaviour (V : Type) where
  created : Option (Attempt V)
  recreated : Option (Attempt V)

/-- Outcome of `ExecuteSingleTask`: inventory steps, status, and the `reset`
    argument of its `UpdateTaskFailureCount` call if it makes one. -/
structure SingleTaskResult (V : Type) where
  ops : List (InventoryOp V)
  dumpStatus : DumpStatus
  reset : Option Bool

/-- `TaskControl::UpdateTaskFailureCount` on the registry. -/
def updateTaskFailureCount (container : TaskCollection) (taskId : TaskId) (reset : Bool) :
    TaskCollection :=
  match container.lookup taskId with
  | none => container
  | some info =>
    container.insert taskId
      { info with failureCount := if reset then 0 else info.failureCount + 1 }

/-- `TaskControl::HandleTaskRetry`. -/
def handleTaskRetry (behaviour : TaskBehaviour V) : SingleTaskResult V :=
  match behaviour.recreated with
  | none => ⟨[], .dumpFail, some false⟩
  | some task =>
    if task.status ≠ .dumpOk then ⟨task.ops, task.status, some false⟩
    else ⟨task.ops, task.status, some true⟩

/-- `TaskControl::CreateTask`. -/
def createTask (taskInfo : RegTaskInfo) (behaviour : TaskBehaviour V) : Option (Attempt V) :=
  if !taskInfo.creator then none else behaviour.created

/-- `TaskControl::ExecuteSingleTask`. A task that cannot be created leaves the
    failure count alone. -/
def executeSingleTask (taskInfo : RegTaskInfo) (behaviour : TaskBehaviour V) :
    SingleTaskResult V :=
  match createTask taskInfo behaviour with
  | none => ⟨[], .dumpFail, none⟩
  | some task =>
    if task.status ≠ .dumpOk then
      let retry := handleTaskRetry behaviour
      { retry with ops := task.ops ++ retry.ops }
    else ⟨task.ops, task.status, some true⟩

/-! ## Selection and verification -/

/-- `TaskControl::IsTaskExcessivelyFailed`, read from the registry. -/
def isTaskExcessivelyFailed (container : TaskCollection) (taskId : TaskId) : Bool :=
  match container.lookup taskId with
  | none => false
  | some info => decide (info.failureCount ≥ maxFailureCount)

/-- `TaskControl::UpdateTaskDependencies`: strip the selected tasks. -/
def updateTaskDependencies (tasks runnableTasks : TaskCollection) : TaskCollection :=
  tasks.mapVal fun info =>
    { info with
      taskDependency := info.taskDependency.filter fun d => !runnableTasks.keys.contains d }

/-- `TaskControl::SelectRunnableTasks`: the runnable tasks and what is left of
    `tasks`. Excessively failed tasks are erased, tasks without dependencies are
    moved to the result, and the rest lose their dependencies on the result. -/
def selectRunnableTasks (container tasks : TaskCollection) : TaskCollection × TaskCollection :=
  let runnableTasks := tasks.filterEntries fun id info =>
    !isTaskExcessivelyFailed container id && info.taskDependency.isEmpty
  let remaining := tasks.filterEntries fun id info =>
    !isTaskExcessivelyFailed container id && !info.taskDependency.isEmpty
  (runnableTasks, updateTaskDependencies remaining runnableTasks)

/-- The selection loop of `VerifyTaskTopo`: what is left once nothing is runnable. -/
def verifyLoop (container : TaskCollection) : Nat → TaskCollection → Option TaskCollection
  | 0, _ => none
  | fuel + 1, verifyTasks =>
    let selected := selectRunnableTasks container verifyTasks
    if selected.1.entries.isEmpty then some selected.2
    else verifyLoop container fuel selected.2

/-- `TaskControl::VerifyTaskTopo`. Every round but the last selects a task, so
    one round more than there are tasks is enough. -/
def verifyTaskTopo (container tasks : TaskCollection) : Option Bool :=
  if tasks.entries.isEmpty then some false
  else (verifyLoop container (tasks.entries.length + 1) tasks).map fun rest => rest.entries.isEmpty

/-! ## Levels -/

/-- What a running task does to the shared state. -/
inductive TaskEvent (V : Type) where
  | start
  | op (o : InventoryOp V)
  | updateFailureCount (reset : Bool)

/-- The inputs of a run: what each task does, and who moves next in each level. -/
structure TaskEnv (V : Type) where
  behaviour : TaskId → TaskBehaviour V
  picks : Nat → List TaskId

/-- Status of a task when it is executed. -/
def TaskEnv.dumpStatus (env : TaskEnv V) (taskId : TaskId) (taskInfo : RegTaskInfo) :
    DumpStatus :=
  (executeSingleTask taskInfo (env.behaviour taskId)).dumpStatus

/-- The events of one task of `SubmitRunnableTasks`, in program order. -/
def TaskEnv.taskEvents (env : TaskEnv V) (taskId : TaskId) (taskInfo : RegTaskInfo) :
    List (TaskEvent V) :=
  let result := executeSingleTask taskInfo (env.behaviour taskId)
  .start :: result.ops.map .op ++ result.reset.toList.map .updateFailureCount

/-- `SubmitRunnableTasks` and `ffrt::wait`: the interleaved events of level `level`. -/
def TaskEnv.submitRunnableTasks (env : TaskEnv V) (level : Nat) (runnableTasks : TaskCollection) :
    List (TaskId × TaskEvent V) :=
  Interleave.interleave (env.picks level)
    (runnableTasks.entries.map fun task => (task.1, env.taskEvents task.1 task.2))

/-- The shared state of a run: the registry and the inventory. -/
structure RunState (V : Type) where
  container : TaskCollection
  dataInventory : DataInventory V

/-- Effect of one event. -/
def RunState.apply (s : RunState V) : TaskId × TaskEvent V → RunState V
  | (_, .start) => s
  | (_, .op o) => { s with dataInventory := o.apply s.dataInventory }
  | (taskId, .updateFailureCount reset) =>
    { s with container := updateTaskFailureCount s.container taskId reset }

/-- The fields of `TaskStatistcs` that `GetTaskResult` reads. -/
structure TaskStatistcs where
  dumpStatus : DumpStatus
  mandatory : Bool

/-- The `stat` vector a level fills in. -/
def TaskEnv.levelStat (env : TaskEnv V) (runnableTasks : TaskCollection) : List TaskStatistcs :=
  runnableTasks.entries.map fun task => ⟨env.dumpStatus task.1 task.2, task.2.mandatory⟩

/-- `TaskControl::GetTaskResult`: no mandatory task has failed. -/
def getTaskResult (taskStats : List TaskStatistcs) : Bool :=
  taskStats.all fun node => !(decide (node.dumpStatus ≠ .dumpOk) && node.mandatory)

/-- The data ids `TaskControl::ReleaseNoUsedData` keeps. -/
def usingData (tasks : TaskCollection) : List DataId :=
  tasks.entries.flatMap fun task => task.2.dataDependency

/-- `TaskControl::ReleaseNoUsedData`. -/
def releaseNoUsedData (dataInventory : DataInventory V) (tasks : TaskCollection) :
    DataInventory V :=
  (dataInventory.removeRestData (usingData tasks)).2

/-- Record of one level of `ExecuteTaskInner`. -/
structure LevelTrace (V : Type) where
  /-- The tasks of the level. -/
  runnableTasks : TaskCollection
  /-- The tasks left for later levels. -/
  tasks : TaskCollection
  events : List (TaskId × TaskEvent V)
  /-- The result of `GetTaskResult`; on `false` the run ends without a release. -/
  executeResult : Bool

/-- The tasks whose execution starts in the level, in the order they start. -/
def LevelTrace.started (level : LevelTrace V) : List TaskId :=
  level.events.filterMap fun e =>
    match e with
    | (taskId, .start) => some taskId
    | _ => none

/-- One step of a run as the shared state sees it. -/
inductive RunStep (V : Type) where
  | event (taskId : TaskId) (e : TaskEvent V)
  | release (usingData : List DataId)

/-- Effect of one step. -/
def RunState.applyStep (s : RunState V) : RunStep V → RunState V
  | .event taskId e => s.apply (taskId, e)
  | .release keep => { s with dataInventory := (s.dataInventory.removeRestData keep).2 }

/-- The steps of a level: its events, then the release unless the run ends there. -/
def LevelTrace.steps (level : LevelTrace V) : List (RunStep V) :=
  level.events.map (fun e => .event e.1 e.2) ++
    if level.executeResult then [.release (usingData level.tasks)] else []

/-- Result of `ExecuteTaskInner` with the levels it went through. -/
structure RunResult (V : Type) where
  status : DumpStatus
  levels : List (LevelTrace V)
  state : RunState V

/-- All steps of a run in order. -/
def RunResult.trace (r : RunResult V) : List (RunStep V) := r.levels.flatMap LevelTrace.steps

/-- The loop of `TaskControl::ExecuteTaskInner`, from level `level` on. -/
def executeLevels (env : TaskEnv V) : Nat → Nat → RunState V → TaskCollection →
    Option (RunResult V)
  | 0, _, _, _ => none
  | fuel + 1, level, s, tasks =>
    let selected := selectRunnableTasks s.container tasks
    if selected.1.entries.isEmpty then some ⟨.dumpOk, [], s⟩
    else
      let events := env.submitRunnableTasks level selected.1
      let s' := events.foldl RunState.apply s
      let executeResult := getTaskResult (env.levelStat selected.1)
      let trace : LevelTrace V := ⟨selected.1, selected.2, events, executeResult⟩
      if !executeResult then some ⟨.dumpFail, [trace], s'⟩
      else
        let released := releaseNoUsedData s'.dataInventory selected.2
        (executeLevels env fuel (level + 1) { s' with dataInventory := released } selected.2).map
          fun rest => { rest with levels := trace :: rest.levels }

/-- `TaskControl::ExecuteTaskInner`. -/
def executeTaskInner (env : TaskEnv V) (s : RunState V) (tasks : TaskCollection) :
    Option (RunResult V) :=
  executeLevels env (tasks.entries.length + 1) 0 s tasks

end HiDumper.Native
