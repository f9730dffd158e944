import HiDumper.ForStd.UnorderedMap
import HiDumper.Native.Common

/-!
# Task registry and configuration

Data model of `frameworks/native/task/base`: the registered information of a
task, collections of tasks and the enable configuration. The sets
`dataDependency` and `taskDependency` are lists in their iteration order; the
model never depends on that order or on repetitions. Of a `TaskCreator` the
registry keeps whether it is set; what a created task does is an input of the
run (`TaskBehaviour` in `HiDumper.Native.TaskControl`).
-/

namespace HiDumper.Native

/-- `enum class TaskId : uint32_t`. -/
abbrev TaskId := UInt32

/-- `enum class DataId : uint32_t`. -/
abbrev DataId := UInt32

/-- `TaskId::ROOT_TASK_START`: only ids above it are root tasks. -/
def rootTaskStart : TaskId := 10000

/-- `MAX_FAILURE_COUNT` of `task_control.cpp`. -/
def maxFailureCount : UInt32 := 10

/-- What is registered for a task. -/
structure RegTaskInfo where
  /-- Whether the `TaskCreator` is non-null. -/
  creator : Bool
  dataDependency : List DataId
  taskDependency : List TaskId
  taskName : String
  failureCount : UInt32 := 0
  mandatory : Bool := false
  deriving DecidableEq, Repr

/-- `std::unordered_map<TaskId, RegTaskInfo>`. -/
abbrev TaskCollection := UnorderedMap TaskId RegTaskInfo

/-- State of the `TaskEnableConfig` singleton. -/
structure TaskEnableConfig where
  taskEnableMap : UnorderedMap TaskId Bool
  configLoaded : Bool

/-- `TaskEnableConfig::IsTaskEnabled`: unloaded or unlisted means enabled. -/
def TaskEnableConfig.isTaskEnabled (config : TaskEnableConfig) (taskId : TaskId) : Bool :=
  if !config.configLoaded then true
  else (config.taskEnableMap.lookup taskId).getD true

end HiDumper.Native
