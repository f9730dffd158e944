import HiDumper.Native.TaskControl

/-!
# What a task does to the inventory

`TaskControl` takes the inventory steps of a task as an input. Here a task is a program
that calls the inventory and goes on according to what the calls return, as the `Run` of
a `Task` does, and `ExecuteSingleTask` of `task/base/task_control.cpp` runs it: once, and
once more on what is in the inventory by then if it fails.

Data travels as `shared_ptr`s to objects that the injecting `Run` has made, so every
object has the run it comes from. A program sees the value only.
-/

namespace HiDumper.Native

/-- The runs that data may come from. -/
inductive Maker where
  /-- A task that ran before. -/
  | earlier
  | firstAttempt
  | retry
  deriving DecidableEq, Repr

/-- An object in the inventory. -/
structure MadeData (V : Type) where
  maker : Maker
  value : V
  deriving DecidableEq, Repr

/-- `Task::Run` as far as the inventory is concerned. A null pointer is `none`. -/
inductive TaskProgram (V : Type) where
  | ret (status : DumpStatus)
  | inject (dataId : DataId) (ptr : Option V) (next : Bool → TaskProgram V)
  | getPtr (dataId : DataId) (next : Option V → TaskProgram V)

namespace TaskProgram

variable {V : Type}

/-- `Task::Run`: the steps that change the inventory, and the status. -/
def run (maker : Maker) : TaskProgram V → DataInventory (MadeData V) → Attempt (MadeData V)
  | .ret status, _ => ⟨[], status⟩
  | .inject _ none next, dataInventory => (next false).run maker dataInventory
  | .inject dataId (some value) next, dataInventory =>
    if (dataInventory.getPtr dataId).isSome then (next false).run maker dataInventory
    else
      let op : InventoryOp (MadeData V) := .inputToData dataId ⟨maker, value⟩
      let ret := (dataInventory.inputToData dataId ⟨maker, value⟩).1
      let rest := (next ret).run maker (op.apply dataInventory)
      ⟨op :: rest.ops, rest.status⟩
  | .getPtr dataId next, dataInventory =>
    (next ((dataInventory.getPtr dataId).map (·.value))).run maker dataInventory

/-- The inventory after a run. -/
def after (maker : Maker) (task : TaskProgram V) (dataInventory : DataInventory (MadeData V)) :
    DataInventory (MadeData V) :=
  (task.run maker dataInventory).ops.foldl InventoryOp.apply dataInventory

end TaskProgram

/-- `TaskControl::ExecuteSingleTask` on an inventory, for the tasks that the creator yields
    the first time and for the retry. -/
def runSingleTask {V : Type} (taskInfo : RegTaskInfo) (created recreated : Option (TaskProgram V))
    (dataInventory : DataInventory (MadeData V)) : SingleTaskResult (MadeData V) :=
  let first := created.map fun task => task.run .firstAttempt dataInventory
  let left := match created with
    | none => dataInventory
    | some task => task.after .firstAttempt dataInventory
  executeSingleTask taskInfo ⟨first, recreated.map fun task => task.run .retry left⟩

end HiDumper.Native
