import HiDumper.ForStd.Loops
import HiDumper.Native.TaskControl

/-!
# TaskControl: VerifyTaskTopo over its variables

`VerifyTaskTopo` gets the caller's collection by reference, copies it, and runs
`SelectRunnableTasks` on the copy until nothing is selected. Here it is a loop over its
variables, so that one can say what becomes of the caller's collection, and it takes as
many rounds as it takes. A copy of an `unordered_map`, and one that elements were erased
from, may be iterated in any order: `TaskOrders` gives that order at each assignment.
-/

namespace HiDumper.Native

/-- The order in which the collection assigned at a given moment is iterated. -/
structure TaskOrders where
  order : Nat → TaskCollection → TaskCollection
  perm : ∀ moment tasks, (order moment tasks).entries.Perm tasks.entries

/-- The variables of `VerifyTaskTopo`. -/
structure VerifyVars where
  /-- The parameter, an alias of the caller's collection. -/
  tasks : TaskCollection
  verifyTasks : TaskCollection
  runnableTasks : TaskCollection
  /-- The number of selections so far. -/
  selections : Nat

/-- `runnableTasks = SelectRunnableTasks(verifyTasks)`. -/
def VerifyVars.select (container : TaskCollection) (iteration : TaskOrders)
    (vars : VerifyVars) : VerifyVars :=
  let selected := selectRunnableTasks container vars.verifyTasks
  { vars with
    verifyTasks := iteration.order (2 * vars.selections) selected.2
    runnableTasks := iteration.order (2 * vars.selections + 1) selected.1
    selections := vars.selections + 1 }

/-- One round of the loop of `VerifyTaskTopo`; `none` when it ends. -/
def verifyRound (container : TaskCollection) (iteration : TaskOrders) (vars : VerifyVars) :
    Option VerifyVars :=
  if vars.runnableTasks.entries.isEmpty then none else some (vars.select container iteration)

/-- `TaskControl::VerifyTaskTopo`: the result and the caller's collection after the call. -/
def verifyTaskTopoVars (container : TaskCollection) (iteration : TaskOrders) (fuel : Nat)
    (tasks : TaskCollection) : Option (Bool × TaskCollection) :=
  if tasks.entries.isEmpty then some (false, tasks)
  else
    let vars : VerifyVars :=
      { tasks := tasks, verifyTasks := iteration.order 0 tasks, runnableTasks := ∅, selections := 1 }
    (Loop.run (verifyRound container iteration) fuel (vars.select container iteration)).map
      fun vars => (vars.verifyTasks.entries.isEmpty, vars.tasks)

end HiDumper.Native
