import HiDumper.Native.TaskRun

/-!
# What a failed attempt leaves to the retry

`HandleTaskRetry` runs a failed task again on the inventory as the first attempt left it.
`Inject` never replaces data, so whatever the first attempt put in stays, and the retry
cannot put in its own. The result is that of the retry alone exactly when the first
attempt put in nothing.

## Key results

- `lookup_after`: a run keeps what is there and adds objects of its own
- `ops_eq_nil_of_lookup`: a run that changes no lookup makes no step
- `retry_alone_iff`: when the retry has the inventory for itself
-/

namespace HiDumper.Spec

open HiDumper.Native

variable {V : Type}

/-- The first step of a run that injects a missing id, and the rest of the run. -/
private theorem run_inject_absent (maker : Maker) {dataId : DataId} (value : V)
    (next : Bool → TaskProgram V) {dataInventory : DataInventory (MadeData V)}
    (h : dataId ∉ dataInventory) :
    (TaskProgram.inject dataId (some value) next).run maker dataInventory =
      let op : InventoryOp (MadeData V) := .inputToData dataId ⟨maker, value⟩
      let rest := (next true).run maker (op.apply dataInventory)
      ⟨op :: rest.ops, rest.status⟩ := by
  have hnone : dataInventory.getPtr dataId = none := AList.lookup_eq_none.mpr h
  simp [TaskProgram.run, hnone, DataInventory.inputToData, h]

/-- `Inject` fails where there is data already. -/
private theorem run_inject_present (maker : Maker) {dataId : DataId} (value : V)
    (next : Bool → TaskProgram V) {dataInventory : DataInventory (MadeData V)}
    (h : dataId ∈ dataInventory) :
    (TaskProgram.inject dataId (some value) next).run maker dataInventory =
      (next false).run maker dataInventory := by
  have hsome : (dataInventory.getPtr dataId).isSome = true := AList.lookup_isSome.mpr h
  simp [TaskProgram.run, hsome]

/-- A run keeps the objects that are there, and what it adds it has made itself. -/
theorem lookup_after (maker : Maker) (task : TaskProgram V)
    (dataInventory : DataInventory (MadeData V)) (dataId : DataId) :
    (task.after maker dataInventory).lookup dataId = dataInventory.lookup dataId ∨
      dataInventory.lookup dataId = none ∧
        ∃ value, (task.after maker dataInventory).lookup dataId = some ⟨maker, value⟩ := by
  induction task generalizing dataInventory with
  | ret status => exact Or.inl rfl
  | getPtr other next ih => exact ih _ dataInventory
  | inject other ptr next ih =>
    cases ptr with
    | none => exact ih false dataInventory
    | some value =>
      by_cases hmem : other ∈ dataInventory
      · have hrun := run_inject_present maker value next hmem
        rw [TaskProgram.after, hrun]
        exact ih false dataInventory
      -- The object is put in, and stays: the rest of the run keeps what is there.
      · have hrun := run_inject_absent maker value next hmem
        rw [TaskProgram.after, hrun, List.foldl_cons]
        have hput : InventoryOp.apply dataInventory (.inputToData other ⟨maker, value⟩) =
            dataInventory.insert other ⟨maker, value⟩ := if_neg hmem
        rw [hput]
        have hrest := ih true (dataInventory.insert other ⟨maker, value⟩)
        by_cases hid : dataId = other
        · subst hid
          right
          refine ⟨AList.lookup_eq_none.mpr hmem, ?_⟩
          rw [AList.lookup_insert] at hrest
          rcases hrest with hkept | ⟨hnone, -⟩
          · exact ⟨value, hkept⟩
          · exact nomatch hnone
        · rw [AList.lookup_insert_ne hid] at hrest
          exact hrest

/-- An object that is there stays there. -/
private theorem lookup_after_of_some (maker : Maker) (task : TaskProgram V)
    {dataInventory : DataInventory (MadeData V)} {dataId : DataId} {data : MadeData V}
    (h : dataInventory.lookup dataId = some data) :
    (task.after maker dataInventory).lookup dataId = some data := by
  rcases lookup_after maker task dataInventory dataId with hkept | ⟨hnone, -⟩
  · exact hkept.trans h
  · rw [h] at hnone
    exact nomatch hnone

/-- A run that takes a step injects an id that was missing. -/
theorem ops_eq_nil_of_lookup (maker : Maker) (task : TaskProgram V)
    (dataInventory : DataInventory (MadeData V))
    (h : ∀ dataId, (task.after maker dataInventory).lookup dataId = dataInventory.lookup dataId) :
    (task.run maker dataInventory).ops = [] := by
  induction task with
  | ret status => rfl
  | getPtr other next ih => exact ih _ h
  | inject other ptr next ih =>
    cases ptr with
    | none => exact ih false h
    | some value =>
      by_cases hmem : other ∈ dataInventory
      · have hrun := run_inject_present maker value next hmem
        unfold TaskProgram.after at h
        rw [hrun] at h ⊢
        exact ih false h
      · -- The id is there after the step, and stays.
        have hrun := run_inject_absent maker value next hmem
        have hput : InventoryOp.apply dataInventory (.inputToData other ⟨maker, value⟩) =
            dataInventory.insert other ⟨maker, value⟩ := if_neg hmem
        have hafter : (TaskProgram.after maker (.inject other (some value) next)
            dataInventory).lookup other = some ⟨maker, value⟩ := by
          rw [TaskProgram.after, hrun, List.foldl_cons, hput]
          exact lookup_after_of_some maker (next true) (AList.lookup_insert _)
        rw [h other, AList.lookup_eq_none.mpr hmem] at hafter
        exact nomatch hafter

/-! ## A failed attempt and its retry -/

/-- An inventory before a task runs. -/
def earlierData (inventory : DataInventory V) : DataInventory (MadeData V) :=
  inventory.mapVal fun value => ⟨.earlier, value⟩

/-- Data of an earlier run is marked as such. -/
private theorem maker_earlierData {inventory : DataInventory V} {dataId : DataId}
    {data : MadeData V}
    (h : (earlierData inventory).lookup dataId = some data) : data.maker = .earlier := by
  rw [earlierData, AList.lookup_mapVal, Option.map_eq_some_iff] at h
  obtain ⟨value, -, rfl⟩ := h
  rfl

/-- The inventory after `ExecuteSingleTask`. -/
def finalData (taskInfo : RegTaskInfo) (first retry : TaskProgram V) (inventory : DataInventory V) :
    DataInventory (MadeData V) :=
  (runSingleTask taskInfo (some first) (some retry) (earlierData inventory)).ops.foldl
    InventoryOp.apply (earlierData inventory)

section

variable {taskInfo : RegTaskInfo} {first retry : TaskProgram V} {inventory : DataInventory V}

/-- After a failed attempt the retry decides, on what the attempt has left. -/
private theorem runSingleTask_of_failed (retry : TaskProgram V) (hcreator : taskInfo.creator = true)
    (hfail : (first.run .firstAttempt (earlierData inventory)).status ≠ .dumpOk) :
    (runSingleTask taskInfo (some first) (some retry) (earlierData inventory)).dumpStatus =
        (retry.run .retry (first.after .firstAttempt (earlierData inventory))).status ∧
      finalData taskInfo first retry inventory =
        retry.after .retry (first.after .firstAttempt (earlierData inventory)) := by
  -- Whatever the second attempt is, the task ends with its status, behind the operations of both.
  have hresult : ∀ second : Attempt (MadeData V),
      (executeSingleTask taskInfo
        ⟨some (first.run .firstAttempt (earlierData inventory)), some second⟩).dumpStatus =
          second.status ∧
      (executeSingleTask taskInfo
        ⟨some (first.run .firstAttempt (earlierData inventory)), some second⟩).ops =
          (first.run .firstAttempt (earlierData inventory)).ops ++ second.ops := by
    intro second
    simp only [executeSingleTask, createTask, hcreator, Bool.not_true, Bool.false_eq_true, if_false,
      if_pos hfail, handleTaskRetry]
    split <;> exact ⟨rfl, rfl⟩
  constructor
  · exact (hresult _).1
  · unfold finalData
    rw [show (runSingleTask taskInfo (some first) (some retry) (earlierData inventory)).ops = _ from
      (hresult _).2, List.foldl_append]
    rfl

/-- For a first attempt that fails and a second one that succeeds, in the run or by itself:
    the second one succeeds if it does by itself and leaves the inventory that it makes by
    itself, if and only if the first attempt has left the inventory as it was. -/
theorem retry_alone_iff (hcreator : taskInfo.creator = true)
    (hfail : (first.run .firstAttempt (earlierData inventory)).status ≠ .dumpOk)
    (hok : (retry.run .retry (earlierData inventory)).status = .dumpOk ∨
      (runSingleTask taskInfo (some first) (some retry) (earlierData inventory)).dumpStatus =
        .dumpOk) :
    (((runSingleTask taskInfo (some first) (some retry) (earlierData inventory)).dumpStatus =
          .dumpOk →
        ∀ dataId, (finalData taskInfo first retry inventory).lookup dataId =
          (retry.after .retry (earlierData inventory)).lookup dataId) ∧
      ((retry.run .retry (earlierData inventory)).status = .dumpOk →
        (runSingleTask taskInfo (some first) (some retry) (earlierData inventory)).dumpStatus =
          .dumpOk)) ↔
    ∀ dataId, (first.after .firstAttempt (earlierData inventory)).lookup dataId =
      (earlierData inventory).lookup dataId := by
  obtain ⟨hstatus, hfinal⟩ := runSingleTask_of_failed retry hcreator hfail
  constructor
  · rintro ⟨hsame, hsucceeds⟩ dataId
    rcases lookup_after .firstAttempt first (earlierData inventory) dataId with
      hkept | ⟨-, value, hleft⟩
    · exact hkept
    -- The object stays to the end, and the retry alone does not make it.
    have hfinalLeft := lookup_after_of_some .retry retry hleft
    have hresult : (runSingleTask taskInfo (some first) (some retry)
        (earlierData inventory)).dumpStatus = .dumpOk := by
      rcases hok with halone | hrun
      · exact hsucceeds halone
      · exact hrun
    have halone := hsame hresult dataId
    rw [hfinal, hfinalLeft] at halone
    rcases lookup_after .retry retry (earlierData inventory) dataId with
      hkept | ⟨-, value', hmade⟩
    · rw [hkept] at halone
      have hmaker := maker_earlierData halone.symm
      exact nomatch hmaker
    · rw [hmade, Option.some.injEq, MadeData.mk.injEq] at halone
      exact nomatch halone.1
  · intro hsame
    have hnone := ops_eq_nil_of_lookup .firstAttempt first (earlierData inventory) hsame
    have hleft : first.after .firstAttempt (earlierData inventory) = earlierData inventory := by
      rw [TaskProgram.after, hnone, List.foldl_nil]
    rw [hstatus, hfinal, hleft]
    exact ⟨fun _ _ => rfl, id⟩

end

/-- A task that injects a value and returns a status, whatever `Inject` returns. -/
def injectAndReturn (dataId : DataId) (value : Nat) (status : DumpStatus) : TaskProgram Nat :=
  .inject dataId (some value) fun _ => .ret status

/-- A registered task. -/
def anyTask : RegTaskInfo := ⟨true, [], [], "task", 0, false⟩

/-- The first attempt injects 1 and fails, the retry injects 2 and succeeds, and 1 stays. -/
theorem retry_keeps_leftover :
    (runSingleTask anyTask (some (injectAndReturn 7 1 .dumpFail))
      (some (injectAndReturn 7 2 .dumpOk)) (earlierData ∅)).dumpStatus = .dumpOk ∧
    ¬∀ dataId, (finalData anyTask (injectAndReturn 7 1 .dumpFail)
        (injectAndReturn 7 2 .dumpOk) ∅).lookup dataId =
      ((injectAndReturn 7 2 .dumpOk).after .retry (earlierData ∅)).lookup dataId := by
  refine ⟨rfl, fun h => ?_⟩
  have hlookup := h 7
  exact absurd hlookup (by decide)

/-- A first attempt that fails before it injects anything. -/
theorem retry_alone_empty :
    (TaskProgram.run .firstAttempt (.ret .dumpFail : TaskProgram Nat) (earlierData ∅)).status ≠
        .dumpOk ∧
      (finalData anyTask (.ret .dumpFail) (injectAndReturn 7 2 .dumpOk) ∅).lookup 7 =
        ((injectAndReturn 7 2 .dumpOk).after .retry (earlierData ∅)).lookup 7 := by
  have hfail : (TaskProgram.run .firstAttempt (.ret .dumpFail : TaskProgram Nat)
      (earlierData ∅)).status ≠ .dumpOk := by decide
  have halone : (TaskProgram.run .retry (injectAndReturn 7 2 .dumpOk) (earlierData ∅)).status =
      .dumpOk := rfl
  have hcreator : anyTask.creator = true := rfl
  have hiff := retry_alone_iff hcreator hfail (Or.inl halone)
  exact ⟨hfail, (hiff.mpr fun _ => rfl).1 rfl 7⟩

end HiDumper.Spec
