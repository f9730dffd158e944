import HiDumper.Native.TaskVerify
import HiDumper.Spec.TaskLevels

/-!
# VerifyTaskTopo accepts the acyclic collections

The loop over the variables follows `SelectRun`, whatever the iteration orders: both
select the same tasks, listed in another order. So it ends, and what it leaves is
empty if and only if the dependencies are closed and acyclic.

## Key results

- `selectRunnableTasks_perm`: a selection does not depend on the order of the tasks
- `SelectRun.reaches`: the loop of `VerifyTaskTopo` along the levels
- `verifyTaskTopoVars_ends`: it ends, and it accepts what `verifyTaskTopo` accepts
- `verifyTaskTopoVars_iff`: which collections are accepted
-/

namespace HiDumper.Spec

open HiDumper.Native Layering

variable {container tasks : TaskCollection}

/-- Stripping the same ids from the same tasks, both in any order. -/
private theorem updateTaskDependencies_perm {first second runnable₁ runnable₂ : TaskCollection}
    (h : first.entries.Perm second.entries) (hrunnable : runnable₁.entries.Perm runnable₂.entries) :
    (updateTaskDependencies first runnable₁).entries.Perm
      (updateTaskDependencies second runnable₂).entries := by
  have hkeys : ∀ d, runnable₁.keys.contains d = runnable₂.keys.contains d := by
    intro d
    rw [Bool.eq_iff_iff, List.contains_iff_mem, List.contains_iff_mem]
    exact (hrunnable.map Sigma.fst).mem_iff
  unfold updateTaskDependencies
  simp only [hkeys]
  exact h.map _

/-- The selection does not depend on the order of the tasks. -/
theorem selectRunnableTasks_perm {first second : TaskCollection}
    (h : first.entries.Perm second.entries) :
    (selectRunnableTasks container first).1.entries.Perm
        (selectRunnableTasks container second).1.entries ∧
      (selectRunnableTasks container first).2.entries.Perm
        (selectRunnableTasks container second).2.entries :=
  ⟨h.filter _, updateTaskDependencies_perm (h.filter _) (h.filter _)⟩

/-- The variables after a selection, up to the orders. -/
private theorem select_perm (iteration : TaskOrders) {vars : VerifyVars}
    (h : vars.verifyTasks.entries.Perm tasks.entries) :
    (vars.select container iteration).runnableTasks.entries.Perm
        (selectRunnableTasks container tasks).1.entries ∧
      (vars.select container iteration).verifyTasks.entries.Perm
        (selectRunnableTasks container tasks).2.entries := by
  obtain ⟨hrunnable, hrest⟩ := @selectRunnableTasks_perm container _ _ h
  exact ⟨(iteration.perm _ _).trans hrunnable, (iteration.perm _ _).trans hrest⟩

/-- The loop of `VerifyTaskTopo` passes the levels and ends. The caller's collection is
    not among the variables that it assigns. -/
theorem SelectRun.reaches {rest : TaskCollection} {levels : List (TaskCollection × TaskCollection)}
    (h : SelectRun container tasks levels rest) (iteration : TaskOrders) {vars : VerifyVars}
    (hvars : vars.verifyTasks.entries.Perm tasks.entries) :
    ∃ last, Loop.Reaches (verifyRound container iteration) (vars.select container iteration) last ∧
      verifyRound container iteration last = none ∧
      last.verifyTasks.entries.Perm rest.entries ∧ last.tasks = vars.tasks := by
  induction h generalizing vars with
  | stop hempty =>
    obtain ⟨hrunnable, hrest⟩ := @select_perm container _ iteration _ hvars
    rw [hempty, List.perm_nil] at hrunnable
    exact ⟨_, Loop.Reaches.refl _, by simp [verifyRound, hrunnable], hrest, rfl⟩
  | level hsome hlevels ih =>
    obtain ⟨hrunnable, hrest⟩ := @select_perm container _ iteration _ hvars
    -- Something was selected, so the loop goes on with what is left.
    have hround : verifyRound container iteration (vars.select container iteration) =
        some ((vars.select container iteration).select container iteration) := by
      rw [verifyRound, if_neg]
      intro hempty
      rw [List.isEmpty_iff.mp hempty, List.nil_perm] at hrunnable
      exact hsome hrunnable
    obtain ⟨last, hreaches, hend, hperm, htasks⟩ := ih hrest
    exact ⟨last, (Loop.Reaches.one hround).trans hreaches, hend, hperm, htasks⟩

/-- `VerifyTaskTopo` ends with the answer of `verifyTaskTopo`, and the caller's collection
    is as it was. -/
theorem verifyTaskTopoVars_ends (container tasks : TaskCollection) (iteration : TaskOrders) :
    ∃ answer, verifyTaskTopo container tasks = some answer ∧
      ∃ enough, ∀ fuel, enough ≤ fuel →
        verifyTaskTopoVars container iteration fuel tasks = some (answer, tasks) := by
  obtain ⟨levels, rest, hrun⟩ := exists_selectRun container tasks
  refine ⟨_, verifyTaskTopo_eq hrun, ?_⟩
  by_cases hempty : tasks.entries = []
  · exact ⟨0, fun fuel _ => by simp [verifyTaskTopoVars, hempty]⟩
  · let vars : VerifyVars :=
      { tasks := tasks, verifyTasks := iteration.order 0 tasks, runnableTasks := ∅, selections := 1 }
    -- The loop with variables follows the run of the levels, up to the order of the tasks.
    obtain ⟨last, hreaches, hend, hperm, htasks⟩ :=
      @SelectRun.reaches _ _ _ _ hrun iteration vars (iteration.perm 0 tasks)
    obtain ⟨enough, henough⟩ := hreaches.ends hend
    refine ⟨enough, fun fuel hfuel => ?_⟩
    have hrest : last.verifyTasks.entries = [] ↔ rest.entries = [] := by
      rw [← List.length_eq_zero_iff, ← List.length_eq_zero_iff, hperm.length_eq]
    have hloop := henough fuel hfuel
    simp only [verifyTaskTopoVars, List.isEmpty_iff, hempty, if_false]
    show (Loop.run _ fuel (vars.select container iteration)).map _ = _
    rw [hloop, Option.map_some, htasks]
    by_cases hleft : rest.entries = [] <;> simp [hleft, hrest, hempty, vars]

/-- A collection of which no task is excluded is accepted if and only if it has a task,
    every dependency is a task of it, and the dependencies have no cycle. This holds
    whatever the iteration orders; the call ends and leaves the collection as it was. -/
theorem verifyTaskTopoVars_iff (container tasks : TaskCollection) (iteration : TaskOrders)
    (hactive : ∀ t ∈ tasks, isTaskExcessivelyFailed container t = false) :
    ∃ answer, (∃ enough, ∀ fuel, enough ≤ fuel →
        verifyTaskTopoVars container iteration fuel tasks = some (answer, tasks)) ∧
      (answer = true ↔ tasks.entries ≠ [] ∧ (∀ t d, DependsOn tasks t d → d ∈ tasks) ∧
        Acyclic fun t d => DependsOn tasks t d ∧ d ∈ tasks) := by
  obtain ⟨answer, hanswer, hends⟩ := verifyTaskTopoVars_ends container tasks iteration
  refine ⟨answer, hends, ?_⟩
  have hverify := verifyTaskTopo_iff container tasks
  rw [hanswer, Option.some.injEq] at hverify
  -- Every task with a dependency is active.
  have hmem : ∀ t d, DependsOn tasks t d → t ∈ tasks := by
    rintro t d ⟨info, hinfo, -⟩
    exact AList.lookup_isSome.mp (by simp [hinfo])
  have hdepends : ∀ t d, ActiveDependsOn container tasks t d ↔ DependsOn tasks t d :=
    fun t d => ⟨And.right, fun htd => ⟨hactive t (hmem t d htd), htd⟩⟩
  rw [hverify]
  apply and_congr_right
  intro _
  constructor
  · rintro ⟨hclosed, hacyclic⟩
    exact ⟨fun t d htd => (hclosed t d ((hdepends t d).mpr htd)).1,
      hacyclic.mono fun t d htd => (hdepends t d).mpr htd.1⟩
  · rintro ⟨hclosed, hacyclic⟩
    refine ⟨fun t d htd => ?_, hacyclic.mono fun t d htd => ?_⟩
    · have hd := hclosed t d htd.2
      exact ⟨hd, hactive d hd⟩
    · exact ⟨htd.2, hclosed t d htd.2⟩

/-- No task of the chain has failed. -/
private theorem active_chainTasks (t : TaskId) (h : t ∈ chainTasks) :
    isTaskExcessivelyFailed chainTasks t = false := by
  have hkeys : t ∈ ([10001, 1] : List TaskId) := h
  rw [List.mem_cons, List.mem_singleton] at hkeys
  obtain rfl | rfl := hkeys
  · decide
  · decide

/-- A root with its dependency, each collection iterated backwards. -/
theorem verifyTaskTopoVars_iff_reversed :
    ∃ answer, (∃ enough, ∀ fuel, enough ≤ fuel → verifyTaskTopoVars chainTasks
        ⟨fun _ tasks => ⟨tasks.entries.reverse, by
            rw [List.NodupKeys, List.keys, List.map_reverse, List.nodup_reverse]
            exact tasks.nodupKeys⟩, fun _ _ => List.reverse_perm _⟩ fuel chainTasks =
          some (answer, chainTasks)) ∧
      (answer = true ↔ chainTasks.entries ≠ [] ∧
        (∀ t d, DependsOn chainTasks t d → d ∈ chainTasks) ∧
        Acyclic fun t d => DependsOn chainTasks t d ∧ d ∈ chainTasks) :=
  verifyTaskTopoVars_iff chainTasks chainTasks _ active_chainTasks

end HiDumper.Spec
