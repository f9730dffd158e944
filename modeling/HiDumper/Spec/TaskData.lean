import HiDumper.Spec.TaskExecution

/-!
# Data in the inventory during a run

A run sweeps the inventory after every level it survives. The sweep is safe
because a task that starts later was still among the remaining tasks when the
sweep read them: `trace_releaseSafe` states this for every pair of a release and
a later start of the trace. The sweep is also complete: what is left is declared
by a task that has not started yet.

## Key results

- `lookup_foldl_of_kept`: steps that keep `d` keep its value
- `trace_releaseSafe`: no release drops data of a task that starts after it
- `executeTaskInner_keeps_data`: injected data reaches every later task that declares it
-/

namespace HiDumper.Spec

open HiDumper.Native Layering

variable {V : Type} {container tasks orig : TaskCollection}

/-- Task `t` declares `d` in its `dataDependency`. -/
def DeclaresData (tasks : TaskCollection) (t : TaskId) (d : DataId) : Prop :=
  ∃ info, tasks.lookup t = some info ∧ d ∈ info.dataDependency

/-! ## What one step does to the inventory -/

/-- The data ids a step removes the rest of, if it removes anything. -/
def keptData : RunStep V → Option (List DataId)
  | .event _ (.op (.removeRestData keep)) => some keep
  | .release keep => some keep
  | _ => none

/-- `RemoveRestData` keeps the data under the ids it is given. -/
theorem lookup_removeRestData (inventory : DataInventory V) (keep : List DataId) (d : DataId) :
    (inventory.removeRestData keep).2.lookup d = if d ∈ keep then inventory.lookup d else none := by
  simp only [DataInventory.removeRestData, AList.lookup_filterEntries, List.contains_eq_mem]
  by_cases h : d ∈ keep <;> cases inventory.lookup d <;> simp [h]

/-- Step lemma: a step that keeps `d` keeps its value. -/
private theorem lookup_applyStep_of_kept (s : RunState V) {step : RunStep V} {d : DataId} {v : V}
    (hv : s.dataInventory.lookup d = some v)
    (hkeep : ∀ keep, keptData step = some keep → d ∈ keep) :
    (s.applyStep step).dataInventory.lookup d = some v := by
  cases step with
  | release keep =>
    show (s.dataInventory.removeRestData keep).2.lookup d = some v
    rw [lookup_removeRestData, if_pos (hkeep keep rfl), hv]
  | event t e =>
    cases e with
    | start => exact hv
    | updateFailureCount reset => exact hv
    | op o =>
      cases o with
      | inputToData d' v' => exact AList.lookup_emplace_of_some hv d' v'
      | removeRestData keep =>
        show (s.dataInventory.removeRestData keep).2.lookup d = some v
        rw [lookup_removeRestData, if_pos (hkeep keep rfl), hv]

/-- Run lemma: steps that all keep `d` keep its value. -/
theorem lookup_foldl_of_kept (s : RunState V) {steps : List (RunStep V)} {d : DataId} {v : V}
    (hv : s.dataInventory.lookup d = some v)
    (hkeep : ∀ step ∈ steps, ∀ keep, keptData step = some keep → d ∈ keep) :
    (steps.foldl RunState.applyStep s).dataInventory.lookup d = some v := by
  induction steps generalizing s with
  | nil => exact hv
  | cons step steps ih =>
    rw [List.foldl_cons]
    exact ih _ (lookup_applyStep_of_kept s hv (hkeep step List.mem_cons_self))
      fun step' h' => hkeep step' (List.mem_cons_of_mem step h')

/-! ## Releases and later starts -/

/-- A release keeps everything that a task started after it declares. -/
def ReleaseSafe (tasks : TaskCollection) (before after : RunStep V) : Prop :=
  ∀ keep t d, before = .release keep → after = .event t .start → DeclaresData tasks t d → d ∈ keep

/-- A release occurs in a level only as its last step. -/
private theorem release_mem_steps {level : LevelTrace V} {keep : List DataId}
    (h : RunStep.release keep ∈ level.steps) : keep = usingData level.tasks := by
  unfold LevelTrace.steps at h
  rw [List.mem_append] at h
  rcases h with h | h
  · obtain ⟨e, _, heq⟩ := List.mem_map.mp h
    exact nomatch heq
  · split at h
    · rw [List.mem_singleton] at h
      exact RunStep.release.inj h
    · exact nomatch h

/-- A start in a level is that of a started task. -/
private theorem start_mem_steps {level : LevelTrace V} {t : TaskId}
    (h : RunStep.event t .start ∈ level.steps) : t ∈ level.started := by
  unfold LevelTrace.steps at h
  rw [List.mem_append] at h
  rcases h with h | h
  · obtain ⟨⟨t', e⟩, hmem, heq⟩ := List.mem_map.mp h
    simp only [RunStep.event.injEq] at heq
    obtain ⟨rfl, rfl⟩ := heq
    exact List.mem_filterMap.mpr ⟨(t', .start), hmem, rfl⟩
  · split at h
    · simp at h
    · exact nomatch h

/-- Within a level nothing is released that a later step uses. -/
private theorem steps_releaseSafe (level : LevelTrace V) :
    level.steps.Pairwise (ReleaseSafe tasks) := by
  unfold LevelTrace.steps
  rw [List.pairwise_append]
  -- Events are no releases; the one release of a level comes last.
  have hevent : ∀ e : TaskId × TaskEvent V, ∀ step,
      ReleaseSafe tasks (RunStep.event e.1 e.2) step := by
    intro e step keep t d hrelease
    exact nomatch hrelease
  refine ⟨?_, ?_, fun step hstep step' _ => ?_⟩
  · rw [List.pairwise_map]
    exact List.pairwise_of_forall fun e e' => hevent e _
  · split <;> simp
  · obtain ⟨e, _, rfl⟩ := List.mem_map.mp hstep
    exact hevent e step'

/-- A task that is still waiting keeps its declarations. -/
theorem Residual.declaresData {done : List TaskId} (h : Residual container orig done tasks)
    {t : TaskId} {d : DataId} (hexcl : isTaskExcessivelyFailed container t = false)
    (ht : t ∈ tasks) : DeclaresData tasks t d ↔ DeclaresData orig t d := by
  obtain ⟨info, hinfo⟩ := Option.isSome_iff_exists.mp (AList.lookup_isSome.mpr ht)
  have hlookup := h.lookup t hexcl
  by_cases hdone : t ∈ done
  · simp [hdone, hinfo] at hlookup
  · rw [if_neg hdone] at hlookup
    unfold DeclaresData
    rw [hlookup]
    cases orig.lookup t with
    | none => simp
    | some oinfo => simp [strip]

/-- The data that is in use is what some task declares. -/
theorem mem_usingData_iff {d : DataId} :
    d ∈ usingData tasks ↔ ∃ t, DeclaresData tasks t d := by
  unfold usingData DeclaresData
  simp only [List.mem_flatMap, AList.lookup_eq_some_iff, Sigma.exists]

/-- No release of the run drops data of a task that starts after it. The
    induction is on the levels: a task of a later level was among the remaining
    tasks of every earlier one. -/
theorem trace_releaseSafe (env : TaskEnv V) {rest : TaskCollection}
    {levels : List (TaskCollection × TaskCollection)}
    (h : SelectRun container tasks levels rest) {done : List TaskId}
    (hres : Residual container orig done tasks) (k n : Nat) :
    (((levels.take n).mapIdx fun i l => traceOf env (k + i) l).flatMap
      LevelTrace.steps).Pairwise (ReleaseSafe orig) := by
  induction h generalizing done k n with
  | stop _ => simp
  | @level tasks rest levels hsome hrest ih =>
    cases n with
    | zero => simp
    | succ n =>
      have hih := ih hres.select (k + 1) n
      simp only [Nat.add_assoc, Nat.add_comm 1] at hih
      simp only [List.take_succ_cons, List.mapIdx_cons, List.flatMap_cons, Nat.add_zero]
      rw [List.pairwise_append]
      -- Within the level, within the later ones, and from the level to a later one.
      refine ⟨steps_releaseSafe _, hih, ?_⟩
      intro step hstep step' hstep' keep t d hrel hstart hdecl
      subst hrel hstart
      rw [release_mem_steps hstep, mem_usingData_iff]
      -- The later task starts in a later level, hence is among the remaining tasks.
      obtain ⟨level, hlevel, hmem⟩ := List.mem_flatMap.mp hstep'
      have hstarted : t ∈ ((levels.take n).mapIdx fun i l => traceOf env (k + (i + 1)) l).flatMap
          LevelTrace.started := List.mem_flatMap.mpr ⟨level, hlevel, start_mem_steps hmem⟩
      have hperm := flatMap_started_perm env (k + 1) (levels.take n)
      simp only [Nat.add_assoc, Nat.add_comm 1] at hperm
      rw [hperm.mem_iff, layers_take] at hstarted
      have hlayer : t ∈ (layers levels).flatten := by
        obtain ⟨l, hl, htl⟩ := List.mem_flatten.mp hstarted
        exact List.mem_flatten.mpr ⟨l, List.mem_of_mem_take hl, htl⟩
      obtain ⟨htask, hexcl⟩ := hrest.mem_of_mem_layers hlayer
      exact ⟨t, (hres.select.declaresData hexcl htask).mpr hdecl⟩

/-- The same for the trace of a run. -/
private theorem trace_pairwise_releaseSafe (env : TaskEnv V) {rest : TaskCollection}
    {levels : List (TaskCollection × TaskCollection)}
    (h : SelectRun container tasks levels rest) {r : RunResult V}
    (hlevels : r.levels = (runLevels env levels).mapIdx (traceOf env)) :
    r.trace.Pairwise (ReleaseSafe tasks) := by
  have hsafe := trace_releaseSafe env h (Residual.start container tasks) 0
    (levels.findIdx (levelFailed env) + 1)
  simp only [Nat.zero_add] at hsafe
  rw [RunResult.trace, hlevels]
  exact hsafe

/-- The steps that may take data out: releases, and removals by tasks. -/
private theorem keptData_cases {step : RunStep V} {keep : List DataId}
    (h : keptData step = some keep) :
    step = .release keep ∨ ∃ t, step = .event t (.op (.removeRestData keep)) := by
  cases step with
  | release keep' =>
    simp only [keptData, Option.some.injEq] at h
    exact .inl (by rw [h])
  | event t e =>
    cases e with
    | start => exact nomatch h
    | updateFailureCount reset => exact nomatch h
    | op o =>
      cases o with
      | inputToData d v => exact nomatch h
      | removeRestData keep' =>
        simp only [keptData, Option.some.injEq] at h
        exact .inr ⟨t, by rw [h]⟩

/-! ## What a level leaves behind -/

/-- What the first levels of a run have started lies in the first layers. -/
private theorem mem_layers_of_started_take {env : TaskEnv V}
    {levels : List (TaskCollection × TaskCollection)} {r : RunResult V}
    (hlevels : r.levels = (runLevels env levels).mapIdx (traceOf env)) {n : Nat} {t : TaskId}
    (h : t ∈ (r.levels.take n).flatMap LevelTrace.started) :
    t ∈ ((layers levels).take n).flatten := by
  obtain ⟨level, hlevel, ht⟩ := List.mem_flatMap.mp h
  obtain ⟨j, hj, hget⟩ := List.mem_take_iff_getElem.mp hlevel
  have hjlt : j < r.levels.length := by omega
  have hjget : r.levels[j]? = some level := by rw [List.getElem?_eq_getElem hjlt, hget]
  obtain ⟨l, hl, rfl⟩ := getElem?_traces (hlevels ▸ hjget)
  rw [(started_traceOf env j l).mem_iff] at ht
  have htake : ((layers levels).take n)[j]? = some l.1.keys := by
    rw [List.getElem?_take_of_lt (by omega), layers_getElem?, hl, Option.map_some]
  exact List.mem_flatten.mpr ⟨_, List.mem_of_getElem? htake, ht⟩

/-- What is left after level `i` is the original collection less the levels so far. -/
theorem SelectRun.remaining_residual {rest : TaskCollection}
    {levels : List (TaskCollection × TaskCollection)}
    (h : SelectRun container tasks levels rest) {done : List TaskId}
    (hres : Residual container orig done tasks) {i : Nat}
    {level : TaskCollection × TaskCollection} (hi : levels[i]? = some level) :
    (∀ t ∈ level.2, isTaskExcessivelyFailed container t = false) ∧
      ∃ done', (∀ t, t ∈ done' ↔ t ∈ ((layers levels).take (i + 1)).flatten ∨ t ∈ done) ∧
        Residual container orig done' level.2 := by
  induction h generalizing done i with
  | stop _ => simp at hi
  | @level tasks rest levels hsome hrest ih =>
    cases i with
    | zero =>
      simp only [List.getElem?_cons_zero, Option.some.injEq] at hi
      subst hi
      refine ⟨fun t ht => (mem_remaining_iff.mp ht).1, _, fun t => ?_, hres.select⟩
      simp [layers]
    | succ i =>
      -- A later level is one of the remaining run, which starts with this level done.
      rw [List.getElem?_cons_succ] at hi
      obtain ⟨hexcl, done', hdone', hres'⟩ := ih hres.select hi
      refine ⟨hexcl, done', fun t => ?_, hres'⟩
      rw [hdone' t]
      simp only [layers, List.map_cons, List.take_succ_cons, List.flatten_cons, List.mem_append,
        or_assoc, or_left_comm]

/-- A level that ends with a release leaves only data that its remaining tasks declare. -/
private theorem declared_of_mem_after_steps (s : RunState V) {level : LevelTrace V}
    (hresult : level.executeResult = true) {d : DataId}
    (hd : d ∈ (level.steps.foldl RunState.applyStep s).dataInventory) :
    ∃ t, DeclaresData level.tasks t d := by
  rw [← AList.lookup_isSome, foldl_steps, hresult] at hd
  simp only [↓reduceIte, releaseNoUsedData, lookup_removeRestData] at hd
  rw [← mem_usingData_iff]
  by_contra hnot
  simp [hnot] at hd

/-- In every run, data that a task injects and no task removes itself is still
    there, with the injected value, when a later task that declares it starts;
    and after every level without a failed mandatory task the inventory holds
    only data that some task not yet started declares. -/
theorem executeTaskInner_keeps_data (env : TaskEnv V) (s : RunState V) (tasks : TaskCollection) :
    ∃ r : RunResult V, executeTaskInner env s tasks = some r ∧
      r.state = r.trace.foldl RunState.applyStep s ∧
      (∀ (pre mid post : List (RunStep V)) (t t' : TaskId) (d : DataId) (v : V),
        r.trace = pre ++ .event t (.op (.inputToData d v)) :: mid ++ .event t' .start :: post →
        d ∉ (pre.foldl RunState.applyStep s).dataInventory →
        (∀ t'' keep, .event t'' (.op (.removeRestData keep)) ∈ mid → d ∈ keep) →
        DeclaresData tasks t' d →
        ((pre ++ .event t (.op (.inputToData d v)) :: mid).foldl
          RunState.applyStep s).dataInventory.getPtr d = some v) ∧
      (∀ (i : Nat) (level : LevelTrace V), r.levels[i]? = some level →
        (∀ t ∈ level.started, ¬ MandatoryFailed env tasks t) →
        ∀ d ∈ (((r.levels.take (i + 1)).flatMap LevelTrace.steps).foldl
            RunState.applyStep s).dataInventory,
          ∃ t, DeclaresData tasks t d ∧ isTaskExcessivelyFailed s.container t = false ∧
            t ∉ (r.levels.take (i + 1)).flatMap LevelTrace.started) := by
  obtain ⟨levels, rest, h⟩ := exists_selectRun s.container tasks
  have hres := Residual.start s.container tasks
  obtain ⟨r, hr, -, hlevels, hstate⟩ := executeTaskInner_of_selectRun env s h
  refine ⟨r, hr, hstate, fun pre mid post t t' d v htrace habsent hkept hdecl => ?_,
    fun i level hi hok d hd => ?_⟩
  · -- The injection stores `v`, and every later step up to the start keeps it.
    rw [List.foldl_append, List.foldl_cons]
    apply lookup_foldl_of_kept
    · show ((pre.foldl RunState.applyStep s).dataInventory.emplace d v).lookup d = some v
      rw [AList.lookup_emplace, AList.lookup_eq_none.mpr habsent]
      simp
    · have hpair := trace_pairwise_releaseSafe env h hlevels
      rw [htrace, List.pairwise_append] at hpair
      intro step hstep keep hkeep
      have hstep' : step ∈ pre ++ .event t (.op (.inputToData d v)) :: mid :=
        List.mem_append_right _ (List.mem_cons_of_mem _ hstep)
      cases keptData_cases hkeep with
      | inl hrelease => exact hpair.2.2 _ hstep' _ List.mem_cons_self keep t' d hrelease rfl hdecl
      | inr hremove =>
        obtain ⟨t'', rfl⟩ := hremove
        exact hkept t'' keep hstep
  · -- The last step of the level is the release of what its remaining tasks declare.
    obtain ⟨l, hl, rfl⟩ := getElem?_traces (hlevels ▸ hi)
    have hresult : (traceOf env i l).executeResult = true := by
      have hfail := (h.levelFailed_iff env (List.mem_of_getElem? hl)).not.mpr fun ⟨t, ht, hm⟩ =>
        hok t ((started_traceOf env i l).mem_iff.mpr ht) hm
      simpa [levelFailed, traceOf] using hfail
    rw [List.take_add_one, hi, Option.toList_some, List.flatMap_append, List.foldl_append,
      List.flatMap_singleton] at hd
    obtain ⟨t, hdecl⟩ := declared_of_mem_after_steps _ hresult hd
    obtain ⟨hexcl, done, hdone, hres'⟩ := h.remaining_residual hres hl
    have ht : t ∈ l.2 := by
      obtain ⟨info, hinfo, _⟩ := hdecl
      exact AList.lookup_isSome.mp (by simp [show l.2.lookup t = some info from hinfo])
    refine ⟨t, (hres'.declaresData (hexcl t ht) ht).mp hdecl, hexcl t ht, fun hstarted => ?_⟩
    -- Whatever has started is done, and done tasks are not among the remaining ones.
    have hmem : t ∈ done := (hdone t).mpr (.inl (mem_layers_of_started_take hlevels hstarted))
    have hlookup := hres'.lookup t (hexcl t ht)
    rw [if_pos hmem] at hlookup
    exact (AList.lookup_eq_none.mp hlookup) ht

/-- A single mandatory task that declares no data. -/
def leakingTasks : TaskCollection :=
  ⟨[⟨10001, ⟨true, [], [], "leaking", 0, true⟩⟩], by decide⟩

/-- The task injects data `7` and fails, at first and on the retry. -/
def leakingEnv : TaskEnv Nat where
  behaviour _ := ⟨some ⟨[.inputToData 7 0], .dumpFail⟩, some ⟨[], .dumpFail⟩⟩
  picks _ := []

/-- A level with a failed mandatory task ends the run without a release: the
    inventory keeps data that no task declares. -/
theorem executeTaskInner_failed_level_keeps_undeclared :
    verifyTaskTopo leakingTasks leakingTasks = some true ∧
      ∃ (r : RunResult Nat) (level : LevelTrace Nat),
        executeTaskInner leakingEnv ⟨leakingTasks, ∅⟩ leakingTasks = some r ∧
        r.levels[0]? = some level ∧
        7 ∈ (((r.levels.take 1).flatMap LevelTrace.steps).foldl RunState.applyStep
          ⟨leakingTasks, ∅⟩).dataInventory ∧
        ∀ t, ¬ DeclaresData leakingTasks t 7 := by
  refine ⟨by decide, _, _, rfl, rfl, by decide, fun t hdecl => ?_⟩
  obtain ⟨info, hinfo, hd⟩ := hdecl
  rw [AList.lookup_eq_some_iff] at hinfo
  simp only [leakingTasks, List.mem_singleton, Sigma.mk.injEq, heq_eq_eq] at hinfo
  rw [hinfo.2] at hd
  exact nomatch hd

end HiDumper.Spec
