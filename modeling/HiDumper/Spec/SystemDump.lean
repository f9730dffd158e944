import Mathlib
import HiDumper.Native.DumpManager
import HiDumper.Spec.ExecuteTask
import HiDumper.Spec.TaskData

/-!
# What a sequence of StartDump calls runs

In the registry of the program only root tasks depend on tasks, and on leaves only. For such
a registry the verification of `ExecuteTask` comes down to a condition on the collected roots,
`Ready`: every root after the first is wanted only behind a wanted one, so that the wanted
roots are a prefix of the list, and nothing a wanted root waits for is missing. Between the
calls only failure counts change, and the configuration is the one of the first file that
could be read.

## Key results

- `verify_iff_ready`: what is verified, for a registry of roots and leaves
- `startDump_spec`: the step lemma, one call
- `startDumps_runs`: every call of every sequence of calls
-/

namespace HiDumper.Spec.SystemDump

open HiDumper.Native HiDumper.Spec Layering Relation

variable {V : Type} {container : TaskCollection} {config : TaskEnableConfig}
  {roots : List TaskId} {topo : TaskCollection}

/-! ## Registries of roots and leaves -/

/-- Only root tasks depend on tasks, and they depend on tasks that are no root tasks. -/
def RootsAndLeaves (container : TaskCollection) : Prop :=
  ∀ t d, DependsOn container t d → rootTaskStart < t ∧ d ≤ rootTaskStart

/-- `t` is the root itself or one of its enabled dependencies. -/
def BelongsTo (container : TaskCollection) (config : TaskEnableConfig) (root t : TaskId) : Prop :=
  t = root ∨ EnabledDependsOn container config root t

/-- A root that is enabled and registered. -/
def Wanted (container : TaskCollection) (config : TaskEnableConfig) (root : TaskId) : Prop :=
  config.isTaskEnabled root = true ∧ root ∈ container

/-- The condition on the roots. -/
structure Ready (container : TaskCollection) (config : TaskEnableConfig)
    (excluded : TaskId → Bool) (roots : List TaskId) : Prop where
  some : ∃ root ∈ roots, Wanted container config root
  order : ∀ d t, [d, t] <:+: roots → Wanted container config t → excluded t = false →
    Wanted container config d ∧ excluded d = false
  dependencies : ∀ root ∈ roots, Wanted container config root → excluded root = false →
    ∀ d, EnabledDependsOn container config root d → d ∈ container ∧ excluded d = false

/-- The wanted roots that are not excluded come first in the list. -/
private theorem wanted_isPrefix {p : TaskId → Bool}
    (hp : ∀ t, p t = true ↔ Wanted container config t ∧ isTaskExcessivelyFailed container t = false)
    (hready : Ready container config (isTaskExcessivelyFailed container) roots) :
    roots.filter p <+: roots := by
  refine filter_isPrefix_of_pairs fun d t hpair ht => ?_
  have hwanted := (hp t).mp ht
  exact (hp d).mpr (hready.order d t hpair hwanted.1 hwanted.2)

section RootsAndLeaves

variable (hflat : RootsAndLeaves container)

include hflat

/-- From a root one gets to its dependencies and no further. -/
private theorem reachable_iff {root t : TaskId} :
    Reachable container config root t ↔ BelongsTo container config root t := by
  refine ⟨fun hreach => ?_, fun hbelongs => ?_⟩
  · rcases ReflTransGen.cases_head hreach with heq | ⟨d, hd, hrest⟩
    · exact .inl heq.symm
    · -- A leaf has no dependencies of its own.
      rcases ReflTransGen.cases_head hrest with heq | ⟨e, he, _⟩
      · exact .inr (heq ▸ hd)
      · exact absurd (hflat d e he.1).1 (UInt32.not_lt.mpr (hflat root d hd.1).2)
  · rcases hbelongs with rfl | hd
    · exact ReflTransGen.refl
    · exact ReflTransGen.single hd

variable (hinv : TopoInv container config (fun r => r ∈ roots ∧ config.isTaskEnabled r = true)
    (fun t d => config.isTaskEnabled t = true ∧ [d, t] <:+: roots) topo)

include hinv

/-- The topology has the tasks that belong to an enabled root. -/
private theorem mem_topo_iff (t : TaskId) :
    t ∈ topo ↔ t ∈ container ∧ ∃ root ∈ roots, config.isTaskEnabled root = true ∧
      BelongsTo container config root t := by
  simp only [hinv.mem_iff t, reachable_iff hflat, and_assoc]

/-- A wanted root is part of the topology. -/
private theorem mem_topo_of_wanted {root : TaskId} (hroot : root ∈ roots)
    (hwanted : Wanted container config root) : root ∈ topo :=
  (mem_topo_iff hflat hinv root).mpr ⟨hwanted.2, root, hroot, hwanted.1, .inl rfl⟩

/-- Only a root of the list has dependencies in the topology, and it is wanted. -/
private theorem wanted_of_dependsOn {t d : TaskId} (ht : t ∈ topo)
    (hd : EnabledDependsOn container config t d) : t ∈ roots ∧ Wanted container config t := by
  obtain ⟨hmem, root, hroot, henabled, hbelongs⟩ := (mem_topo_iff hflat hinv t).mp ht
  rcases hbelongs with rfl | hleaf
  · exact ⟨hroot, henabled, hmem⟩
  · exact absurd (hflat t d hd.1).1 (UInt32.not_lt.mpr (hflat root t hleaf.1).2)

/-- The order of the roots closes no cycle: the wanted roots are ranked by their positions,
    above the leaves. -/
private theorem acyclic_of_ready (hroots : ∀ r ∈ roots, rootTaskStart < r)
    (hnodup : ∀ first, first <+: roots → (∀ t ∈ first, t ∈ container) → first.Nodup)
    (hready : Ready container config (isTaskExcessivelyFailed container) roots) :
    Acyclic (ActiveDependsOn container topo) := by
  classical
  let p : TaskId → Bool := fun t =>
    decide (Wanted container config t ∧ isTaskExcessivelyFailed container t = false)
  have hp : ∀ t, p t = true ↔
      Wanted container config t ∧ isTaskExcessivelyFailed container t = false := fun t =>
    decide_eq_true_iff
  have hfirst : (roots.filter p).Nodup :=
    hnodup _ (wanted_isPrefix hp hready) fun t ht =>
      ((hp t).mp (List.mem_filter.mp ht).2).1.2
  refine acyclic_of_rank
    (fun t => if t ≤ rootTaskStart then 0 else (roots.filter p).idxOf t + 1) fun t d htd => ?_
  obtain ⟨hexcl, hdep⟩ := htd
  obtain ⟨ht, hdep⟩ := hinv.dependsOn_iff.mp hdep
  rcases hdep with hleaf | ⟨henabled, hpair⟩
  · -- A leaf is below every root.
    obtain ⟨hroot, hle⟩ := hflat t d hleaf.1
    simp only [hle, UInt32.not_le.mpr hroot, ↓reduceIte]
    exact Nat.succ_pos _
  · have htroot : t ∈ roots := hpair.subset (List.mem_cons_of_mem d List.mem_cons_self)
    have hdroot : d ∈ roots := hpair.subset List.mem_cons_self
    have htwanted : Wanted container config t :=
      ⟨henabled, ((mem_topo_iff hflat hinv t).mp ht).1⟩
    have hdwanted := hready.order d t hpair htwanted hexcl
    have hfilter : [d, t] <:+: roots.filter p := by
      have hboth := hpair.filter p
      rwa [List.filter_cons_of_pos ((hp d).mpr hdwanted),
        List.filter_cons_of_pos ((hp t).mpr ⟨htwanted, hexcl⟩), List.filter_nil] at hboth
    simp only [UInt32.not_le.mpr (hroots t htroot), UInt32.not_le.mpr (hroots d hdroot),
      ↓reduceIte]
    exact Nat.succ_lt_succ (idxOf_lt_of_pair hfirst hfilter)

/-- What the verification comes down to. -/
theorem verify_iff_ready (hroots : ∀ r ∈ roots, rootTaskStart < r)
    (hnodup : ∀ first, first <+: roots → (∀ t ∈ first, t ∈ container) → first.Nodup) :
    verifyTaskTopo container topo = some true ↔
      Ready container config (isTaskExcessivelyFailed container) roots := by
  rw [verifyTaskTopo_iff]
  refine ⟨fun ⟨hne, hactive, _⟩ => ⟨?_, fun d t hpair ht hexcl => ?_,
    fun root hroot hwanted hexcl d hd => ?_⟩, fun hready => ⟨fun hempty => ?_,
    fun t d htd => ?_, acyclic_of_ready hflat hinv hroots hnodup hready⟩⟩
  · -- Some task is there, and with it the root it belongs to.
    obtain ⟨entry, hentry⟩ := List.exists_mem_of_ne_nil _ hne
    have hmem : entry.1 ∈ topo := AList.mem_keys.mpr (List.mem_map_of_mem hentry)
    obtain ⟨hregistered, root, hroot, henabled, hbelongs⟩ :=
      (mem_topo_iff hflat hinv entry.1).mp hmem
    rcases hbelongs with heq | hleaf
    · exact ⟨root, hroot, henabled, heq ▸ hregistered⟩
    · obtain ⟨info, hinfo, _⟩ := hleaf.1
      exact ⟨root, hroot, henabled, AList.lookup_isSome.mp (by simp [hinfo])⟩
  · -- A wanted root waits for the id before it, so that id must be there.
    have htopo : t ∈ topo :=
      mem_topo_of_wanted hflat hinv (hpair.subset (List.mem_cons_of_mem d List.mem_cons_self)) ht
    have hdep : DependsOn topo t d := hinv.dependsOn_iff.mpr ⟨htopo, .inr ⟨ht.1, hpair⟩⟩
    obtain ⟨hd, hdexcl⟩ := hactive t d ⟨hexcl, hdep⟩
    exact ⟨⟨enabled_of_mem_topo hinv hd, ((mem_topo_iff hflat hinv d).mp hd).1⟩, hdexcl⟩
  · have htopo := mem_topo_of_wanted hflat hinv hroot hwanted
    have hdep : DependsOn topo root d := hinv.dependsOn_iff.mpr ⟨htopo, .inl hd⟩
    obtain ⟨hmem, hdexcl⟩ := hactive root d ⟨hexcl, hdep⟩
    exact ⟨((mem_topo_iff hflat hinv d).mp hmem).1, hdexcl⟩
  · obtain ⟨root, hroot, hwanted⟩ := hready.some
    have hmem := AList.mem_keys.mp (mem_topo_of_wanted hflat hinv hroot hwanted)
    simp [AList.keys, hempty] at hmem
  · -- Conversely both kinds of edges lead to tasks of the topology.
    obtain ⟨hexcl, hdep⟩ := htd
    obtain ⟨ht, hdep⟩ := hinv.dependsOn_iff.mp hdep
    rcases hdep with hleaf | ⟨henabled, hpair⟩
    · obtain ⟨hroot, hwanted⟩ := wanted_of_dependsOn hflat hinv ht hleaf
      obtain ⟨hd, hdexcl⟩ := hready.dependencies t hroot hwanted hexcl d hleaf
      exact ⟨(mem_topo_iff hflat hinv d).mpr ⟨hd, t, hroot, hwanted.1, .inr hleaf⟩, hdexcl⟩
    · have hwanted : Wanted container config t :=
        ⟨henabled, ((mem_topo_iff hflat hinv t).mp ht).1⟩
      obtain ⟨hd, hdexcl⟩ := hready.order d t hpair hwanted hexcl
      exact ⟨mem_topo_of_wanted hflat hinv (hpair.subset List.mem_cons_self) hd, hdexcl⟩

end RootsAndLeaves

/-! ## One run -/

/-- What the levels of a run come to: no task starts twice; the run goes on to the end and
    returns `DUMP_OK`, or one of the mandatory tasks that it has started fails, then the level of
    that task is the last and it returns `DUMP_FAIL`. What is done to the inventory is what the
    started tasks do, and no release drops data that a task declares that starts later. -/
structure RunsLevels (env : TaskEnv V) (tasks : TaskCollection) (r : RunResult V) : Prop where
  once : (r.levels.flatMap LevelTrace.started).Nodup
  status : r.status = .dumpOk ↔
    ∀ t ∈ r.levels.flatMap LevelTrace.started, ¬ MandatoryFailed env tasks t
  failed : r.status ≠ .dumpOk → r.status = .dumpFail
  last : ∀ (i : Nat) (level : LevelTrace V) (t : TaskId), r.levels[i]? = some level →
    t ∈ level.started → MandatoryFailed env tasks t → i + 1 = r.levels.length
  ops : ∀ level ∈ r.levels, ∀ t o, (t, .op o) ∈ level.events → t ∈ level.started ∧
    ∃ info, o ∈ (executeSingleTask info (env.behaviour t)).ops
  kept : ∀ (i j : Nat) (level level' : LevelTrace V) (t : TaskId) (d : DataId), i < j →
    r.levels[i]? = some level → r.levels[j]? = some level' → t ∈ level'.started →
    DeclaresData tasks t d → d ∈ usingData level.tasks

/-- What a run of accepted roots is: it starts the wanted roots with their enabled
    dependencies, less the excluded tasks, each once, after what it depends on and a root
    after the one before it, all of them unless a mandatory one fails. -/
structure RunsRoots (env : TaskEnv V) (container : TaskCollection) (config : TaskEnableConfig)
    (excluded : TaskId → Bool) (roots : List TaskId) (r : RunResult V) : Prop
    extends RunsLevels env container r where
  started : ∀ t ∈ r.levels.flatMap LevelTrace.started, excluded t = false ∧ t ∈ container ∧
    ∃ root ∈ roots, config.isTaskEnabled root = true ∧ BelongsTo container config root t
  order : ∀ (i : Nat) (level : LevelTrace V) (t d : TaskId), r.levels[i]? = some level →
    t ∈ level.started → EnabledDependsOn container config t d ∨ [d, t] <:+: roots →
    ∃ (j : Nat) (level' : LevelTrace V), j < i ∧ r.levels[j]? = some level' ∧ d ∈ level'.started
  all : r.status = .dumpOk → ∀ root ∈ roots, Wanted container config root →
    ∀ t, BelongsTo container config root t → t ∈ container → excluded t = false →
      t ∈ r.levels.flatMap LevelTrace.started

/-- Only what is registered for the started tasks matters. -/
theorem RunsLevels.congr {env : TaskEnv V} {tasks tasks' : TaskCollection} {r : RunResult V}
    (h : RunsLevels env tasks r)
    (hfailed : ∀ t ∈ r.levels.flatMap LevelTrace.started,
      (MandatoryFailed env tasks t ↔ MandatoryFailed env tasks' t))
    (hdeclares : ∀ t ∈ r.levels.flatMap LevelTrace.started, ∀ d,
      DeclaresData tasks' t d → DeclaresData tasks t d) :
    RunsLevels env tasks' r := by
  have hstarted : ∀ {i : Nat} {level : LevelTrace V} {t : TaskId}, r.levels[i]? = some level →
      t ∈ level.started → t ∈ r.levels.flatMap LevelTrace.started := fun hi ht =>
    List.mem_flatMap.mpr ⟨_, List.mem_of_getElem? hi, ht⟩
  refine ⟨h.once, h.status.trans (forall₂_congr fun t ht => not_congr (hfailed t ht)), h.failed,
    fun i level t hi ht hfail => ?_, h.ops, fun i j level level' t d hij hi hj ht hd => ?_⟩
  · exact h.last i level t hi ht ((hfailed t (hstarted hi ht)).mpr hfail)
  · exact h.kept i j level level' t d hij hi hj ht (hdeclares t (hstarted hj ht) d hd)

/-- A task that starts later is among the remaining tasks of every earlier level. -/
theorem SelectRun.mem_remaining {container tasks rest : TaskCollection}
    {levels : List (TaskCollection × TaskCollection)}
    (h : SelectRun container tasks levels rest) {i j : Nat} (hij : i < j)
    {li lj : TaskCollection × TaskCollection} (hi : levels[i]? = some li)
    (hj : levels[j]? = some lj) {t : TaskId} (ht : t ∈ lj.1.keys) {d : DataId}
    (hd : DeclaresData tasks t d) : DeclaresData li.2 t d := by
  obtain ⟨_, done, hdone, hres⟩ := h.remaining_residual (Residual.start container tasks) hi
  have hlayered := h.layered (Residual.start container tasks)
  have hlayer : (layers levels)[j]? = some lj.1.keys := by
    rw [layers_getElem?, hj, Option.map_some]
  obtain ⟨htask, hexcl⟩ := h.mem_of_mem_layers
    (List.mem_flatten.mpr ⟨_, List.mem_of_getElem? hlayer, ht⟩)
  -- The layers have no task in common, so it is not one of those that are done.
  have hnot : t ∉ done := by
    rw [hdone t]
    rintro (hmem | hnil)
    · have hnodup := hlayered.nodup_flatten
      rw [← List.take_append_drop (i + 1) (layers levels), List.flatten_append,
        List.nodup_append] at hnodup
      refine hnodup.2.2 t hmem t (List.mem_flatten.mpr ⟨lj.1.keys, ?_, ht⟩) rfl
      rw [List.mem_iff_getElem?]
      exact ⟨j - (i + 1), by rw [List.getElem?_drop, Nat.add_sub_cancel' hij, hlayer]⟩
    · exact nomatch hnil
  have hlookup := hres.lookup t hexcl
  rw [if_neg hnot] at hlookup
  have hmem : t ∈ li.2 := by
    rw [← AList.lookup_isSome, hlookup, Option.isSome_map, AList.lookup_isSome]
    exact htask
  exact (hres.declaresData hexcl hmem).mpr hd

/-- The levels of a run over a topology. -/
private theorem executeTaskInner_levels (env : TaskEnv V) (s : RunState V) (topo : TaskCollection) :
    ∃ r : RunResult V, executeTaskInner env s topo = some r ∧ RunsLevels env topo r ∧
      r.state = r.trace.foldl RunState.applyStep s := by
  obtain ⟨levels, rest, h⟩ := exists_selectRun s.container topo
  obtain ⟨r, hr, hstatus, hlevels, hstate⟩ := executeTaskInner_of_selectRun env s h
  have hperm := mem_started_of_levels hlevels
  -- A level fails exactly when one of its mandatory tasks does.
  have hfailed : ∀ {i : Nat} {level : LevelTrace V} {t : TaskId}, r.levels[i]? = some level →
      t ∈ level.started → MandatoryFailed env topo t →
      ∃ l, levels[i]? = some l ∧ levelFailed env l = true := by
    intro i level t hi ht hmand
    obtain ⟨l, hl, rfl⟩ := getElem?_traces (hlevels ▸ hi)
    exact ⟨l, hl, (h.levelFailed_iff env (List.mem_of_getElem? hl)).mpr
      ⟨t, (started_traceOf env i l).mem_iff.mp ht, hmand⟩⟩
  refine ⟨r, hr, ⟨?_, ?_, fun hne => ?_, fun i level t hi ht hmand => ?_,
    fun level hlevel t o ho => ?_, fun i j level level' t d hij hi hj ht hd => ?_⟩, hstate⟩
  · rw [hperm.nodup_iff, runLevels, layers_take]
    exact ((h.layered (Residual.start _ _)).take _).nodup_flatten
  · by_cases hfail : ∃ l ∈ levels, levelFailed env l = true
    · -- The first failing level is run, and one of its mandatory tasks fails.
      have hlt := List.findIdx_lt_length_of_exists hfail
      have hlk := List.getElem?_eq_getElem hlt
      obtain ⟨t, ht, hmand⟩ := (h.levelFailed_iff env (List.mem_of_getElem? hlk)).mp
        (List.findIdx_getElem (w := hlt))
      have hrun : levels[levels.findIdx (levelFailed env)] ∈ runLevels env levels := by
        refine List.mem_of_getElem? (i := levels.findIdx (levelFailed env)) ?_
        rw [runLevels, List.getElem?_take_of_lt (by omega), hlk]
      have hstarted : t ∈ r.levels.flatMap LevelTrace.started := by
        rw [hperm.mem_iff]
        exact List.mem_flatten.mpr ⟨_, List.mem_map_of_mem hrun, ht⟩
      rw [hstatus, if_pos (List.any_eq_true.mpr hfail)]
      exact ⟨fun hok => absurd hok (by decide), fun hnone => absurd hmand (hnone t hstarted)⟩
    · rw [hstatus, if_neg (by simpa using hfail)]
      refine ⟨fun _ t ht hmand => hfail ?_, fun _ => rfl⟩
      obtain ⟨level, hlevel, htl⟩ := List.mem_flatMap.mp ht
      obtain ⟨i, hi⟩ := List.mem_iff_getElem?.mp hlevel
      obtain ⟨l, hl, hbad⟩ := hfailed hi htl hmand
      exact ⟨l, List.mem_of_getElem? hl, hbad⟩
  · rw [hstatus] at hne ⊢
    split at hne
    · rename_i hany
      rw [if_pos hany]
    · exact absurd rfl hne
  · -- The run ends with the first failing level.
    obtain ⟨l, hl, hbad⟩ := hfailed hi ht hmand
    have hlt := (List.getElem?_eq_some_iff.mp hi).1
    have hidx : levels.findIdx (levelFailed env) ≤ i := by
      by_contra hgt
      obtain ⟨hil, hget⟩ := List.getElem?_eq_some_iff.mp hl
      have hfine := List.not_of_lt_findIdx (not_le.mp hgt)
      rw [hget, hbad] at hfine
      exact Bool.noConfusion hfine
    rw [hlevels, List.length_mapIdx, runLevels, List.length_take] at hlt ⊢
    omega
  · obtain ⟨i, hi⟩ := List.mem_iff_getElem?.mp hlevel
    obtain ⟨l, hl, rfl⟩ := getElem?_traces (hlevels ▸ hi)
    obtain ⟨info, hinfo, hevent⟩ := mem_submitRunnableTasks ho
    refine ⟨(started_traceOf env i l).mem_iff.mpr (AList.mem_keys.mp
      (AList.lookup_isSome.mp (by simp [show l.1.lookup t = some info from hinfo]))), info, ?_⟩
    simpa [TaskEnv.taskEvents] using hevent
  · obtain ⟨li, hli, rfl⟩ := getElem?_traces (hlevels ▸ hi)
    obtain ⟨lj, hlj, rfl⟩ := getElem?_traces (hlevels ▸ hj)
    exact mem_usingData_iff.mpr ⟨t, SelectRun.mem_remaining h hij hli hlj
      ((started_traceOf env j lj).mem_iff.mp ht) hd⟩

private theorem sameRegistry_refl (container : TaskCollection) : SameRegistry container container :=
  fun _ => rfl

private theorem sameRegistry_symm {first second : TaskCollection} (h : SameRegistry first second) :
    SameRegistry second first := fun t => (h t).symm

private theorem sameRegistry_trans {first second third : TaskCollection}
    (h : SameRegistry first second) (h' : SameRegistry second third) :
    SameRegistry first third := fun t => (h t).trans (h' t)

/-- Counting a failure registers nothing. -/
private theorem sameRegistry_updateTaskFailureCount (container : TaskCollection) (taskId : TaskId)
    (reset : Bool) :
    SameRegistry container (updateTaskFailureCount container taskId reset) := by
  intro t
  unfold updateTaskFailureCount
  cases hinfo : container.lookup taskId with
  | none => rfl
  | some info =>
    by_cases ht : t = taskId
    · rw [ht, AList.lookup_insert, hinfo]
      rfl
    · rw [AList.lookup_insert_ne ht]

/-- A step of a run changes failure counts only. -/
private theorem sameRegistry_applyStep (s : RunState V) (step : RunStep V) :
    SameRegistry s.container (s.applyStep step).container := by
  cases step with
  | event taskId e =>
    cases e with
    | start => exact sameRegistry_refl _
    | op o => exact sameRegistry_refl _
    | updateFailureCount reset => exact sameRegistry_updateTaskFailureCount _ _ _
  | release keep => exact sameRegistry_refl _

private theorem sameRegistry_foldl (steps : List (RunStep V)) (s : RunState V) :
    SameRegistry s.container (steps.foldl RunState.applyStep s).container := by
  induction steps generalizing s with
  | nil => exact sameRegistry_refl _
  | cons step steps ih => exact sameRegistry_trans (sameRegistry_applyStep s step) (ih _)

/-- The topology keeps the declarations of its tasks. -/
private theorem declaresData_of_mem_topo {built : TaskId → Prop} {edges : TaskId → TaskId → Prop}
    (hinv : TopoInv container config built edges topo) {t : TaskId} {d : DataId} (ht : t ∈ topo)
    (hd : DeclaresData container t d) : DeclaresData topo t d := by
  obtain ⟨info, hinfo⟩ := Option.isSome_iff_exists.mp (AList.lookup_isSome.mpr ht)
  obtain ⟨registered, hreg, heq, -⟩ := hinv.entry t info hinfo
  obtain ⟨info', hinfo', hmem⟩ := hd
  obtain rfl : registered = info' := Option.some.inj (hreg.symm.trans hinfo')
  exact ⟨info, hinfo, by rwa [heq]⟩

/-- `ExecuteTask` on a registry of roots and leaves. -/
private theorem executeTask_runs (hflat : RootsAndLeaves container) {cache : TopoCache}
    (hcache : CacheOk container config cache) (hroots : ∀ r ∈ roots, rootTaskStart < r)
    (hnodup : ∀ first, first <+: roots → (∀ t ∈ first, t ∈ container) → first.Nodup)
    (env : TaskEnv V) (dataInventory : DataInventory V) :
    ∃ r cache', executeTask env config ⟨container, dataInventory⟩ cache roots =
        some (r, cache') ∧
      CacheOk container config cache' ∧ SameRegistry container r.state.container ∧
      (Ready container config (isTaskExcessivelyFailed container) roots →
        RunsRoots env container config (isTaskExcessivelyFailed container) roots r) ∧
      (¬ Ready container config (isTaskExcessivelyFailed container) roots →
        r = ⟨.dumpFail, [], ⟨container, dataInventory⟩⟩) := by
  -- The roots are built one after another; the invariant says which tasks the topology has.
  obtain ⟨topo, cache', hbuild, hcache', hinv⟩ :=
    buildRoots_spec hcache roots hroots none (TopoInv.empty container config)
  replace hinv : TopoInv container config (fun r => r ∈ roots ∧ config.isTaskEnabled r = true)
      (fun t d => config.isTaskEnabled t = true ∧ [d, t] <:+: roots) topo :=
    hinv.congr (fun r => by simp) (fun t d => by simp)
  have hverify := verify_iff_ready hflat hinv hroots hnodup
  have htotal : verifyTaskTopo container topo ≠ none := by
    obtain ⟨levels, rest, h⟩ := exists_selectRun container topo
    rw [verifyTaskTopo_eq h]
    exact Option.some_ne_none _
  unfold executeTask
  simp only [hbuild]
  cases haccepted : verifyTaskTopo container topo with
  -- The loop of the verification ends on every topology.
  | none => exact absurd haccepted htotal
  | some accepted =>
    rw [haccepted, Option.some.injEq] at hverify
    cases accepted with
    -- Not accepted, so not ready: nothing is started.
    | false =>
      refine ⟨_, cache', rfl, hcache', sameRegistry_refl _, fun hready => ?_, fun _ => rfl⟩
      exact nomatch hverify.mpr hready
    | true =>
      obtain ⟨r, hr, hrun, hstate⟩ := executeTaskInner_levels env ⟨container, dataInventory⟩ topo
      obtain ⟨r', hr', hstarted, hbefore, hall⟩ :=
        executeTaskInner_topo hinv env dataInventory haccepted
      obtain rfl : r = r' := Option.some.inj (hr.symm.trans hr')
      refine ⟨r, cache', by rw [hr]; rfl, hcache', ?_, fun _ => ?_, fun hnot =>
        absurd (hverify.mp rfl) hnot⟩
      · rw [hstate]
        exact sameRegistry_foldl r.trace ⟨container, dataInventory⟩
      -- The run is on the topology; what it says of a started task holds of the registry as well.
      have hmandatory : ∀ t ∈ r.levels.flatMap LevelTrace.started,
          (MandatoryFailed env topo t ↔ MandatoryFailed env container t) := fun t ht => by
        rw [hinv.mandatoryFailed_iff env]
        exact and_iff_right (hstarted t ht).1
      have hlevels := hrun.congr hmandatory fun t ht d hd =>
        declaresData_of_mem_topo hinv (hstarted t ht).1 hd
      refine ⟨hlevels, fun t ht => ?_, fun i level t d hi ht hd => ?_, fun hok root hroot
        hwanted t hbelongs ht hexcl => ?_⟩
      · obtain ⟨htopo, hexcl⟩ := hstarted t ht
        exact ⟨hexcl, (mem_topo_iff hflat hinv t).mp htopo⟩
      -- A root depends on the root before it only where it is enabled, which a started task is.
      · refine hbefore i level t d hi ht (hd.imp_right fun hpair => ⟨?_, hpair⟩)
        exact enabled_of_mem_topo hinv
          (hstarted t (List.mem_flatMap.mpr ⟨level, List.mem_of_getElem? hi, ht⟩)).1
      -- `DUMP_OK` rules out a mandatory failure, so every task of the topology was started.
      · rcases hall with ⟨u, hu, hfail⟩ | ⟨_, hall⟩
        · exact absurd hfail (hlevels.status.mp hok u hu)
        · exact hall t ((mem_topo_iff hflat hinv t).mpr ⟨ht, root, hroot, hwanted.1, hbelongs⟩)
            hexcl

/-! ## The registered tasks and the collected roots -/

/-- The registered tasks are writers, and leaves that these depend on. -/
theorem rootsAndLeaves_registeredTasks : RootsAndLeaves registeredTasks := by
  intro t d h
  obtain ⟨info, hinfo, hd⟩ := h
  have hall : registeredTasks.entries.all (fun entry => entry.2.taskDependency.all fun d =>
      decide (rootTaskStart < entry.1 ∧ d ≤ rootTaskStart)) = true := by decide
  have hentry := List.all_eq_true.mp hall _ (AList.lookup_eq_some_iff.mp hinfo)
  exact of_decide_eq_true (List.all_eq_true.mp hentry d hd)

/-- The root tasks of the strategies whose condition holds. -/
private theorem roots_of_collectRootTasks {opts : DumperOptions}
    (h : collectRootTasks opts = some roots) :
    roots = strategyConfigs.flatMap fun strategy =>
      if strategy.condition opts then strategy.collectRootTasks opts else [] := by
  have hfilter : ∀ strategies : List StrategyConfig,
      (strategies.filter fun strategy => strategy.condition opts).flatMap
          (fun strategy => strategy.collectRootTasks opts) =
        strategies.flatMap fun strategy =>
          if strategy.condition opts then strategy.collectRootTasks opts else [] := by
    intro strategies
    induction strategies with
    | nil => rfl
    | cons strategy strategies ih =>
      cases hcondition : strategy.condition opts <;> simp [hcondition, ih]
  rw [← hfilter]
  unfold collectRootTasks createStrategies at h
  split at h
  · exact nomatch h
  · exact (Option.some.inj h).symm

/-- What the four strategies that collect anything can come to. -/
def systemRootLists : List (List TaskId) :=
  [[], [10001], [10002], [10003, 10004, 10005, 10006], [10002, 10003, 10004, 10005, 10006]]

def cpuRootLists : List (List TaskId) := [[], [10005]]

def storageRootLists : List (List TaskId) := [[], [10008], [10007]]

def systemAbilityRootLists : List (List TaskId) := [[], [10010], [10009]]

/-- The roots for the system information are one of a few lists. -/
private theorem systemInfoRootTasks_mem (opts : DumperOptions) :
    systemInfoRootTasks opts ∈ systemRootLists := by
  unfold systemInfoRootTasks addTaskIfNeeded
  split
  · decide
  · split <;> split <;> decide

/-- The roots are put together from four lists. -/
private theorem exists_of_collectRootTasks {opts : DumperOptions}
    (h : collectRootTasks opts = some roots) :
    ∃ system ∈ systemRootLists, ∃ cpu ∈ cpuRootLists, ∃ storage ∈ storageRootLists,
      ∃ ability ∈ systemAbilityRootLists, roots = system ++ cpu ++ storage ++ ability := by
  have hroots := roots_of_collectRootTasks h
  simp only [strategyConfigs, List.flatMap_cons, List.flatMap_nil, ite_self, List.nil_append,
    List.append_nil, ← List.append_assoc] at hroots
  refine ⟨_, ?_, _, ?_, _, ?_, _, ?_, hroots⟩
  · split
    · exact systemInfoRootTasks_mem opts
    · decide
  · unfold cpuRootTasks
    split <;> (try split) <;> decide
  · unfold storageRootTasks
    split <;> (try split) <;> decide
  · unfold systemAbilityRootTasks
    split <;> (try split) <;> decide

/-- All collected ids are root tasks, and up to the first one that is not registered none
    comes twice. -/
private theorem collected_roots {opts : DumperOptions} (h : collectRootTasks opts = some roots) :
    (∀ r ∈ roots, rootTaskStart < r) ∧
      (roots.takeWhile fun t => decide (t ∈ registeredTasks.keys)).Nodup := by
  obtain ⟨system, hsystem, cpu, hcpu, storage, hstorage, ability, hability, rfl⟩ :=
    exists_of_collectRootTasks h
  -- the bound on the ids is a test on the list: over all ids it would not be computed
  have hall : ∀ system ∈ systemRootLists, ∀ cpu ∈ cpuRootLists, ∀ storage ∈ storageRootLists,
      ∀ ability ∈ systemAbilityRootLists,
      (system ++ cpu ++ storage ++ ability).all (fun r => decide (rootTaskStart < r)) = true ∧
      ((system ++ cpu ++ storage ++ ability).takeWhile fun t =>
        decide (t ∈ registeredTasks.keys)).Nodup := by
    decide +kernel
  obtain ⟨hroot, hnodup⟩ := hall system hsystem cpu hcpu storage hstorage ability hability
  exact ⟨fun r hr => of_decide_eq_true (List.all_eq_true.mp hroot r hr), hnodup⟩

/-- So the registered roots at the front of the list are distinct. -/
private theorem nodup_of_isPrefix {opts : DumperOptions} (h : collectRootTasks opts = some roots)
    {first : List TaskId} (hfirst : first <+: roots) (hmem : ∀ t ∈ first, t ∈ registeredTasks) :
    first.Nodup := by
  obtain ⟨rest, rfl⟩ := hfirst
  have hnodup := (collected_roots h).2
  rw [List.takeWhile_append_of_pos fun t ht => decide_eq_true (AList.mem_keys.mp (hmem t ht))]
    at hnodup
  exact hnodup.of_append_left

/-! ## Registries that differ in failure counts -/

/-- One registry has the same tasks in all its states. -/
private theorem sameRegistry_mem {first second : TaskCollection} (h : SameRegistry first second)
    (t : TaskId) : t ∈ first ↔ t ∈ second := by
  have heq := congrArg Option.isSome (h t)
  simp only [Option.isSome_map] at heq
  rw [← AList.lookup_isSome, ← AList.lookup_isSome, heq]

private theorem sameRegistry_rootsAndLeaves {first second : TaskCollection}
    (h : SameRegistry first second) (hflat : RootsAndLeaves first) : RootsAndLeaves second :=
  fun t d hd => hflat t d (h.dependsOn.mpr hd)

private theorem sameRegistry_enabledDependsOn {first second : TaskCollection}
    (h : SameRegistry first second) :
    EnabledDependsOn first config = EnabledDependsOn second config := by
  funext t d
  simp only [EnabledDependsOn, h.dependsOn]

private theorem sameRegistry_wanted {first second : TaskCollection}
    (h : SameRegistry first second) :
    Wanted first config = Wanted second config := by
  funext t
  simp only [Wanted, sameRegistry_mem h]

/-- The status of a task depends on its creator only. -/
private theorem sameRegistry_mandatoryFailed {first second : TaskCollection}
    (h : SameRegistry first second) (env : TaskEnv V) {t : TaskId}
    (hfail : MandatoryFailed env first t) : MandatoryFailed env second t := by
  obtain ⟨info, hinfo, hmandatory, hstatus⟩ := hfail
  have heq := h t
  rw [hinfo, Option.map_some] at heq
  obtain ⟨info', hinfo', hclear⟩ := Option.map_eq_some_iff.mp heq.symm
  simp only [clearCount, RegTaskInfo.mk.injEq, true_and] at hclear
  obtain ⟨hcreator, _, _, _, hmandatory'⟩ := hclear
  refine ⟨info', hinfo', hmandatory'.trans hmandatory, ?_⟩
  unfold TaskEnv.dumpStatus executeSingleTask createTask at hstatus ⊢
  rwa [hcreator]

/-- Whether roots are ready depends on what is registered only. -/
theorem Ready.congr {first second : TaskCollection} (h : SameRegistry first second)
    {excluded : TaskId → Bool} (hready : Ready first config excluded roots) :
    Ready second config excluded roots := by
  obtain ⟨hsome, horder, hdependencies⟩ := hready
  rw [sameRegistry_wanted h] at hsome horder hdependencies
  rw [sameRegistry_enabledDependsOn h] at hdependencies
  simp only [sameRegistry_mem h] at hdependencies
  exact ⟨hsome, horder, hdependencies⟩

private theorem sameRegistry_declaresData {first second : TaskCollection}
    (h : SameRegistry first second) {t : TaskId} {d : DataId} (hd : DeclaresData first t d) :
    DeclaresData second t d := by
  obtain ⟨info, hinfo, hmem⟩ := hd
  have heq := h t
  rw [hinfo, Option.map_some] at heq
  obtain ⟨info', hinfo', hclear⟩ := Option.map_eq_some_iff.mp heq.symm
  simp only [clearCount, RegTaskInfo.mk.injEq, true_and] at hclear
  exact ⟨info', hinfo', by rwa [hclear.2.1]⟩

theorem RunsRoots.congr {first second : TaskCollection} (h : SameRegistry first second)
    {env : TaskEnv V} {excluded : TaskId → Bool} {r : RunResult V}
    (hruns : RunsRoots env first config excluded roots r) :
    RunsRoots env second config excluded roots r := by
  obtain ⟨hlevels, hstarted, horder, hall⟩ := hruns
  replace hlevels := hlevels.congr
    (fun t _ => ⟨sameRegistry_mandatoryFailed h env,
      sameRegistry_mandatoryFailed (sameRegistry_symm h) env⟩)
    (fun t _ d hd => sameRegistry_declaresData (sameRegistry_symm h) hd)
  simp only [BelongsTo, sameRegistry_enabledDependsOn h, sameRegistry_mem h,
    sameRegistry_wanted h] at hstarted horder hall
  exact ⟨hlevels, hstarted, horder, hall⟩

/-! ## Sequences of calls -/

/-- The configuration of the first call that gets as far as the file and can read it. -/
def firstConfig (calls : List (StartDumpCall V)) : TaskEnableConfig :=
  match calls.findSome? fun call => call.parsed.bind fun _ => parseJsonContent ∅ call.file with
  | none => ⟨∅, false⟩
  | some taskEnableMap => ⟨taskEnableMap, true⟩

/-- The call has options, a configuration and roots that can run. -/
def Accepted (config : TaskEnableConfig) (excluded : TaskId → Bool) (call : StartDumpCall V)
    (roots : List TaskId) : Prop :=
  ∃ opts, call.parsed = some opts ∧ config.configLoaded = true ∧
    collectRootTasks opts = some roots ∧ Ready registeredTasks config excluded roots

/-- What a call comes to with that configuration and those excluded tasks. -/
def Dumps (config : TaskEnableConfig) (s : DumpSingletons) (call : StartDumpCall V)
    (r : RunResult V) : Prop :=
  (∀ roots, Accepted config (isTaskExcessivelyFailed s.container) call roots →
    RunsRoots call.env registeredTasks config (isTaskExcessivelyFailed s.container) roots r) ∧
  ((¬ ∃ roots, Accepted config (isTaskExcessivelyFailed s.container) call roots) →
    r = ⟨.dumpFail, [], ⟨s.container, ∅⟩⟩)

/-- What holds between the calls. -/
structure SingletonsInv (calls : List (StartDumpCall V)) (s : DumpSingletons) : Prop where
  config : s.config = firstConfig calls
  registry : SameRegistry registeredTasks s.container
  cache : CacheOk registeredTasks s.config s.cache
  /-- Nothing is cached under a configuration that is not there yet. -/
  unloaded : s.config.configLoaded = false → s.cache = .empty

/-- The singletons of a new process. -/
theorem init_inv : SingletonsInv ([] : List (StartDumpCall V)) .init where
  config := rfl
  registry := sameRegistry_refl _
  cache := cacheOk_empty
  unloaded _ := rfl

/-- The configuration after one more call. -/
private theorem firstConfig_concat (calls : List (StartDumpCall V)) (call : StartDumpCall V) :
    firstConfig (calls ++ [call]) =
      match call.parsed with
      | none => firstConfig calls
      | some _ => ((firstConfig calls).loadFromConfig call.file).2 := by
  unfold firstConfig
  rw [List.findSome?_append]
  cases hfirst : calls.findSome? fun call =>
      call.parsed.bind fun _ => parseJsonContent ∅ call.file with
  | some taskEnableMap =>
    cases call.parsed <;> rfl
  | none =>
    -- No configuration yet: this call may be the one that reads it.
    cases hparsed : call.parsed with
    | none => simp [hparsed]
    | some opts =>
      cases hfile : parseJsonContent ∅ call.file <;>
        simp [hparsed, hfile, TaskEnableConfig.loadFromConfig]

/-- `LoadFromConfig` succeeds exactly when there is a configuration afterwards. -/
private theorem loadFromConfig_eq (config : TaskEnableConfig) (file : Option CJson) :
    ((config.loadFromConfig file).1 = .dumpOk ↔
      (config.loadFromConfig file).2.configLoaded = true) ∧
    (config.configLoaded = true → (config.loadFromConfig file).2 = config) ∧
    ((config.loadFromConfig file).2.configLoaded = false →
      (config.loadFromConfig file).2 = config) := by
  unfold TaskEnableConfig.loadFromConfig
  cases hloaded : config.configLoaded with
  | true => simp [hloaded]
  | false => cases parseJsonContent config.taskEnableMap file <;> simp [hloaded]

/-- Step lemma: a call on the singletons that earlier calls have left. -/
theorem startDump_spec {calls : List (StartDumpCall V)} {s : DumpSingletons}
    (h : SingletonsInv calls s) (call : StartDumpCall V) :
    ∃ r s', s.startDump call = some (r, s') ∧ SingletonsInv (calls ++ [call]) s' ∧
      Dumps (firstConfig (calls ++ [call])) s call r := by
  have hconfig := firstConfig_concat calls call
  -- A call that is not accepted leaves all but the configuration.
  have hfailed : ∀ config, config = firstConfig (calls ++ [call]) →
      CacheOk registeredTasks config s.cache → (config.configLoaded = false → s.cache = .empty) →
      (¬ ∃ roots, Accepted config (isTaskExcessivelyFailed s.container) call roots) →
      SingletonsInv (calls ++ [call]) { s with config } ∧
        Dumps (firstConfig (calls ++ [call])) s call ⟨.dumpFail, [], ⟨s.container, ∅⟩⟩ := by
    rintro config rfl hcache hunloaded hnone
    refine ⟨⟨rfl, h.registry, hcache, hunloaded⟩, fun roots hroots => ?_, fun _ => rfl⟩
    exact absurd ⟨roots, hroots⟩ hnone
  unfold DumpSingletons.startDump
  cases hparsed : call.parsed with
  | none =>
    rw [hparsed] at hconfig
    have hnone : ¬ ∃ roots, Accepted s.config (isTaskExcessivelyFailed s.container) call roots := by
      rintro ⟨roots, opts, hopts, -⟩
      exact nomatch hparsed.symm.trans hopts
    obtain ⟨hinv, hdumps⟩ := hfailed s.config (h.config.trans hconfig.symm) h.cache h.unloaded hnone
    exact ⟨_, s, rfl, hinv, hdumps⟩
  | some opts =>
    rw [hparsed] at hconfig
    simp only
    obtain ⟨hstatus, hkept, hsame⟩ := loadFromConfig_eq s.config call.file
    rw [← h.config] at hconfig
    generalize s.config.loadFromConfig call.file = loaded at hstatus hkept hsame hconfig ⊢
    obtain ⟨status, config⟩ := loaded
    simp only at hstatus hkept hsame hconfig ⊢
    -- What is cached was built under this configuration, or there is nothing.
    have hcache : CacheOk registeredTasks config s.cache := by
      cases hloaded : s.config.configLoaded with
      | true => exact hkept hloaded ▸ h.cache
      | false => exact h.unloaded hloaded ▸ cacheOk_empty
    have hunloaded : config.configLoaded = false → s.cache = .empty := fun hloaded =>
      h.unloaded (hsame hloaded ▸ hloaded)
    by_cases hok : status = .dumpOk
    · have hloaded := hstatus.mp hok
      simp only [hok, ne_eq, not_true_eq_false, ↓reduceIte]
      cases hroots : collectRootTasks opts with
      | none =>
        have hnone : ¬ ∃ roots,
            Accepted config (isTaskExcessivelyFailed s.container) call roots := by
          rintro ⟨roots, opts', hopts, -, hsome, -⟩
          obtain rfl : opts = opts' := Option.some.inj (hparsed.symm.trans hopts)
          exact nomatch hroots.symm.trans hsome
        obtain ⟨hinv, hdumps⟩ := hfailed config hconfig.symm hcache hunloaded hnone
        exact ⟨_, _, rfl, hinv, hdumps⟩
      | some roots =>
        obtain ⟨r, cache', hrun, hcache', hreg, hready, hnot⟩ := executeTask_runs
          (sameRegistry_rootsAndLeaves h.registry rootsAndLeaves_registeredTasks)
          (hcache.congr h.registry) (collected_roots hroots).1
          (fun first hfirst hmem => nodup_of_isPrefix hroots hfirst fun t ht =>
            (sameRegistry_mem h.registry t).mpr (hmem t ht)) call.env ∅
        -- `ExecuteTask` fails with `DUMP_FAIL` only, so the status is passed on.
        have hpassed : ∀ s' : DumpSingletons, (if ¬ r.status = .dumpOk then
            ((⟨.dumpFail, r.levels, r.state⟩ : RunResult V), s') else (r, s')) = (r, s') := by
          intro s'
          have hfail : r.status ≠ .dumpOk → r.status = .dumpFail := by
            by_cases hr : Ready s.container config (isTaskExcessivelyFailed s.container) roots
            · exact (hready hr).failed
            · rw [hnot hr]
              exact fun _ => rfl
          split
          · rename_i hne
            rw [← hfail hne]
          · rfl
        simp only [hrun, Option.map_some, hpassed]
        refine ⟨r, _, rfl, ⟨hconfig.symm, ?_, ?_, fun hfalse => ?_⟩, ?_⟩
        · exact sameRegistry_trans h.registry hreg
        · exact hcache'.congr (sameRegistry_symm h.registry)
        · exact nomatch hloaded.symm.trans hfalse
        rw [hconfig]
        refine ⟨fun roots' haccepted => ?_, fun hnone => hnot fun hr => hnone ⟨roots, opts, hparsed,
          hloaded, hroots, hr.congr (sameRegistry_symm h.registry)⟩⟩
        obtain ⟨opts', hopts, -, hroots', hr⟩ := haccepted
        obtain rfl : opts = opts' := Option.some.inj (hparsed.symm.trans hopts)
        obtain rfl : roots = roots' := Option.some.inj (hroots.symm.trans hroots')
        exact (hready (hr.congr h.registry)).congr (sameRegistry_symm h.registry)
    · have hnone : ¬ ∃ roots,
          Accepted config (isTaskExcessivelyFailed s.container) call roots := by
        rintro ⟨roots, opts', -, hloaded, -⟩
        exact hok (hstatus.mpr hloaded)
      obtain ⟨hinv, hdumps⟩ := hfailed config hconfig.symm hcache hunloaded hnone
      simp only [ne_eq, hok, not_false_eq_true, ↓reduceIte]
      exact ⟨_, _, rfl, hinv, hdumps⟩

/-- Run lemma: the invariant after any further calls. -/
theorem startDumps_inv {before : List (StartDumpCall V)} {s : DumpSingletons}
    (h : SingletonsInv before s) (calls : List (StartDumpCall V)) :
    ∃ results s', s.startDumps calls = some (results, s') ∧ SingletonsInv (before ++ calls) s' := by
  induction calls generalizing before s with
  | nil => exact ⟨[], s, rfl, by rwa [List.append_nil]⟩
  | cons call calls ih =>
    obtain ⟨r, s₁, hstep, hinv₁, -⟩ := startDump_spec h call
    obtain ⟨results, s₂, hrest, hinv₂⟩ := ih hinv₁
    refine ⟨r :: results, s₂, ?_, by rwa [List.append_assoc, List.singleton_append] at hinv₂⟩
    simp only [DumpSingletons.startDumps, hstep, Option.bind_some, hrest, Option.map_some]

/-- A file that disables `IoTopInfoTask`. -/
def withoutIotop : CJson :=
  .object [("task_configs",
    .object [("DUMP_IOTOP_INFO", .object [("task_id", .number 11), ("enabled", .bool false)])])]

/-- A dump of the storage state, and one of the whole system, for which three of the tasks
    that `KernelMemInfoWriter` depends on are missing. -/
example :
    (DumpSingletons.init.startDumps
        [⟨some { isDumpStorage := true }, some withoutIotop, succeedingEnv⟩,
          ⟨some { isDumpSystem := true }, none, succeedingEnv⟩]).map
      (fun dumps => dumps.1.map fun r =>
        (r.status, r.levels.map fun level => level.started.length)) =
    some [(.dumpOk, [3, 1]), (.dumpFail, [])] := by
  decide +kernel

end HiDumper.Spec.SystemDump
