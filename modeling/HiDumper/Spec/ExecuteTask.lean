import HiDumper.Spec.TaskExecution
import HiDumper.Spec.TaskTopo

/-!
# ExecuteTask over a list of roots

`ExecuteTask` joins the closures of the enabled roots and makes each root depend
on the id before it in the list. `TopoInv` says what the joined topology is: its
tasks, and the dependencies of each as a set. Together with `verifyTaskTopo_iff`
this decides, from the registry and the list alone, whether a run happens.

The two main theorems say exactly when it does. Excluding a task erases it from
the topology but not from the dependencies of the others, and the ordering edge
of a root is added whether or not the id before it is part of the topology; in
both cases the verification finds a dependency that is never met.

## Key results

- `executeTask_spec`: the topology that is verified and run
- `executeTask_with_excluded_iff`: runs with excessively failed tasks
- `executeTask_with_disabled_iff`: runs with disabled roots
-/

namespace HiDumper.Spec

open HiDumper.Native Layering Relation

variable {V : Type} {container : TaskCollection} {config : TaskEnableConfig}

/-! ## The joined topology -/

/-- What the topology holds once the roots in `built` and the ordering edges in
    `edges` have been added. -/
structure TopoInv (container : TaskCollection) (config : TaskEnableConfig)
    (built : TaskId → Prop) (edges : TaskId → TaskId → Prop) (topo : TaskCollection) : Prop where
  mem_iff : ∀ t, t ∈ topo ↔ t ∈ container ∧ ∃ root, built root ∧ Reachable container config root t
  /-- An entry is the registered one but for its dependencies and failure count. -/
  entry : ∀ t info, topo.lookup t = some info → ∃ registered,
    container.lookup t = some registered ∧
    info = { registered with
      taskDependency := info.taskDependency
      failureCount := info.failureCount } ∧
    ∀ d, d ∈ info.taskDependency ↔
      (d ∈ registered.taskDependency ∧ config.isTaskEnabled d = true) ∨ edges t d
  edges_built : ∀ t d, edges t d → built t

/-- The invariant depends on which roots are built and which edges there are, not on how they are
    described. -/
theorem TopoInv.congr {built built' : TaskId → Prop} {edges edges' : TaskId → TaskId → Prop}
    {topo : TaskCollection} (h : TopoInv container config built edges topo)
    (hbuilt : ∀ r, built r ↔ built' r) (hedges : ∀ t d, edges t d ↔ edges' t d) :
    TopoInv container config built' edges' topo := by
  have hb : built = built' := funext fun r => propext (hbuilt r)
  have he : edges = edges' := funext fun t => funext fun d => propext (hedges t d)
  rw [← hb, ← he]
  exact h

/-- Before the first root nothing is built. -/
theorem TopoInv.empty (container : TaskCollection) (config : TaskEnableConfig) :
    TopoInv container config (fun _ => False) (fun _ _ => False) ∅ where
  mem_iff t := by simp
  entry t info h := by simp at h
  edges_built _ _ h := h

/-- An entry of a closure is the registered one less its disabled dependencies. -/
theorem IsClosure.entry {root t : TaskId} {closure : TaskCollection} {info : RegTaskInfo}
    (h : IsClosure container config root closure) (hinfo : closure.lookup t = some info) :
    Reachable container config root t ∧ ∃ registered, container.lookup t = some registered ∧
      info = { registered with
        taskDependency := info.taskDependency
        failureCount := info.failureCount } ∧
      info.taskDependency = registered.taskDependency.filter config.isTaskEnabled := by
  -- A task outside the closure has no entry in it.
  have hreach : Reachable container config root t := by
    by_contra hnot
    rw [h.not_reachable t hnot] at hinfo
    exact nomatch hinfo
  have heq := h.reachable t hreach
  rw [hinfo] at heq
  cases hlookup : container.lookup t with
  | none =>
    rw [hlookup] at heq
    exact nomatch heq
  | some registered =>
    rw [hlookup] at heq
    simp only [Option.map_some, Option.some.injEq, clearCount, enabledInfo,
      RegTaskInfo.mk.injEq] at heq
    obtain ⟨hcreator, hdata, hdep, hname, _, hmand⟩ := heq
    refine ⟨hreach, registered, rfl, ?_, hdep⟩
    rw [← hcreator, ← hdata, ← hname, ← hmand]

/-- The closure of a root has the registered tasks that can be reached from it. -/
theorem IsClosure.mem_iff {root t : TaskId} {closure : TaskCollection}
    (h : IsClosure container config root closure) :
    t ∈ closure ↔ t ∈ container ∧ Reachable container config root t := by
  rw [← AList.lookup_isSome, ← AList.lookup_isSome]
  by_cases hreach : Reachable container config root t
  · have heq := congrArg Option.isSome (h.reachable t hreach)
    simp only [Option.isSome_map] at heq
    simp [heq, hreach]
  · simp [h.not_reachable t hreach, hreach]

/-- Step lemma: joining the closure of one more root. -/
theorem TopoInv.join {built : TaskId → Prop} {edges : TaskId → TaskId → Prop}
    {topo topo' : TaskCollection} {root : TaskId} (h : TopoInv container config built edges topo)
    (hjoin : JoinsClosure container config root topo topo') :
    TopoInv container config (fun r => built r ∨ r = root) edges topo' := by
  obtain ⟨closure, hclosure, hlookup⟩ := hjoin
  refine ⟨fun t => ?_, fun t info hinfo => ?_, fun t d hd => .inl (h.edges_built t d hd)⟩
  · -- A task is in the joined topology if it was there or is in the new closure.
    have hor : t ∈ topo' ↔ t ∈ topo ∨ t ∈ closure := by
      rw [← AList.lookup_isSome, hlookup t, Option.isSome_or, Bool.or_eq_true,
        AList.lookup_isSome, AList.lookup_isSome]
    rw [hor, h.mem_iff t, hclosure.mem_iff, ← and_or_left]
    simp only [or_and_right, exists_or, exists_eq_left]
  · rw [hlookup t] at hinfo
    cases htopo : topo.lookup t with
    | some old =>
      -- `emplace` does not overwrite: what is there keeps its entry and its edges.
      rw [htopo, Option.some_or, Option.some.injEq] at hinfo
      subst hinfo
      exact h.entry t old htopo
    | none =>
      rw [htopo, Option.none_or] at hinfo
      obtain ⟨_, registered, hreg, heq, hdep⟩ := hclosure.entry hinfo
      refine ⟨registered, hreg, heq, fun d => ?_⟩
      -- A task that was not there is none of the roots built so far, so it has no edge yet.
      have hnoedge : ¬ edges t d := by
        intro hedge
        have hmem : t ∈ topo := (h.mem_iff t).mpr ⟨AList.lookup_isSome.mp (by simp [hreg]), t,
          h.edges_built t d hedge, ReflTransGen.refl⟩
        exact AList.lookup_eq_none.mp htopo hmem
      rw [hdep, List.mem_filter]
      simp [hnoedge]

/-- Step lemma: adding the ordering edge of a root that is built. -/
theorem TopoInv.insertDependency {built : TaskId → Prop} {edges : TaskId → TaskId → Prop}
    {topo : TaskCollection} {root : TaskId} (previous : TaskId)
    (h : TopoInv container config built edges topo) (hroot : built root) :
    TopoInv container config built (fun t d => edges t d ∨ (t = root ∧ d = previous))
      (insertDependency topo root previous) := by
  unfold Native.insertDependency
  have hedges : ∀ t d, edges t d ∨ (t = root ∧ d = previous) → built t := by
    intro t d hd
    rcases hd with hd | hd
    · exact h.edges_built t d hd
    · exact hd.1 ▸ hroot
  cases hlookup : topo.lookup root with
  | none =>
    -- The root is not registered, so there is no entry to add the edge to.
    refine ⟨h.mem_iff, fun t info hinfo => ?_, hedges⟩
    have hne : t ≠ root := by
      intro heq
      rw [heq, hlookup] at hinfo
      exact nomatch hinfo
    simpa [hne] using h.entry t info hinfo
  | some old =>
    -- Only the entry of the root changes, and only in its dependencies.
    have hmem : root ∈ topo := AList.lookup_isSome.mp (by simp [hlookup])
    refine ⟨fun t => ?_, fun t info hinfo => ?_, hedges⟩
    · rw [AList.mem_insert, ← h.mem_iff t]
      exact or_iff_right_of_imp fun heq => heq ▸ hmem
    · by_cases hne : t = root
      · subst hne
        rw [AList.lookup_insert, Option.some.injEq] at hinfo
        subst hinfo
        obtain ⟨registered, hreg, heq, hdep⟩ := h.entry t old hlookup
        refine ⟨registered, hreg, ?_, fun d => ?_⟩
        · rw [heq]
        · simp only [List.mem_insert_iff, hdep d]
          tauto
      · rw [AList.lookup_insert_ne hne] at hinfo
        simpa [hne] using h.entry t info hinfo

/-- The loop over the roots, from any point of the list. -/
theorem buildRoots_spec {cache : TopoCache} (hcache : CacheOk container config cache)
    (roots : List TaskId) (hroots : ∀ r ∈ roots, rootTaskStart < r) (previous : Option TaskId)
    {built : TaskId → Prop} {edges : TaskId → TaskId → Prop} {topo : TaskCollection}
    (h : TopoInv container config built edges topo) :
    ∃ topo' cache',
      buildRoots container config previous roots topo cache = some (.built topo' cache') ∧
      CacheOk container config cache' ∧
      TopoInv container config (fun r => built r ∨ (r ∈ roots ∧ config.isTaskEnabled r = true))
        (fun t d => edges t d ∨
          (config.isTaskEnabled t = true ∧ [d, t] <:+: previous.toList ++ roots)) topo' := by
  -- Induction on the rest of the list; `previous` is the id before it, enabled or not.
  induction roots generalizing previous built edges topo cache with
  | nil =>
    refine ⟨topo, cache, rfl, hcache, ?_⟩
    have hnoedge : ∀ t d : TaskId, ¬ [d, t] <:+: previous.toList ++ [] := by
      intro t d hpair
      have hlen := hpair.length_le
      cases previous <;> simp at hlen
    exact h.congr (fun r => by simp)
      (fun t d => ⟨.inl, fun hd => hd.resolve_right fun hpair => hnoedge t d hpair.2⟩)
  | cons root roots ih =>
    have hroots' : ∀ r ∈ roots, rootTaskStart < r := fun r hr =>
      hroots r (List.mem_cons_of_mem root hr)
    have hroot : ¬ root ≤ rootTaskStart := by
      have := hroots root List.mem_cons_self
      rwa [UInt32.not_le]
    -- The pairs of the list from `previous` on: the first one, and those after it.
    have hpairs : ∀ t d : TaskId, [d, t] <:+: previous.toList ++ root :: roots ↔
        (previous = some d ∧ t = root) ∨ [d, t] <:+: root :: roots := by
      intro t d
      cases previous with
      | none => simp
      | some p =>
        rw [Option.toList_some, List.singleton_append, List.infix_cons_iff]
        simp [List.cons_prefix_cons, eq_comm]
    unfold buildRoots
    rw [if_neg hroot]
    cases henabled : config.isTaskEnabled root with
    | false =>
      -- A disabled root is skipped, but the next one is still ordered after it.
      simp only [Bool.not_false, ↓reduceIte]
      obtain ⟨topo', cache', hbuild, hcache', hinv⟩ := ih hcache hroots' (some root) h
      refine ⟨topo', cache', hbuild, hcache', hinv.congr (fun r => ?_) (fun t d => ?_)⟩
      · rw [List.mem_cons]
        by_cases hr : r = root
        · simp [hr, henabled]
        · simp [hr]
      · rw [hpairs]
        by_cases ht : t = root
        · simp [ht, henabled]
        · simp [ht]
    | true =>
      -- The closure is joined first; the ordering edge goes into what was joined.
      obtain ⟨topo₁, cache₁, hbuild₁, hjoin, hcache₁⟩ := buildTaskTopo_spec hcache root topo
      simp only [Bool.not_true, Bool.false_eq_true, ↓reduceIte, hbuild₁]
      have hinv₁ := h.join hjoin
      have hinv₂ : TopoInv container config (fun r => built r ∨ r = root)
          (fun t d => edges t d ∨ (t = root ∧ previous = some d))
          (orderAfter topo₁ root previous) := by
        cases previous with
        | none => exact hinv₁.congr (fun _ => Iff.rfl) (fun t d => by simp)
        | some dependency =>
          have hinserted := hinv₁.insertDependency dependency (Or.inr rfl)
          exact hinserted.congr (fun _ => Iff.rfl) (fun t d => by simp [eq_comm])
      obtain ⟨topo', cache', hbuild, hcache', hinv⟩ := ih hcache₁ hroots' (some root) hinv₂
      refine ⟨topo', cache', hbuild, hcache', hinv.congr (fun r => ?_) (fun t d => ?_)⟩
      · rw [List.mem_cons]
        by_cases hr : r = root
        · simp [hr, henabled]
        · simp [hr]
      · rw [hpairs]
        by_cases ht : t = root
        · simp [ht, henabled, or_assoc]
        · simp [ht]

/-- The topology `ExecuteTask` verifies and, if accepted, runs. It depends on the
    registry and the list only, not on what the tasks do. -/
theorem executeTask_spec {cache : TopoCache} (hcache : CacheOk container config cache)
    (roots : List TaskId) (hroots : ∀ r ∈ roots, rootTaskStart < r) :
    ∃ topo cache', TopoInv container config (fun r => r ∈ roots ∧ config.isTaskEnabled r = true)
        (fun t d => config.isTaskEnabled t = true ∧ [d, t] <:+: roots) topo ∧
      ∀ (env : TaskEnv V) (dataInventory : DataInventory V),
        executeTask env config ⟨container, dataInventory⟩ cache roots =
          if verifyTaskTopo container topo = some true then
            (executeTaskInner env ⟨container, dataInventory⟩ topo).map fun r => (r, cache')
          else some (⟨.dumpFail, [], ⟨container, dataInventory⟩⟩, cache') := by
  obtain ⟨topo, cache', hbuild, -, hinv⟩ :=
    buildRoots_spec hcache roots hroots none (TopoInv.empty container config)
  refine ⟨topo, cache', hinv.congr (fun r => by simp) (fun t d => by simp), fun env inventory => ?_⟩
  unfold executeTask
  simp only [hbuild]
  obtain ⟨levels, rest, h⟩ := exists_selectRun container topo
  rw [verifyTaskTopo_eq h]
  by_cases hok : topo.entries ≠ [] ∧ rest.entries = [] <;> simp [hok]

/-! ## From the topology back to the registry -/

section Registry

variable {built : TaskId → Prop} {edges : TaskId → TaskId → Prop} {topo : TaskCollection}

/-- In the topology a task depends on what the configuration enables and on the root before it. -/
theorem TopoInv.dependsOn_iff (h : TopoInv container config built edges topo) {t d : TaskId} :
    DependsOn topo t d ↔ t ∈ topo ∧ (EnabledDependsOn container config t d ∨ edges t d) := by
  refine ⟨fun hdep => ?_, fun hdep => ?_⟩
  · obtain ⟨info, hinfo, hmem⟩ := hdep
    obtain ⟨registered, hreg, _, hiff⟩ := h.entry t info hinfo
    refine ⟨AList.lookup_isSome.mp (by simp [hinfo]), ?_⟩
    rcases (hiff d).mp hmem with hd | hd
    · exact .inl ⟨⟨registered, hreg, hd.1⟩, hd.2⟩
    · exact .inr hd
  · obtain ⟨hmem, hd⟩ := hdep
    obtain ⟨info, hinfo⟩ := Option.isSome_iff_exists.mp (AList.lookup_isSome.mpr hmem)
    obtain ⟨registered, hreg, _, hiff⟩ := h.entry t info hinfo
    refine ⟨info, hinfo, (hiff d).mpr ?_⟩
    rcases hd with ⟨⟨registered', hreg', hd⟩, henabled⟩ | hd
    · rw [hreg, Option.some.injEq] at hreg'
      exact .inl ⟨hreg' ▸ hd, henabled⟩
    · exact .inr hd

/-- The topology keeps which tasks are mandatory. -/
theorem TopoInv.mandatoryFailed_iff (h : TopoInv container config built edges topo)
    (env : TaskEnv V) {t : TaskId} :
    MandatoryFailed env topo t ↔ t ∈ topo ∧ MandatoryFailed env container t := by
  -- The status of a task depends on its creator only, which the topology keeps.
  have hsame : ∀ info, topo.lookup t = some info → ∃ registered,
      container.lookup t = some registered ∧ info.mandatory = registered.mandatory ∧
        env.dumpStatus t info = env.dumpStatus t registered := by
    intro info hinfo
    obtain ⟨registered, hreg, heq, _⟩ := h.entry t info hinfo
    refine ⟨registered, hreg, ?_, ?_⟩
    · rw [heq]
    · rw [heq]
      rfl
  refine ⟨fun hfail => ?_, fun hfail => ?_⟩
  · obtain ⟨info, hinfo, hmand, hstatus⟩ := hfail
    obtain ⟨registered, hreg, hm, hs⟩ := hsame info hinfo
    exact ⟨AList.lookup_isSome.mp (by simp [hinfo]), registered, hreg, hm ▸ hmand, hs ▸ hstatus⟩
  · obtain ⟨hmem, registered, hreg, hmand, hstatus⟩ := hfail
    obtain ⟨info, hinfo⟩ := Option.isSome_iff_exists.mp (AList.lookup_isSome.mpr hmem)
    obtain ⟨registered', hreg', hm, hs⟩ := hsame info hinfo
    rw [hreg, Option.some.injEq] at hreg'
    subst hreg'
    exact ⟨info, hinfo, hm ▸ hmand, hs ▸ hstatus⟩

/-- Whatever an enabled root reaches is enabled. -/
theorem Reachable.enabled {root t : TaskId} (h : Reachable container config root t)
    (hroot : config.isTaskEnabled root = true) : config.isTaskEnabled t = true := by
  rcases ReflTransGen.cases_tail h with heq | ⟨_, _, hdep⟩
  · exact heq ▸ hroot
  · exact hdep.2

end Registry

/-! ## Excessively failed tasks -/

/-- The run leaves the excessively failed tasks out and nothing else: every other
    task reachable from the roots starts, after those of its dependencies that
    are not left out. Only a failed mandatory task stops it earlier. -/
structure RunsWithoutExcluded (env : TaskEnv V) (container : TaskCollection)
    (config : TaskEnableConfig) (roots : List TaskId) (r : RunResult V) : Prop where
  excluded : ∀ t ∈ r.levels.flatMap LevelTrace.started, isTaskExcessivelyFailed container t = false
  order : ∀ (i : Nat) (level : LevelTrace V) (t d : TaskId), r.levels[i]? = some level →
    t ∈ level.started → EnabledDependsOn container config t d →
    isTaskExcessivelyFailed container d = false →
    ∃ (j : Nat) (level' : LevelTrace V), j < i ∧ r.levels[j]? = some level' ∧ d ∈ level'.started
  all : (∃ t ∈ r.levels.flatMap LevelTrace.started, MandatoryFailed env container t) ∨
    ((roots ≠ [] → r.status = .dumpOk) ∧
      ∀ root ∈ roots, ∀ t, Reachable container config root t →
        isTaskExcessivelyFailed container t = false → t ∈ r.levels.flatMap LevelTrace.started)

/-- The dependencies that count in a run: those of the reachable tasks that are
    not excluded, and the order of the roots in the list. -/
def RunDependsOn (container : TaskCollection) (config : TaskEnableConfig) (roots : List TaskId)
    (t d : TaskId) : Prop :=
  isTaskExcessivelyFailed container t = false ∧
    (∃ root ∈ roots, Reachable container config root t) ∧
    (EnabledDependsOn container config t d ∨ [d, t] <:+: roots)

section Accepted

variable {roots : List TaskId} {topo : TaskCollection}
  (hinv : TopoInv container config (fun r => r ∈ roots ∧ config.isTaskEnabled r = true)
    (fun t d => config.isTaskEnabled t = true ∧ [d, t] <:+: roots) topo)

include hinv

/-- With registered roots and a closed registry the topology holds everything reachable. -/
private theorem mem_topo_iff_reachable
    (hroots : ∀ r ∈ roots, r ∈ container ∧ config.isTaskEnabled r = true)
    (hclosed : ∀ t d, DependsOn container t d → d ∈ container) (t : TaskId) :
    t ∈ topo ↔ ∃ root ∈ roots, Reachable container config root t := by
  rw [hinv.mem_iff t]
  refine ⟨fun ⟨_, root, hroot, hreach⟩ => ⟨root, hroot.1, hreach⟩, fun ⟨root, hroot, hreach⟩ => ?_⟩
  refine ⟨?_, root, ⟨hroot, (hroots root hroot).2⟩, hreach⟩
  rcases ReflTransGen.cases_tail hreach with heq | ⟨_, _, hdep⟩
  · exact heq ▸ (hroots root hroot).1
  · exact hclosed _ _ hdep.1

/-- What the verification of the topology comes down to for enabled, registered
    roots. What a task waits for is always there, so only its exclusion and the
    cycles matter. -/
private theorem verify_topo_iff_of_enabled
    (hroots : ∀ r ∈ roots, r ∈ container ∧ config.isTaskEnabled r = true)
    (hclosed : ∀ t d, DependsOn container t d → d ∈ container) :
    verifyTaskTopo container topo = some true ↔ roots ≠ [] ∧
      (∀ t d, RunDependsOn container config roots t d →
        isTaskExcessivelyFailed container d = false) ∧
      Acyclic (RunDependsOn container config roots) := by
  have hmem := mem_topo_iff_reachable hinv hroots hclosed
  -- The active edges of the topology are the dependencies that count in a run.
  have hdep : ActiveDependsOn container topo = RunDependsOn container config roots := by
    funext t d
    apply propext
    unfold ActiveDependsOn RunDependsOn
    rw [hinv.dependsOn_iff, hmem t]
    refine and_congr_right fun _ => and_congr_right fun _ => or_congr_right ?_
    refine and_iff_right_of_imp fun hpair => ?_
    exact (hroots t (hpair.subset (List.mem_cons_of_mem d List.mem_cons_self))).2
  -- A dependency of a reachable task is reachable, and the id before a root is a root.
  have hwaits : ∀ t d, RunDependsOn container config roots t d → d ∈ topo := by
    intro t d htd
    obtain ⟨_, ⟨root, hroot, hreach⟩, hd⟩ := htd
    rw [hmem d]
    rcases hd with hd | hd
    · exact ⟨root, hroot, hreach.tail hd⟩
    · exact ⟨d, hd.subset List.mem_cons_self, ReflTransGen.refl⟩
  have hne : topo.entries ≠ [] ↔ roots ≠ [] := by
    refine ⟨fun htopo hnil => ?_, fun hroots' hempty => ?_⟩
    · obtain ⟨entry, hentry⟩ := List.exists_mem_of_ne_nil _ htopo
      obtain ⟨root, hroot, _⟩ := (hmem entry.1).mp (List.mem_map_of_mem hentry)
      exact absurd (hnil ▸ hroot) List.not_mem_nil
    · obtain ⟨root, hroot⟩ := List.exists_mem_of_ne_nil _ hroots'
      have htopo := AList.mem_keys.mp ((hmem root).mpr ⟨root, hroot, ReflTransGen.refl⟩)
      simp [AList.keys, hempty] at htopo
  rw [verifyTaskTopo_iff, hdep, hne]
  refine and_congr_right fun _ => and_congr_left fun _ => ?_
  exact ⟨fun h t d htd => (h t d htd).2, fun h t d htd => ⟨hwaits t d htd, h t d htd⟩⟩

/-- An accepted topology is run as the registry says. -/
theorem executeTaskInner_topo (env : TaskEnv V) (dataInventory : DataInventory V)
    (haccepted : verifyTaskTopo container topo = some true) :
    ∃ r : RunResult V, executeTaskInner env ⟨container, dataInventory⟩ topo = some r ∧
      (∀ t ∈ r.levels.flatMap LevelTrace.started,
        t ∈ topo ∧ isTaskExcessivelyFailed container t = false) ∧
      (∀ (i : Nat) (level : LevelTrace V) (t d : TaskId), r.levels[i]? = some level →
        t ∈ level.started → EnabledDependsOn container config t d ∨
          (config.isTaskEnabled t = true ∧ [d, t] <:+: roots) →
        ∃ (j : Nat) (level' : LevelTrace V),
          j < i ∧ r.levels[j]? = some level' ∧ d ∈ level'.started) ∧
      ((∃ t ∈ r.levels.flatMap LevelTrace.started, MandatoryFailed env container t) ∨
        (r.status = .dumpOk ∧ ∀ t ∈ topo, isTaskExcessivelyFailed container t = false →
          t ∈ r.levels.flatMap LevelTrace.started)) := by
  obtain ⟨r, hr, hstarted, hbefore, hall⟩ :=
    executeTaskInner_of_accepted env ⟨container, dataInventory⟩ haccepted
  refine ⟨r, hr, hstarted, fun i level t d hi ht hd => ?_, ?_⟩
  · have htopo : t ∈ topo :=
      (hstarted t (List.mem_flatMap.mpr ⟨level, List.mem_of_getElem? hi, ht⟩)).1
    exact hbefore i level t d hi ht (hinv.dependsOn_iff.mpr ⟨htopo, hd⟩)
  · rcases hall with ⟨t, ht, hfail⟩ | hall
    · exact .inl ⟨t, ht, ((hinv.mandatoryFailed_iff env).mp hfail).2⟩
    · exact .inr hall

end Accepted

/-- With enabled, registered roots and a registry closed under dependencies,
    `ExecuteTask` leaves out exactly the excessively failed tasks if and only if
    no other reachable task depends on one of them, no other root directly
    follows one of them in the list, and the order of the roots contradicts no
    dependency. -/
theorem executeTask_with_excluded_iff (env : TaskEnv V) (container : TaskCollection)
    (config : TaskEnableConfig) (dataInventory : DataInventory V) (roots : List TaskId)
    (calls : List BuildCall) (cache : TopoCache)
    (hroots : ∀ r ∈ roots, rootTaskStart < r ∧ r ∈ container ∧ config.isTaskEnabled r = true)
    (hclosed : ∀ t d, DependsOn container t d → d ∈ container)
    (hcalls : ∀ call ∈ calls, SameRegistry container call.container)
    (hcache : cacheAfter config .empty calls = some cache) :
    (∃ r cache', executeTask env config ⟨container, dataInventory⟩ cache roots = some (r, cache') ∧
      RunsWithoutExcluded env container config roots r) ↔
    (∀ root ∈ roots, ∀ t d, Reachable container config root t →
      isTaskExcessivelyFailed container t = false → EnabledDependsOn container config t d →
      isTaskExcessivelyFailed container d = false) ∧
    (∀ d t, [d, t] <:+: roots → isTaskExcessivelyFailed container t = false →
      isTaskExcessivelyFailed container d = false) ∧
    Acyclic (RunDependsOn container config roots) := by
  have hok := cacheOk_of_cacheAfter hcalls hcache
  obtain ⟨topo, cache', hinv, hexec⟩ :=
    executeTask_spec (V := V) hok roots fun r hr => (hroots r hr).1
  have hroots' : ∀ r ∈ roots, r ∈ container ∧ config.isTaskEnabled r = true := fun r hr =>
    (hroots r hr).2
  -- The topology has the tasks that are reachable, and its verification comes down to the
  -- three conditions.
  have hmem := mem_topo_iff_reachable hinv hroots' hclosed
  have hverify := verify_topo_iff_of_enabled hinv hroots' hclosed
  refine ⟨fun ⟨r, c, hr, hruns⟩ => ?_, fun ⟨hdeps, horder, hacyclic⟩ => ?_⟩
  · by_cases hnil : roots = []
    · -- Nothing is reachable without roots, so there is nothing to check.
      subst hnil
      refine ⟨fun root hroot => absurd hroot List.not_mem_nil, fun d t hpair => ?_, fun x hx => ?_⟩
      · exact absurd (hpair.subset List.mem_cons_self) List.not_mem_nil
      · obtain ⟨_, ⟨_, ⟨root, hroot, _⟩, _⟩, _⟩ := TransGen.head'_iff.mp hx
        exact absurd hroot List.not_mem_nil
    · -- A refused topology starts nothing and fails, which is no such run.
      have haccepted : verifyTaskTopo container topo = some true := by
        by_contra hnot
        rw [hexec env dataInventory, if_neg hnot, Option.some.injEq] at hr
        obtain ⟨rfl, rfl⟩ := Prod.mk.inj hr
        rcases hruns.all with ⟨t, ht, _⟩ | ⟨hstatus, _⟩
        · exact absurd ht List.not_mem_nil
        · exact nomatch hstatus hnil
      obtain ⟨_, hactive, hacyclic⟩ := hverify.mp haccepted
      refine ⟨fun root hroot t d hreach hexcl hd => ?_, fun d t hpair hexcl => ?_, hacyclic⟩
      · exact hactive t d ⟨hexcl, ⟨root, hroot, hreach⟩, .inl hd⟩
      · have ht : t ∈ roots := hpair.subset (List.mem_cons_of_mem d List.mem_cons_self)
        exact hactive t d ⟨hexcl, ⟨t, ht, ReflTransGen.refl⟩, .inr hpair⟩
  · by_cases hnil : roots = []
    · -- The empty topology is refused, and there is nothing to run.
      have hrefused : ¬ verifyTaskTopo container topo = some true := fun haccepted =>
        (hverify.mp haccepted).1 hnil
      refine ⟨_, cache', by rw [hexec env dataInventory, if_neg hrefused], ?_⟩
      refine ⟨fun t ht => absurd ht List.not_mem_nil, fun i level t d hi => ?_,
        .inr ⟨fun hne => absurd hnil hne, fun root hroot => ?_⟩⟩
      · exact nomatch hi
      · exact absurd (hnil ▸ hroot) List.not_mem_nil
    · have haccepted : verifyTaskTopo container topo = some true := by
        refine hverify.mpr ⟨hnil, fun t d htd => ?_, hacyclic⟩
        obtain ⟨hexcl, ⟨root, hroot, hreach⟩, hd⟩ := htd
        rcases hd with hd | hd
        · exact hdeps root hroot t d hreach hexcl hd
        · exact horder d t hd hexcl
      obtain ⟨r, hr, hstarted, hbefore, hall⟩ :=
        executeTaskInner_topo hinv env dataInventory haccepted
      refine ⟨r, cache', by rw [hexec env dataInventory, if_pos haccepted, hr]; rfl,
        fun t ht => (hstarted t ht).2,
        fun i level t d hi ht hd _ => hbefore i level t d hi ht (.inl hd), ?_⟩
      -- A run that does not stop at a failure has started every task of the topology.
      rcases hall with hfail | ⟨hstatus, hall⟩
      · exact .inl hfail
      · exact .inr ⟨fun _ => hstatus, fun root hroot t hreach hexcl =>
          hall t ((hmem t).mpr ⟨root, hroot, hreach⟩) hexcl⟩

/-- Nothing is configured: every task is enabled. -/
def defaultConfig : TaskEnableConfig := ⟨∅, false⟩

/-- Every task succeeds at once. -/
def succeedingEnv : TaskEnv Nat := ⟨fun _ => ⟨some ⟨[], .dumpOk⟩, none⟩, fun _ => []⟩

/-- The last root has failed ten times, and nothing depends on it. -/
def excludedLastTasks : TaskCollection :=
  ⟨[⟨10001, ⟨true, [], [1], "root", 0, false⟩⟩, ⟨1, ⟨true, [], [], "leaf", 0, true⟩⟩,
    ⟨10002, ⟨true, [], [], "last", 10, false⟩⟩], by decide⟩

private theorem dependsOn_excludedLastTasks {t d : TaskId} (h : DependsOn excludedLastTasks t d) :
    t = 10001 ∧ d = 1 := by
  obtain ⟨info, hinfo, hd⟩ := h
  rw [AList.lookup_eq_some_iff] at hinfo
  simp only [excludedLastTasks, List.mem_cons, Sigma.mk.injEq, heq_eq_eq, List.not_mem_nil,
    or_false] at hinfo
  rcases hinfo with ⟨rfl, rfl⟩ | ⟨rfl, rfl⟩ | ⟨rfl, rfl⟩
  · exact ⟨rfl, List.mem_singleton.mp hd⟩
  · exact absurd hd List.not_mem_nil
  · exact absurd hd List.not_mem_nil

/-- The last root is left out, and the run does not fail for it. -/
theorem executeTask_with_excluded_iff_lastRoot :
    ∃ r cache', executeTask succeedingEnv defaultConfig ⟨excludedLastTasks, ∅⟩ .empty
        [10001, 10002] = some (r, cache') ∧
      RunsWithoutExcluded succeedingEnv excludedLastTasks defaultConfig [10001, 10002] r := by
  have hroots : ∀ r ∈ ([10001, 10002] : List TaskId), rootTaskStart < r ∧ r ∈ excludedLastTasks ∧
      defaultConfig.isTaskEnabled r = true := by
    intro r hr
    simp only [List.mem_cons, List.not_mem_nil, or_false] at hr
    rcases hr with rfl | rfl <;> decide
  have hclosed : ∀ t d, DependsOn excludedLastTasks t d → d ∈ excludedLastTasks := by
    intro t d h
    rw [(dependsOn_excludedLastTasks h).2]
    decide
  have hpairs : ∀ d t, [d, t] <:+: ([10001, 10002] : List TaskId) → d = 10001 ∧ t = 10002 := by
    intro d t hpair
    have heq := hpair.eq_of_length rfl
    exact ⟨(List.cons.inj heq).1, (List.cons.inj (List.cons.inj heq).2).1⟩
  -- The leaf comes first, then the root that depends on it, then the one behind that.
  refine (executeTask_with_excluded_iff succeedingEnv excludedLastTasks defaultConfig ∅
    [10001, 10002] [] .empty hroots hclosed (fun _ hc => nomatch hc) rfl).mpr
    ⟨fun _ _ t d _ _ hd => ?_, fun d t hpair _ => ?_,
      acyclic_of_rank (fun t => if t = 10002 then 2 else if t = 10001 then 1 else 0) ?_⟩
  · rw [(dependsOn_excludedLastTasks hd.1).2]
    decide
  · rw [(hpairs d t hpair).1]
    decide
  · intro t d htd
    rcases htd.2.2 with hdep | hpair
    · obtain ⟨rfl, rfl⟩ := dependsOn_excludedLastTasks hdep.1
      decide
    · obtain ⟨rfl, rfl⟩ := hpairs d t hpair
      decide

/-- The root depends on a task that has failed ten times. -/
def excludedTasks : TaskCollection :=
  ⟨[⟨10001, ⟨true, [], [1], "root", 0, false⟩⟩, ⟨1, ⟨true, [], [], "leaf", 10, false⟩⟩], by decide⟩

/-- The root is not excluded, but nothing runs: `ExecuteTask` returns `DUMP_FAIL`. -/
theorem executeTask_fails_on_excluded :
    (∀ t d, DependsOn excludedTasks t d → t = 10001 ∧ d = 1) ∧
    isTaskExcessivelyFailed excludedTasks 10001 = false ∧
    isTaskExcessivelyFailed excludedTasks 1 = true ∧
    (executeTask succeedingEnv defaultConfig ⟨excludedTasks, ∅⟩ .empty [10001]).map
      (fun result => (result.1.status, result.1.levels.length)) = some (.dumpFail, 0) ∧
    ¬ ∃ r cache', executeTask succeedingEnv defaultConfig ⟨excludedTasks, ∅⟩ .empty [10001] =
        some (r, cache') ∧
      RunsWithoutExcluded succeedingEnv excludedTasks defaultConfig [10001] r := by
  refine ⟨fun t d h => ?_, by decide, by decide, by decide, fun ⟨r, cache', hr, hruns⟩ => ?_⟩
  · obtain ⟨info, hinfo, hd⟩ := h
    rw [AList.lookup_eq_some_iff] at hinfo
    simp only [excludedTasks, List.mem_cons, Sigma.mk.injEq, heq_eq_eq, List.not_mem_nil,
      or_false] at hinfo
    rcases hinfo with ⟨rfl, rfl⟩ | ⟨rfl, rfl⟩
    · exact ⟨rfl, List.mem_singleton.mp hd⟩
    · exact nomatch hd
  -- The run of the statement would have started a task, or ended with `DUMP_OK`.
  · have hresult : (executeTask succeedingEnv defaultConfig ⟨excludedTasks, ∅⟩ .empty [10001]).map
        (fun result => (result.1.status, result.1.levels.length)) = some (.dumpFail, 0) := by
      decide
    rw [hr, Option.map_some, Option.some.injEq, Prod.mk.injEq, List.length_eq_zero_iff] at hresult
    rcases hruns.all with ⟨t, ht, _⟩ | ⟨hstatus, _⟩
    · rw [hresult.2] at ht
      exact nomatch ht
    · rw [hstatus (List.cons_ne_nil _ _)] at hresult
      exact nomatch hresult.1

/-! ## Disabled roots -/

/-- The run skips exactly the disabled roots and starts each enabled one after
    the enabled one before it in the list. Only a failed mandatory task stops it
    earlier. -/
structure RunsEnabledRoots (env : TaskEnv V) (container : TaskCollection)
    (config : TaskEnableConfig) (roots : List TaskId) (r : RunResult V) : Prop where
  enabled : ∀ t ∈ roots, t ∈ r.levels.flatMap LevelTrace.started → config.isTaskEnabled t = true
  order : ∀ d t, [d, t] <:+: roots.filter config.isTaskEnabled →
    ∀ (i : Nat) (level : LevelTrace V), r.levels[i]? = some level → t ∈ level.started →
    ∃ (j : Nat) (level' : LevelTrace V), j < i ∧ r.levels[j]? = some level' ∧ d ∈ level'.started
  all : (∃ t ∈ r.levels.flatMap LevelTrace.started, MandatoryFailed env container t) ∨
    ∀ t ∈ roots, config.isTaskEnabled t = true → t ∈ r.levels.flatMap LevelTrace.started

/-- If no element that satisfies `p` directly follows one that does not, those
    that do come first. -/
theorem filter_isPrefix_of_pairs {α : Type} {p : α → Bool} {l : List α}
    (h : ∀ a b, [a, b] <:+: l → p b = true → p a = true) : l.filter p <+: l := by
  induction l with
  | nil => exact List.prefix_refl _
  | cons a l ih =>
    have htail : ∀ x y, [x, y] <:+: l → p y = true → p x = true := fun x y hxy =>
      h x y (List.infix_cons_iff.mpr (.inr hxy))
    cases hpa : p a with
    | true =>
      rw [List.filter_cons_of_pos hpa]
      exact List.cons_prefix_cons.mpr ⟨rfl, ih htail⟩
    | false =>
      -- After an element without `p` there is none with it.
      have hnil : l.filter p = [] := by
        cases l with
        | nil => rfl
        | cons b l =>
          have hpb : p b = false := by
            rw [← Bool.not_eq_true]
            intro hpb
            have hpa' := h a b (List.infix_cons_iff.mpr (.inl ⟨l, rfl⟩)) hpb
            rw [hpa] at hpa'
            exact nomatch hpa'
          have hpre := ih htail
          rw [List.filter_cons_of_neg (by simp [hpb])] at hpre ⊢
          cases hfilter : l.filter p with
          | nil => rfl
          | cons c cs =>
            rw [hfilter, List.cons_prefix_cons] at hpre
            have hpc := (List.mem_filter.mp (hfilter ▸ List.mem_cons_self : c ∈ l.filter p)).2
            rw [hpre.1, hpb] at hpc
            exact nomatch hpc
      rw [List.filter_cons_of_neg (by simp [hpa]), hnil]
      exact List.nil_prefix

section Independent

variable {roots : List TaskId} {topo : TaskCollection}
  (hinv : TopoInv container config (fun r => r ∈ roots ∧ config.isTaskEnabled r = true)
    (fun t d => config.isTaskEnabled t = true ∧ [d, t] <:+: roots) topo)

include hinv

/-- No disabled task gets into the topology. -/
theorem enabled_of_mem_topo {t : TaskId} (ht : t ∈ topo) : config.isTaskEnabled t = true := by
  obtain ⟨_, root, hroot, hreach⟩ := (hinv.mem_iff t).mp ht
  exact hreach.enabled hroot.2

/-- The order of independent roots closes no cycle. -/
private theorem acyclic_topo_of_independent (hnodup : roots.Nodup)
    (hindep : ∀ a ∈ roots, ∀ b ∈ roots, a ≠ b → ¬ TransGen (DependsOn container) a b)
    (hacyclic : Acyclic (DependsOn container)) : Acyclic (DependsOn topo) := by
  have hindep' : ∀ a ∈ roots, ∀ b ∈ roots, ¬ TransGen (DependsOn container) a b := by
    intro a ha b hb hab
    by_cases heq : a = b
    · exact hacyclic a (heq ▸ hab)
    · exact hindep a ha b hb heq hab
  refine (hacyclic.sequence hnodup hindep').mono fun t d htd => ?_
  obtain ⟨ht, hdep⟩ := hinv.dependsOn_iff.mp htd
  obtain ⟨_, root, hroot, hreach⟩ := (hinv.mem_iff t).mp ht
  refine ⟨⟨root, hroot.1, ReflTransGen.mono (fun _ _ hstep => hstep.1) _ _ hreach⟩, ?_⟩
  rcases hdep with hdep | hdep
  · exact .inl hdep.1
  · exact .inr hdep.2

/-- What the verification of the topology comes down to for independent roots
    without excluded tasks: that no task waits for a task that is not there. -/
private theorem verify_topo_iff_of_independent (hnodup : roots.Nodup)
    (hroots : ∀ r ∈ roots, r ∈ container)
    (hindep : ∀ a ∈ roots, ∀ b ∈ roots, a ≠ b → ¬ TransGen (DependsOn container) a b)
    (hsome : ∃ r ∈ roots, config.isTaskEnabled r = true)
    (hacyclic : Acyclic (DependsOn container))
    (hexcl : ∀ t ∈ container, isTaskExcessivelyFailed container t = false) :
    verifyTaskTopo container topo = some true ↔
      (∀ d t, [d, t] <:+: roots → config.isTaskEnabled t = true → config.isTaskEnabled d = true) ∧
      (∀ root ∈ roots, config.isTaskEnabled root = true → ∀ t d,
        Reachable container config root t → EnabledDependsOn container config t d →
        d ∈ container) := by
  have hrootMem : ∀ r ∈ roots, config.isTaskEnabled r = true → r ∈ topo := fun r hr henabled =>
    (hinv.mem_iff r).mpr ⟨hroots r hr, r, ⟨hr, henabled⟩, ReflTransGen.refl⟩
  have hnotExcl : ∀ t ∈ topo, isTaskExcessivelyFailed container t = false := fun t ht =>
    hexcl t ((hinv.mem_iff t).mp ht).1
  rw [verifyTaskTopo_iff]
  refine ⟨fun ⟨_, hactive, _⟩ => ⟨fun d t hpair henabled => ?_,
    fun root hroot henabled t d hreach hd => ?_⟩, fun ⟨horder, hregistered⟩ => ⟨fun hempty => ?_,
    fun t d htd => ?_, ?_⟩⟩
  · -- The ordering edge to the id before it makes the root wait for that id.
    have ht : t ∈ topo :=
      hrootMem t (hpair.subset (List.mem_cons_of_mem d List.mem_cons_self)) henabled
    have hdep : DependsOn topo t d := hinv.dependsOn_iff.mpr ⟨ht, .inr ⟨henabled, hpair⟩⟩
    exact enabled_of_mem_topo hinv (hactive t d ⟨hnotExcl t ht, hdep⟩).1
  · -- So does a dependency that is enabled, registered or not.
    have ht : t ∈ topo := by
      obtain ⟨info, hinfo, _⟩ := hd.1
      exact (hinv.mem_iff t).mpr ⟨AList.lookup_isSome.mp (by simp [hinfo]), root,
        ⟨hroot, henabled⟩, hreach⟩
    have hdep : DependsOn topo t d := hinv.dependsOn_iff.mpr ⟨ht, .inl hd⟩
    exact ((hinv.mem_iff d).mp (hactive t d ⟨hnotExcl t ht, hdep⟩).1).1
  -- The enabled root is in the topology, so this is not empty.
  · obtain ⟨root, hroot, henabled⟩ := hsome
    have hmem := AList.mem_keys.mp (hrootMem root hroot henabled)
    simp [AList.keys, hempty] at hmem
  · -- Conversely both kinds of edges then lead to tasks of the topology.
    have hd : d ∈ topo := by
      obtain ⟨ht, hdep⟩ := hinv.dependsOn_iff.mp htd.2
      rcases hdep with hdep | ⟨henabled, hpair⟩
      · obtain ⟨_, root, hroot, hreach⟩ := (hinv.mem_iff t).mp ht
        exact (hinv.mem_iff d).mpr ⟨hregistered root hroot.1 hroot.2 t d hreach hdep, root,
          hroot, hreach.tail hdep⟩
      · exact hrootMem d (hpair.subset List.mem_cons_self) (horder d t hpair henabled)
    exact ⟨hd, hnotExcl d hd⟩
  · exact (acyclic_topo_of_independent hinv hnodup hindep hacyclic).mono fun t d htd => htd.2

end Independent

/-- For distinct, registered, independent roots of which some is enabled, and no
    excessively failed task, `ExecuteTask` skips exactly the disabled roots and
    keeps the order of the others if and only if no enabled root directly follows
    a disabled one, and every enabled dependency it comes across is registered. -/
theorem executeTask_with_disabled_iff (env : TaskEnv V) (container : TaskCollection)
    (config : TaskEnableConfig) (dataInventory : DataInventory V) (roots : List TaskId)
    (calls : List BuildCall) (cache : TopoCache) (hnodup : roots.Nodup)
    (hroots : ∀ r ∈ roots, rootTaskStart < r ∧ r ∈ container)
    (hindep : ∀ a ∈ roots, ∀ b ∈ roots, a ≠ b → ¬ TransGen (DependsOn container) a b)
    (hsome : ∃ r ∈ roots, config.isTaskEnabled r = true)
    (hacyclic : Acyclic (DependsOn container))
    (hexcl : ∀ t ∈ container, isTaskExcessivelyFailed container t = false)
    (hcalls : ∀ call ∈ calls, SameRegistry container call.container)
    (hcache : cacheAfter config .empty calls = some cache) :
    (∃ r cache', executeTask env config ⟨container, dataInventory⟩ cache roots = some (r, cache') ∧
      RunsEnabledRoots env container config roots r) ↔
    (∀ d t, [d, t] <:+: roots → config.isTaskEnabled t = true → config.isTaskEnabled d = true) ∧
    (∀ root ∈ roots, config.isTaskEnabled root = true → ∀ t d,
      Reachable container config root t → EnabledDependsOn container config t d →
      d ∈ container) := by
  have hok := cacheOk_of_cacheAfter hcalls hcache
  obtain ⟨topo, cache', hinv, hexec⟩ :=
    executeTask_spec (V := V) hok roots fun r hr => (hroots r hr).1
  have hverify := verify_topo_iff_of_independent hinv hnodup (fun r hr => (hroots r hr).2) hindep
    hsome hacyclic hexcl
  refine ⟨fun ⟨r, c, hr, hruns⟩ => ?_, fun hcond => ?_⟩
  · -- A refused topology does not start the enabled root there is.
    rw [← hverify]
    by_contra hnot
    rw [hexec env dataInventory, if_neg hnot, Option.some.injEq] at hr
    obtain ⟨rfl, rfl⟩ := Prod.mk.inj hr
    obtain ⟨root, hroot, henabled⟩ := hsome
    rcases hruns.all with ⟨t, ht, _⟩ | hall
    · exact absurd ht List.not_mem_nil
    · exact absurd (hall root hroot henabled) List.not_mem_nil
  -- An accepted topology is run, and its levels follow the dependencies.
  · have haccepted := hverify.mpr hcond
    obtain ⟨r, hr, hstarted, hbefore, hall⟩ :=
      executeTaskInner_topo hinv env dataInventory haccepted
    refine ⟨r, cache', by rw [hexec env dataInventory, if_pos haccepted, hr]; rfl,
      fun t _ ht => enabled_of_mem_topo hinv (hstarted t ht).1,
      fun d t hadjacent i level hi ht => ?_, ?_⟩
    · -- The enabled roots come first, so neighbours among them are neighbours in the list.
      have hpair : [d, t] <:+: roots := hadjacent.trans (filter_isPrefix_of_pairs hcond.1).isInfix
      have htopo := (hstarted t (List.mem_flatMap.mpr ⟨level, List.mem_of_getElem? hi, ht⟩)).1
      exact hbefore i level t d hi ht (.inr ⟨enabled_of_mem_topo hinv htopo, hpair⟩)
    · rcases hall with hfail | ⟨_, hall⟩
      · exact .inl hfail
      · refine .inr fun t ht henabled => ?_
        have htask := (hroots t ht).2
        have htopo := (hinv.mem_iff t).mpr ⟨htask, t, ⟨ht, henabled⟩, ReflTransGen.refl⟩
        exact hall t htopo (hexcl t htask)

/-- Two root tasks without dependencies. -/
def rootTasks : TaskCollection :=
  ⟨[⟨10001, ⟨true, [], [], "first", 0, false⟩⟩, ⟨10002, ⟨true, [], [], "second", 0, false⟩⟩],
    by decide⟩

/-- Only `disabled` is disabled. -/
def disablingConfig (disabled : TaskId) : TaskEnableConfig :=
  ⟨AList.singleton disabled false, true⟩

private theorem not_dependsOn_rootTasks (t d : TaskId) : ¬ DependsOn rootTasks t d := by
  intro h
  obtain ⟨info, hinfo, hd⟩ := h
  rw [AList.lookup_eq_some_iff] at hinfo
  simp only [rootTasks, List.mem_cons, Sigma.mk.injEq, heq_eq_eq, List.not_mem_nil,
    or_false] at hinfo
  rcases hinfo with ⟨_, rfl⟩ | ⟨_, rfl⟩ <;> exact nomatch hd

private theorem not_transGen_rootTasks (t d : TaskId) : ¬ TransGen (DependsOn rootTasks) t d := by
  intro h
  obtain ⟨_, hstep, _⟩ := TransGen.head'_iff.mp h
  exact not_dependsOn_rootTasks _ _ hstep

/-- The last of two roots is disabled. -/
theorem executeTask_with_disabled_iff_last :
    ∃ r cache', executeTask succeedingEnv (disablingConfig 10002) ⟨rootTasks, ∅⟩ .empty
        [10001, 10002] = some (r, cache') ∧
      RunsEnabledRoots succeedingEnv rootTasks (disablingConfig 10002) [10001, 10002] r := by
  have hexcl : ∀ t ∈ rootTasks, isTaskExcessivelyFailed rootTasks t = false := by
    intro t ht
    have hkeys : rootTasks.keys.all (fun t => !isTaskExcessivelyFailed rootTasks t) = true := by
      decide
    simpa using List.all_eq_true.mp hkeys t (AList.mem_keys.mp ht)
  have hroots : ∀ r ∈ ([10001, 10002] : List TaskId), rootTaskStart < r ∧ r ∈ rootTasks := by
    intro r hr
    rw [List.mem_cons, List.mem_singleton] at hr
    rcases hr with rfl | rfl <;> decide
  refine (executeTask_with_disabled_iff succeedingEnv rootTasks (disablingConfig 10002) ∅
    [10001, 10002] [] .empty (by decide) hroots (fun a _ b _ _ => not_transGen_rootTasks a b)
    ⟨10001, by decide, by decide⟩ (fun t => not_transGen_rootTasks t t) hexcl
    (fun _ hc => nomatch hc) rfl).mpr
    ⟨fun d t hpair ht => ?_, fun _ _ _ t d _ hd => absurd hd.1 (not_dependsOn_rootTasks t d)⟩
  have heq : [d, t] = [10001, 10002] := hpair.eq_of_length rfl
  rw [(List.cons.inj heq).1]
  decide

/-- The first of two roots is disabled: the second waits for it, and nothing runs. -/
theorem executeTask_fails_after_disabled :
    (∀ t d, ¬ DependsOn rootTasks t d) ∧
    (executeTask succeedingEnv (disablingConfig 10001) ⟨rootTasks, ∅⟩ .empty [10001, 10002]).map
      (fun result => (result.1.status, result.1.levels.length)) = some (.dumpFail, 0) ∧
    ¬ ∃ r cache', executeTask succeedingEnv (disablingConfig 10001) ⟨rootTasks, ∅⟩ .empty
        [10001, 10002] = some (r, cache') ∧
      RunsEnabledRoots succeedingEnv rootTasks (disablingConfig 10001) [10001, 10002] r := by
  refine ⟨not_dependsOn_rootTasks, by decide, fun ⟨r, cache', hr, hruns⟩ => ?_⟩
  have hresult : (executeTask succeedingEnv (disablingConfig 10001) ⟨rootTasks, ∅⟩ .empty
      [10001, 10002]).map (fun result => (result.1.status, result.1.levels.length)) =
      some (.dumpFail, 0) := by
    decide
  rw [hr, Option.map_some, Option.some.injEq, Prod.mk.injEq, List.length_eq_zero_iff] at hresult
  have hnil : r.levels.flatMap LevelTrace.started = [] := by
    rw [hresult.2]
    rfl
  rcases hruns.all with ⟨t, ht, _⟩ | hall
  · rw [hnil] at ht
    exact nomatch ht
  · have hmem := hall 10002 (by decide) (by decide)
    rw [hnil] at hmem
    exact nomatch hmem

end HiDumper.Spec
