import HiDumper.Native.TaskTopo
import HiDumper.Spec.TaskLevels

/-!
# BuildTaskTopo computes the enabled closure

The abstract statement of what `BuildTaskTopo` is for: the tasks reachable from
the root through enabled dependencies, each with its registered information less
the disabled dependencies. The breadth-first loop is tied to it by the invariant
`BuildInv`, the cache by `CacheOk`: whatever is cached for a root is the closure
of that root, up to the failure counts copied at the time it was built.

## Key results

- `buildLoop_spec`: the loop ends and has built the closure
- `buildTaskTopo_spec`: hit or miss, the closure is joined into `taskTopo`
- `buildTaskTopo_after_history`: the same after any sequence of calls
-/

namespace HiDumper.Spec

open HiDumper.Native Relation

variable {container : TaskCollection} {config : TaskEnableConfig}

/-! ## The enabled closure -/

/-- `t` is registered with `d` among its dependencies, and `d` is enabled. -/
def EnabledDependsOn (container : TaskCollection) (config : TaskEnableConfig) (t d : TaskId) :
    Prop :=
  DependsOn container t d ∧ config.isTaskEnabled d = true

/-- `t` is reachable from `root` through enabled dependencies. -/
def Reachable (container : TaskCollection) (config : TaskEnableConfig) :
    TaskId → TaskId → Prop :=
  ReflTransGen (EnabledDependsOn container config)

/-- Registered information less the disabled dependencies. -/
def enabledInfo (config : TaskEnableConfig) (info : RegTaskInfo) : RegTaskInfo :=
  { info with taskDependency := info.taskDependency.filter config.isTaskEnabled }

/-- What no reader of a topology looks at: the copy of the failure count. -/
def clearCount (info : RegTaskInfo) : RegTaskInfo := { info with failureCount := 0 }

/-- Two registries that differ in their failure counts only. -/
def SameRegistry (container container' : TaskCollection) : Prop :=
  ∀ t, (container.lookup t).map clearCount = (container'.lookup t).map clearCount

/-- `topo` is the closure of `root`, up to failure counts. -/
structure IsClosure (container : TaskCollection) (config : TaskEnableConfig) (root : TaskId)
    (topo : TaskCollection) : Prop where
  reachable : ∀ t, Reachable container config root t →
    (topo.lookup t).map clearCount = ((container.lookup t).map (enabledInfo config)).map clearCount
  not_reachable : ∀ t, ¬ Reachable container config root t → topo.lookup t = none

/-- Two states of one registry have the same dependencies. -/
theorem SameRegistry.dependsOn {container' : TaskCollection} (h : SameRegistry container container')
    {t d : TaskId} : DependsOn container t d ↔ DependsOn container' t d := by
  unfold DependsOn
  have heq := h t
  cases h₁ : container.lookup t <;> cases h₂ : container'.lookup t <;>
    simp_all [clearCount]

theorem SameRegistry.reachable {container' : TaskCollection} (h : SameRegistry container container')
    {root t : TaskId} : Reachable container config root t ↔ Reachable container' config root t := by
  have hrel : EnabledDependsOn container config = EnabledDependsOn container' config := by
    funext t d
    simp only [EnabledDependsOn, h.dependsOn]
  rw [Reachable, Reachable, hrel]

/-- A closure with respect to one registry is one with respect to the other. -/
theorem IsClosure.congr {container' : TaskCollection} {root : TaskId} {topo : TaskCollection}
    (h : IsClosure container config root topo) (hsame : SameRegistry container container') :
    IsClosure container' config root topo := by
  refine ⟨fun t ht => ?_, fun t ht => h.not_reachable t (hsame.reachable.not.mpr ht)⟩
  rw [h.reachable t (hsame.reachable.mpr ht)]
  have heq := hsame t
  cases h₁ : container.lookup t <;> cases h₂ : container'.lookup t <;>
    simp_all [clearCount, enabledInfo]

/-! ## The inner loop -/

/-- The dependencies that stay are the enabled ones, in order. -/
private theorem visitDependencies_fst (config : TaskEnableConfig)
    (deps queue visited : List TaskId) :
    (visitDependencies config deps queue visited).1 = deps.filter config.isTaskEnabled := by
  induction deps generalizing queue visited with
  | nil => rfl
  | cons dep deps ih =>
    unfold visitDependencies
    cases henabled : config.isTaskEnabled dep with
    | false => simp [henabled, ih]
    | true =>
      by_cases hvisited : dep ∈ visited <;> simp [henabled, hvisited, ih]

/-- The inner loop queues the same ids it marks as visited: exactly the enabled
    dependencies that were not visited yet, each once. -/
theorem visitDependencies_spec (config : TaskEnableConfig) (deps queue visited : List TaskId)
    (hqueue : queue.Nodup) (hsub : ∀ x ∈ queue, x ∈ visited) :
    (visitDependencies config deps queue visited).2.1.Nodup ∧
      (∀ x, x ∈ (visitDependencies config deps queue visited).2.2 ↔
        x ∈ visited ∨ (x ∈ deps ∧ config.isTaskEnabled x = true)) ∧
      (∀ x, x ∈ (visitDependencies config deps queue visited).2.1 ↔
        x ∈ queue ∨ (x ∉ visited ∧ x ∈ deps ∧ config.isTaskEnabled x = true)) := by
  -- Induction on the dependencies; the queue and the visited set grow together.
  induction deps generalizing queue visited with
  | nil => simp [visitDependencies, hqueue]
  | cons dep deps ih =>
    unfold visitDependencies
    cases henabled : config.isTaskEnabled dep with
    | false =>
      obtain ⟨hnd, hvis, hque⟩ := ih queue visited hqueue hsub
      simp only [Bool.not_false, ↓reduceIte]
      refine ⟨hnd, fun x => ?_, fun x => ?_⟩
      · rw [hvis x, List.mem_cons]
        by_cases hx : x = dep
        · simp [hx, henabled]
        · simp [hx]
      · rw [hque x, List.mem_cons]
        by_cases hx : x = dep
        · simp [hx, henabled]
        · simp [hx]
    | true =>
      simp only [Bool.not_true, Bool.false_eq_true, ↓reduceIte, List.contains_eq_mem,
        decide_eq_true_eq]
      by_cases hvisited : dep ∈ visited
      · obtain ⟨hnd, hvis, hque⟩ := ih queue visited hqueue hsub
        rw [if_pos hvisited]
        refine ⟨hnd, fun x => ?_, fun x => ?_⟩
        · rw [hvis x, List.mem_cons]
          by_cases hx : x = dep
          · simp [hx, hvisited]
          · simp [hx]
        · rw [hque x, List.mem_cons]
          by_cases hx : x = dep
          · simp [hx, hvisited]
          · simp [hx]
      · -- A new id goes to the end of the queue and into the visited set.
        have hqueue' : (queue ++ [dep]).Nodup := by
          rw [List.nodup_append]
          exact ⟨hqueue, List.nodup_singleton dep, fun x hx y hy hxy => by
            rw [List.mem_singleton] at hy
            exact hvisited (hy ▸ hxy ▸ hsub x hx)⟩
        have hsub' : ∀ x ∈ queue ++ [dep], x ∈ dep :: visited := by
          intro x hx
          rw [List.mem_append, List.mem_singleton] at hx
          rw [List.mem_cons]
          rcases hx with hx | hx
          · exact .inr (hsub x hx)
          · exact .inl hx
        obtain ⟨hnd, hvis, hque⟩ := ih (queue ++ [dep]) (dep :: visited) hqueue' hsub'
        rw [if_neg hvisited]
        refine ⟨hnd, fun x => ?_, fun x => ?_⟩
        · rw [hvis x, List.mem_cons, List.mem_cons]
          by_cases hx : x = dep
          · simp [hx, henabled]
          · simp [hx]
        · rw [hque x, List.mem_append, List.mem_singleton, List.mem_cons, List.mem_cons]
          by_cases hx : x = dep
          · simp [hx, henabled, hvisited]
          · simp [hx]

/-- Every id that is queued leaves the pool of ids not visited yet. -/
private theorem visitDependencies_measure (config : TaskEnableConfig) (pool : List TaskId)
    (deps queue visited : List TaskId) (hpool : ∀ x ∈ deps, x ∈ pool) :
    (visitDependencies config deps queue visited).2.1.length +
        (pool.filter fun x =>
          !(visitDependencies config deps queue visited).2.2.contains x).length ≤
      queue.length + (pool.filter fun x => !visited.contains x).length := by
  induction deps generalizing queue visited with
  | nil => exact Nat.le_refl _
  | cons dep deps ih =>
    have hdeps : ∀ x ∈ deps, x ∈ pool := fun x hx => hpool x (List.mem_cons_of_mem dep hx)
    unfold visitDependencies
    cases henabled : config.isTaskEnabled dep with
    | false =>
      simp only [Bool.not_false, ↓reduceIte]
      exact ih queue visited hdeps
    | true =>
      simp only [Bool.not_true, Bool.false_eq_true, ↓reduceIte]
      by_cases hvisited : visited.contains dep = true
      · rw [if_pos hvisited]
        exact ih queue visited hdeps
      · rw [if_neg hvisited]
        have hrest := ih (queue ++ [dep]) (dep :: visited) hdeps
        -- `dep` is in the pool and was not visited, so the pool of new ids shrinks.
        have hpooled : (pool.filter fun x => !(dep :: visited).contains x) =
            (pool.filter fun x => !visited.contains x).filter fun x => x ≠ dep := by
          rw [List.filter_filter]
          apply List.filter_congr
          intro x _
          by_cases hx : x = dep <;> simp [hx]
        have hshrink : (pool.filter fun x => !(dep :: visited).contains x).length <
            (pool.filter fun x => !visited.contains x).length := by
          rw [hpooled]
          apply List.length_filter_lt_length_iff_exists.mpr
          refine ⟨dep, ?_, by simp⟩
          rw [List.mem_filter]
          exact ⟨hpool dep List.mem_cons_self, by simpa using hvisited⟩
        rw [List.length_append, List.length_singleton] at hrest
        omega

/-! ## The breadth-first loop -/

/-- Invariant of the loop that started from `root` and `topo₀`. A visited id is
    either queued or has been handled, and the topology built so far holds
    exactly the handled ones. -/
structure BuildInv (container : TaskCollection) (config : TaskEnableConfig) (root : TaskId)
    (topo₀ : TaskCollection) (s : BuildState) : Prop where
  nodup : s.taskQueue.Nodup
  queue_visited : ∀ x ∈ s.taskQueue, x ∈ s.visited
  root_visited : root ∈ s.visited
  visited_reachable : ∀ x ∈ s.visited, Reachable container config root x
  closed : ∀ x ∈ s.visited, x ∉ s.taskQueue →
    ∀ d, EnabledDependsOn container config x d → d ∈ s.visited
  independent : ∀ x, s.independentTopo.lookup x =
    if x ∈ s.visited ∧ x ∉ s.taskQueue then (container.lookup x).map (enabledInfo config) else none
  taskTopo : ∀ x, s.taskTopo.lookup x = (topo₀.lookup x).or (s.independentTopo.lookup x)

section Loop

variable {root : TaskId} {topo₀ : TaskCollection} {s : BuildState}

/-- At the start of the search the root is the only task that has been seen. -/
theorem BuildInv.init (container : TaskCollection) (config : TaskEnableConfig) (root : TaskId)
    (topo₀ : TaskCollection) : BuildInv container config root topo₀ ⟨topo₀, ∅, [root], [root]⟩ where
  nodup := List.nodup_singleton root
  queue_visited _ hx := hx
  root_visited := List.mem_singleton_self root
  visited_reachable x hx := by
    rw [List.mem_singleton.mp hx]
    exact ReflTransGen.refl
  closed x hx hnot := absurd hx hnot
  independent x := by simp
  taskTopo x := by simp

/-- Step lemma of the loop. -/
theorem BuildInv.step (h : BuildInv container config root topo₀ s) {taskId : TaskId}
    {queue : List TaskId} (hqueue : s.taskQueue = taskId :: queue) :
    BuildInv container config root topo₀ (buildStep container config s taskId queue) := by
  have hnodup := h.nodup
  rw [hqueue, List.nodup_cons] at hnodup
  have hvisitedId : taskId ∈ s.visited := h.queue_visited taskId (hqueue ▸ List.mem_cons_self)
  have hsub : ∀ x ∈ queue, x ∈ s.visited := fun x hx =>
    h.queue_visited x (hqueue ▸ List.mem_cons_of_mem taskId hx)
  unfold buildStep
  cases hlookup : container.lookup taskId with
  | none =>
    -- An unregistered id is dropped; it has no dependencies to follow.
    refine ⟨hnodup.2, hsub, h.root_visited, h.visited_reachable, fun x hx hnot d hd => ?_,
      fun x => ?_, h.taskTopo⟩
    · by_cases hxt : x = taskId
      · obtain ⟨⟨info, hinfo, _⟩, _⟩ := hd
        rw [hxt, hlookup] at hinfo
        exact nomatch hinfo
      · exact h.closed x hx (by rw [hqueue]; simp [hxt, hnot]) d hd
    · show s.independentTopo.lookup x = _
      rw [h.independent x, hqueue]
      by_cases hxt : x = taskId
      · subst hxt
        simp [hlookup]
      · simp [hxt]
  | some info =>
    -- The id leaves the queue; its enabled dependencies that are new enter it.
    obtain ⟨hnd, hvis, hque⟩ :=
      visitDependencies_spec config info.taskDependency queue s.visited hnodup.2 hsub
    have hinfo : { info with
        taskDependency := (visitDependencies config info.taskDependency queue s.visited).1 } =
        enabledInfo config info := by
      rw [visitDependencies_fst]
      rfl
    have hdep : ∀ d, d ∈ info.taskDependency ∧ config.isTaskEnabled d = true →
        EnabledDependsOn container config taskId d := fun d hd => ⟨⟨info, hlookup, hd.1⟩, hd.2⟩
    simp only [hinfo]
    refine ⟨hnd, fun x hx => ?_, (hvis root).mpr (.inl h.root_visited), fun x hx => ?_,
      fun x hx hnot d hd => ?_, fun x => ?_, fun x => ?_⟩
    · rw [hvis x]
      rcases (hque x).mp hx with hx | hx
      · exact .inl (hsub x hx)
      · exact .inr hx.2
    · rcases (hvis x).mp hx with hx | hx
      · exact h.visited_reachable x hx
      · exact (h.visited_reachable taskId hvisitedId).tail (hdep x hx)
    · -- A handled id is the one just handled or was handled before.
      rw [hvis d]
      by_cases hxt : x = taskId
      · obtain ⟨⟨info', hinfo', hmem⟩, henabled⟩ := hd
        rw [hxt, hlookup, Option.some.injEq] at hinfo'
        exact .inr ⟨hinfo' ▸ hmem, henabled⟩
      · left
        have hx' : x ∈ s.visited := by
          rcases (hvis x).mp hx with hx | hx
          · exact hx
          · by_contra hnew
            exact hnot ((hque x).mpr (.inr ⟨hnew, hx⟩))
        refine h.closed x hx' (fun hin => ?_) d hd
        rw [hqueue, List.mem_cons] at hin
        exact hnot ((hque x).mpr (.inl (hin.resolve_left hxt)))
    · show (s.independentTopo.emplace taskId (enabledInfo config info)).lookup x = _
      rw [AList.lookup_emplace, h.independent x, hqueue]
      by_cases hxt : x = taskId
      · subst hxt
        -- The handled id is visited and cannot be queued again.
        have hcond : x ∈ (visitDependencies config info.taskDependency queue s.visited).2.2 ∧
            x ∉ (visitDependencies config info.taskDependency queue s.visited).2.1 := by
          refine ⟨(hvis x).mpr (.inl hvisitedId), fun hin => ?_⟩
          rcases (hque x).mp hin with hin | hin
          · exact hnodup.1 hin
          · exact hin.1 hvisitedId
        rw [if_pos hcond, hlookup]
        simp
      · have hcond : (x ∈ (visitDependencies config info.taskDependency queue s.visited).2.2 ∧
            x ∉ (visitDependencies config info.taskDependency queue s.visited).2.1) ↔
            (x ∈ s.visited ∧ x ∉ taskId :: queue) := by
          rw [hvis x, hque x, List.mem_cons]
          tauto
        simp only [hcond, if_neg hxt, Option.or_none]
    · show (s.taskTopo.emplace taskId (enabledInfo config info)).lookup x =
        (topo₀.lookup x).or ((s.independentTopo.emplace taskId (enabledInfo config info)).lookup x)
      rw [AList.lookup_emplace, AList.lookup_emplace, h.taskTopo x, Option.or_assoc]

/-- What bounds the number of turns left: queued ids and ids not visited yet. -/
def buildMeasure (container : TaskCollection) (s : BuildState) : Nat :=
  s.taskQueue.length +
    ((registeredDependencies container).filter fun x => !s.visited.contains x).length

/-- Every step of the search makes the measure smaller. -/
private theorem buildMeasure_step (container : TaskCollection) (config : TaskEnableConfig)
    {taskId : TaskId} {queue : List TaskId}
    (hqueue : s.taskQueue = taskId :: queue) :
    buildMeasure container (buildStep container config s taskId queue) <
      buildMeasure container s := by
  unfold buildMeasure buildStep
  rw [hqueue, List.length_cons]
  cases hlookup : container.lookup taskId with
  | none =>
    -- The queue gets shorter, and nothing is visited.
    simp only
    omega
  | some info =>
    -- Only registered dependencies are ever visited, so the pool is finite.
    have hpool : ∀ x ∈ info.taskDependency, x ∈ registeredDependencies container := fun x hx =>
      List.mem_flatMap.mpr ⟨⟨taskId, info⟩, AList.lookup_eq_some_iff.mp hlookup, hx⟩
    have hle := visitDependencies_measure config (registeredDependencies container)
      info.taskDependency queue s.visited hpool
    simp only
    omega

/-- The loop ends, with nothing queued. -/
theorem buildLoop_spec (h : BuildInv container config root topo₀ s) {fuel : Nat}
    (hfuel : buildMeasure container s < fuel) :
    ∃ s', buildLoop container config fuel s = some s' ∧
      BuildInv container config root topo₀ s' ∧ s'.taskQueue = [] := by
  -- Each turn lowers the measure, so the fuel outlasts the queue.
  induction fuel generalizing s with
  | zero => omega
  | succ fuel ih =>
    unfold buildLoop
    cases hqueue : s.taskQueue with
    | nil => exact ⟨s, rfl, h, hqueue⟩
    | cons taskId queue =>
      have hless := buildMeasure_step container config hqueue
      exact ih (h.step hqueue) (by omega)

/-- With nothing queued the visited ids are the reachable ones. -/
theorem BuildInv.visited_iff (h : BuildInv container config root topo₀ s)
    (hqueue : s.taskQueue = []) (t : TaskId) :
    t ∈ s.visited ↔ Reachable container config root t := by
  refine ⟨h.visited_reachable t, fun hreach => ?_⟩
  induction hreach with
  | refl => exact h.root_visited
  | tail _ hdep ih => exact h.closed _ ih (by rw [hqueue]; exact List.not_mem_nil) _ hdep

/-- After a miss: the closure is built, and joined into the given topology. -/
theorem buildIndependentTopo_spec (container : TaskCollection) (config : TaskEnableConfig)
    (root : TaskId) (topo₀ : TaskCollection) :
    ∃ s, buildIndependentTopo container config root topo₀ = some s ∧
      IsClosure container config root s.independentTopo ∧
      ∀ t, s.taskTopo.lookup t = (topo₀.lookup t).or (s.independentTopo.lookup t) := by
  -- At the start one id is queued and at most every dependency is new.
  have hfuel : buildMeasure container ⟨topo₀, ∅, [root], [root]⟩ <
      (registeredDependencies container).length + 2 := by
    have hle := List.length_filter_le (fun x => !([root] : List TaskId).contains x)
      (registeredDependencies container)
    unfold buildMeasure
    simp only [List.length_singleton]
    omega
  obtain ⟨s, hs, hinv, hqueue⟩ := buildLoop_spec (BuildInv.init container config root topo₀) hfuel
  refine ⟨s, hs, ⟨fun t ht => ?_, fun t ht => ?_⟩, hinv.taskTopo⟩
  · have hmem : t ∈ s.visited := (hinv.visited_iff hqueue t).mpr ht
    rw [hinv.independent t, hqueue, if_pos ⟨hmem, List.not_mem_nil⟩]
  · rw [hinv.independent t, if_neg fun hmem => ht ((hinv.visited_iff hqueue t).mp hmem.1)]

end Loop

/-! ## The cache -/

/-- Whatever is cached for a root is the closure of that root. -/
def CacheOk (container : TaskCollection) (config : TaskEnableConfig) (cache : TopoCache) : Prop :=
  ∀ root topo, cache.taskTopoCache.lookup root = some topo → IsClosure container config root topo

/-- The empty cache says nothing wrong. -/
theorem cacheOk_empty : CacheOk container config .empty := by
  intro root topo h
  exact nomatch h

/-- Failure counts do not matter for what is cached. -/
theorem CacheOk.congr {container' : TaskCollection} {cache : TopoCache}
    (h : CacheOk container config cache) (hsame : SameRegistry container container') :
    CacheOk container' config cache := fun root topo hroot => (h root topo hroot).congr hsame

/-- Moving a node to the front leaves what is cached. -/
private theorem taskTopoCache_moveToFront (cache : TopoCache) (root : TaskId) :
    (cache.moveToFront root).taskTopoCache = cache.taskTopoCache := by
  unfold TopoCache.moveToFront
  cases cache.lruMap.lookup root <;> rfl

/-- A look into the cache only moves an entry to the front. -/
theorem CacheOk.getCachedTaskTopo {cache : TopoCache} (h : CacheOk container config cache)
    (root : TaskId) : CacheOk container config (cache.getCachedTaskTopo root).2 := by
  unfold TopoCache.getCachedTaskTopo
  cases cache.taskTopoCache.lookup root with
  | none => exact h
  | some topo =>
    intro root' topo' hlookup
    rw [taskTopoCache_moveToFront] at hlookup
    exact h root' topo' hlookup

/-- Eviction takes entries away and changes none. -/
theorem CacheOk.makeRoom {cache : TopoCache} (h : CacheOk container config cache) :
    CacheOk container config cache.makeRoom := by
  unfold TopoCache.makeRoom TopoCache.evictOldCache
  split
  · -- Eviction takes one entry out and leaves the others.
    cases cache.lruList.getLast? with
    | none => exact h
    | some oldest =>
      intro root topo hlookup
      have herase : (cache.taskTopoCache.erase oldest.2).lookup root = some topo := hlookup
      by_cases hroot : root = oldest.2
      · rw [hroot, AList.lookup_erase] at herase
        exact nomatch herase
      · rw [AList.lookup_erase_ne hroot] at herase
        exact h root topo herase
  · exact h

/-- The closure of a root may be put into the cache. -/
theorem CacheOk.cacheTaskTopo {cache : TopoCache} (h : CacheOk container config cache)
    {root : TaskId} {topo : TaskCollection} (htopo : IsClosure container config root topo) :
    CacheOk container config (cache.cacheTaskTopo root topo) := by
  intro root' topo' hlookup
  have hinsert : (cache.makeRoom.taskTopoCache.insert root topo).lookup root' = some topo' :=
    hlookup
  by_cases hroot : root' = root
  · rw [hroot, AList.lookup_insert, Option.some.injEq] at hinsert
    rw [hroot, ← hinsert]
    exact htopo
  · rw [AList.lookup_insert_ne hroot] at hinsert
    exact h.makeRoom root' topo' hinsert

/-- Joining keeps what is there and adds the rest. -/
private theorem lookup_emplaceAll (topo cached : TaskCollection) (t : TaskId) :
    (emplaceAll topo cached).lookup t = (topo.lookup t).or (cached.lookup t) := by
  -- Over any suffix of the entries, with the lookup of the list they form.
  suffices ∀ entries : List (Sigma fun _ : TaskId => RegTaskInfo), ∀ topo : TaskCollection,
      (entries.foldl (fun topo task => topo.emplace task.1 task.2) topo).lookup t =
        (topo.lookup t).or (entries.dlookup t) from this cached.entries topo
  intro entries
  induction entries with
  | nil =>
    intro topo
    simp
  | cons entry entries ih =>
    intro topo
    obtain ⟨t', info⟩ := entry
    rw [List.foldl_cons, ih, AList.lookup_emplace, Option.or_assoc]
    by_cases ht : t = t'
    · subst ht
      simp
    · rw [if_neg ht, List.dlookup_cons_ne _ _ ht, Option.none_or]

/-- What is joined into a topology is the closure of the root, up to failure counts. -/
def JoinsClosure (container : TaskCollection) (config : TaskEnableConfig) (root : TaskId)
    (topo topo' : TaskCollection) : Prop :=
  ∃ closure, IsClosure container config root closure ∧
    ∀ t, topo'.lookup t = (topo.lookup t).or (closure.lookup t)

/-- One call of `BuildTaskTopo`, hit or miss. -/
theorem buildTaskTopo_spec {cache : TopoCache} (h : CacheOk container config cache)
    (root : TaskId) (topo : TaskCollection) :
    ∃ topo' cache', buildTaskTopo container config cache root topo = some (topo', cache') ∧
      JoinsClosure container config root topo topo' ∧ CacheOk container config cache' := by
  have hcache := h.getCachedTaskTopo root
  unfold buildTaskTopo
  unfold TopoCache.getCachedTaskTopo at hcache ⊢
  cases hhit : cache.taskTopoCache.lookup root with
  | some cached =>
    -- Hit: what is cached is a closure, by the invariant.
    rw [hhit] at hcache
    exact ⟨_, _, rfl, ⟨cached, h root cached hhit, lookup_emplaceAll topo cached⟩, hcache⟩
  | none =>
    -- Miss: the closure is built and then cached.
    obtain ⟨s, hs, hclosure, htopo⟩ := buildIndependentTopo_spec container config root topo
    simp only [hs, Option.map_some]
    exact ⟨_, _, rfl, ⟨s.independentTopo, hclosure, htopo⟩, h.cacheTaskTopo hclosure⟩

/-! ## After any history of calls -/

/-- A `BuildTaskTopo` call: the registry it reads, its root and its topology. -/
structure BuildCall where
  container : TaskCollection
  rootTaskId : TaskId
  taskTopo : TaskCollection

/-- The cache after calls made one after the other on a new `TaskControl`. -/
def cacheAfter (config : TaskEnableConfig) : TopoCache → List BuildCall → Option TopoCache
  | cache, [] => some cache
  | cache, call :: calls =>
    (buildTaskTopo call.container config cache call.rootTaskId call.taskTopo).bind fun result =>
      cacheAfter config result.2 calls

/-- Run lemma: the cache stays a cache of closures. -/
theorem cacheAfter_spec {cache : TopoCache} (h : CacheOk container config cache)
    (calls : List BuildCall) (hcalls : ∀ call ∈ calls, SameRegistry container call.container) :
    ∃ cache', cacheAfter config cache calls = some cache' ∧ CacheOk container config cache' := by
  induction calls generalizing cache with
  | nil => exact ⟨cache, rfl, h⟩
  | cons call calls ih =>
    have hsame := hcalls call List.mem_cons_self
    obtain ⟨topo', cache', hbuild, _, hcache'⟩ :=
      buildTaskTopo_spec (h.congr hsame) call.rootTaskId call.taskTopo
    -- The call worked on its own copy of the registry, which agrees with ours.
    have hback : CacheOk container config cache' := hcache'.congr fun t => (hsame t).symm
    obtain ⟨cache'', hrun, hcache''⟩ := ih hback fun c hc => hcalls c (List.mem_cons_of_mem call hc)
    exact ⟨cache'', by rw [cacheAfter, hbuild, Option.bind_some, hrun], hcache''⟩

/-- After any calls of `BuildTaskTopo` on one registry the cache is right. -/
theorem cacheOk_of_cacheAfter {cache : TopoCache} {calls : List BuildCall}
    (hcalls : ∀ call ∈ calls, SameRegistry container call.container)
    (hcache : cacheAfter config .empty calls = some cache) : CacheOk container config cache := by
  obtain ⟨cache', hcache', hok⟩ := cacheAfter_spec cacheOk_empty calls hcalls
  rw [hcache, Option.some.injEq] at hcache'
  exact hcache' ▸ hok

/-- After any sequence of calls on a registry whose dependencies do not change,
    a further call adds to its topology exactly the registered tasks reachable
    from the root through enabled dependencies that were not there, each with its
    registered information less the disabled dependencies, up to the copied
    failure count. -/
theorem buildTaskTopo_after_history (container : TaskCollection) (config : TaskEnableConfig)
    (calls : List BuildCall) (hcalls : ∀ call ∈ calls, SameRegistry container call.container)
    (root : TaskId) (topo : TaskCollection) :
    ∃ cache topo' cache', cacheAfter config .empty calls = some cache ∧
      buildTaskTopo container config cache root topo = some (topo', cache') ∧
      ∀ t,
        (∀ info, topo.lookup t = some info → topo'.lookup t = some info) ∧
        (t ∉ topo → Reachable container config root t →
          (topo'.lookup t).map clearCount =
            ((container.lookup t).map (enabledInfo config)).map clearCount) ∧
        (t ∉ topo → ¬ Reachable container config root t → topo'.lookup t = none) := by
  obtain ⟨cache, hcache, hok⟩ := cacheAfter_spec cacheOk_empty calls hcalls
  obtain ⟨topo', cache', hbuild, ⟨closure, hclosure, hjoin⟩, _⟩ := buildTaskTopo_spec hok root topo
  refine ⟨cache, topo', cache', hcache, hbuild, fun t => ⟨fun info hinfo => ?_, fun hnot hreach => ?_,
    fun hnot hreach => ?_⟩⟩
  · rw [hjoin t, hinfo, Option.some_or]
  · rw [hjoin t, AList.lookup_eq_none.mpr hnot, Option.none_or, hclosure.reachable t hreach]
  · rw [hjoin t, AList.lookup_eq_none.mpr hnot, Option.none_or, hclosure.not_reachable t hreach]

/-- With task `1` disabled the root loses its dependency, on the miss and on the
    hit that follows it. -/
theorem buildTaskTopo_after_history_chain :
    ∃ cache topo' cache',
      cacheAfter ⟨⟨[⟨1, false⟩], by decide⟩, true⟩ .empty [⟨chainTasks, 10001, ∅⟩] = some cache ∧
      buildTaskTopo chainTasks ⟨⟨[⟨1, false⟩], by decide⟩, true⟩ cache 10001 ∅ =
        some (topo', cache') ∧
      (topo'.lookup 10001).map clearCount = some ⟨true, [], [], "root", 0, false⟩ := by
  obtain ⟨cache, topo', cache', hcache, hbuild, hlookup⟩ :=
    buildTaskTopo_after_history chainTasks ⟨⟨[⟨1, false⟩], by decide⟩, true⟩
      [⟨chainTasks, 10001, ∅⟩] (by simp [SameRegistry]) 10001 ∅
  exact ⟨cache, topo', cache', hcache, hbuild,
    (hlookup 10001).2.1 (AList.notMem_empty _) ReflTransGen.refl⟩

end HiDumper.Spec
