import HiDumper.Native.TaskControl

/-!
# TaskControl: building and caching topologies

Model of the other half of `task/base/task_control.cpp`: the breadth-first
construction of a root task's topology, its LRU cache, and `ExecuteTask`, which
joins the topologies of several roots, orders the roots and runs the result.

`lruList_` is a `std::list` and `lruMap_` holds iterators into it, so a list
node has an identity of its own: a node is a pair of a number, fresh for every
`push_front`, and the id it holds. An iterator is the number of its node.
-/

namespace HiDumper.Native

variable {V : Type}

/-! ## LRU cache -/

/-- `MAX_CACHE_SIZE` of `task_control.cpp`. -/
def maxCacheSize : Nat := 10

/-- Identity of a node of `lruList_`, which is also what an iterator to it is. -/
abbrev NodeId := Nat

/-- The three coupled structures behind `cacheMutex_`. -/
structure TopoCache where
  taskTopoCache : UnorderedMap TaskId TaskCollection
  lruList : List (NodeId × TaskId)
  lruMap : UnorderedMap TaskId NodeId
  /-- The identity of the next list node. -/
  nextNode : NodeId

/-- The cache of a new `TaskControl`. -/
def TopoCache.empty : TopoCache := ⟨∅, [], ∅, 0⟩

namespace TopoCache

/-- `lruList_.push_front(rootTaskId)` and `lruMap_[rootTaskId] = lruList_.begin()`. -/
def pushFront (cache : TopoCache) (rootTaskId : TaskId) : TopoCache :=
  { cache with
    lruList := (cache.nextNode, rootTaskId) :: cache.lruList
    lruMap := cache.lruMap.insert rootTaskId cache.nextNode
    nextNode := cache.nextNode + 1 }

/-- `TaskControl::MoveToFront`. -/
def moveToFront (cache : TopoCache) (rootTaskId : TaskId) : TopoCache :=
  match cache.lruMap.lookup rootTaskId with
  | none => cache
  | some node =>
    { cache with lruList := cache.lruList.filter fun n => n.1 ≠ node }.pushFront rootTaskId

/-- `TaskControl::GetCachedTaskTopo`: the topology on a hit, and the cache after it. -/
def getCachedTaskTopo (cache : TopoCache) (rootTaskId : TaskId) :
    Option TaskCollection × TopoCache :=
  match cache.taskTopoCache.lookup rootTaskId with
  | none => (none, cache)
  | some taskTopo => (some taskTopo, cache.moveToFront rootTaskId)

/-- `TaskControl::EvictOldCache`. -/
def evictOldCache (cache : TopoCache) : TopoCache :=
  match cache.lruList.getLast? with
  | none => cache
  | some oldest =>
    { cache with
      lruList := cache.lruList.dropLast
      lruMap := cache.lruMap.erase oldest.2
      taskTopoCache := cache.taskTopoCache.erase oldest.2 }

/-- The eviction `CacheTaskTopo` starts with. -/
def makeRoom (cache : TopoCache) : TopoCache :=
  if cache.taskTopoCache.entries.length ≥ maxCacheSize then cache.evictOldCache else cache

/-- `TaskControl::CacheTaskTopo`. -/
def cacheTaskTopo (cache : TopoCache) (rootTaskId : TaskId) (taskTopo : TaskCollection) :
    TopoCache :=
  let cache := cache.makeRoom
  { cache with taskTopoCache := cache.taskTopoCache.insert rootTaskId taskTopo }.pushFront
    rootTaskId

end TopoCache

/-! ## Breadth-first construction -/

/-- The inner loop of `BuildTaskTopo` over one task's dependencies: disabled
    ones are erased, new ones are queued. Returns the dependencies that stay,
    the queue and the visited ids. -/
def visitDependencies (config : TaskEnableConfig) :
    List TaskId → List TaskId → List TaskId → List TaskId × List TaskId × List TaskId
  | [], taskQueue, visited => ([], taskQueue, visited)
  | dep :: deps, taskQueue, visited =>
    if !config.isTaskEnabled dep then visitDependencies config deps taskQueue visited
    else
      let rest :=
        if visited.contains dep then visitDependencies config deps taskQueue visited
        else visitDependencies config deps (taskQueue ++ [dep]) (dep :: visited)
      (dep :: rest.1, rest.2)

/-- The local variables of `BuildTaskTopo`. -/
structure BuildState where
  taskTopo : TaskCollection
  independentTopo : TaskCollection
  taskQueue : List TaskId
  visited : List TaskId

/-- One turn of the loop for the task at the front of the queue. -/
def buildStep (container : TaskCollection) (config : TaskEnableConfig) (s : BuildState)
    (taskId : TaskId) (taskQueue : List TaskId) : BuildState :=
  match container.lookup taskId with
  | none => { s with taskQueue := taskQueue }
  | some registered =>
    let visit := visitDependencies config registered.taskDependency taskQueue s.visited
    let taskInfo := { registered with taskDependency := visit.1 }
    { taskTopo := s.taskTopo.emplace taskId taskInfo
      independentTopo := s.independentTopo.emplace taskId taskInfo
      taskQueue := visit.2.1
      visited := visit.2.2 }

/-- The loop of `BuildTaskTopo`. -/
def buildLoop (container : TaskCollection) (config : TaskEnableConfig) :
    Nat → BuildState → Option BuildState
  | 0, _ => none
  | fuel + 1, s =>
    match s.taskQueue with
    | [] => some s
    | taskId :: taskQueue =>
      buildLoop container config fuel (buildStep container config s taskId taskQueue)

/-- All dependencies written in the registry. An id is queued at most once, and
    only the root is queued without being one of them. -/
def registeredDependencies (container : TaskCollection) : List TaskId :=
  container.entries.flatMap fun task => task.2.taskDependency

/-- The part of `BuildTaskTopo` after a cache miss, up to `CacheTaskTopo`. -/
def buildIndependentTopo (container : TaskCollection) (config : TaskEnableConfig)
    (rootTaskId : TaskId) (taskTopo : TaskCollection) : Option BuildState :=
  buildLoop container config ((registeredDependencies container).length + 2)
    ⟨taskTopo, ∅, [rootTaskId], [rootTaskId]⟩

/-- Join a cached topology into `taskTopo`. -/
def emplaceAll (taskTopo cachedTopo : TaskCollection) : TaskCollection :=
  cachedTopo.entries.foldl (fun topo task => topo.emplace task.1 task.2) taskTopo

/-- `TaskControl::BuildTaskTopo`. -/
def buildTaskTopo (container : TaskCollection) (config : TaskEnableConfig) (cache : TopoCache)
    (rootTaskId : TaskId) (taskTopo : TaskCollection) : Option (TaskCollection × TopoCache) :=
  match cache.getCachedTaskTopo rootTaskId with
  | (some cachedTopo, cache') => some (emplaceAll taskTopo cachedTopo, cache')
  | (none, cache') =>
    (buildIndependentTopo container config rootTaskId taskTopo).map fun built =>
      (built.taskTopo, cache'.cacheTaskTopo rootTaskId built.independentTopo)

/-! ## Concurrent BuildTaskTopo calls -/

/-- The atomic steps of `BuildTaskTopo`, each taken by a thread under
    `cacheMutex_`. What is built after a miss depends on the registry and the
    configuration at that time. -/
inductive BuildAction where
  | getCachedTaskTopo (thread : Nat) (rootTaskId : TaskId) (container : TaskCollection)
      (config : TaskEnableConfig)
  | cacheTaskTopo (thread : Nat)

/-- The shared cache, and for every thread between a miss and its
    `CacheTaskTopo` the root and the topology it is going to cache. -/
structure BuildThreads where
  cache : TopoCache
  pending : UnorderedMap Nat (TaskId × TaskCollection)

/-- Before any call. -/
def BuildThreads.init : BuildThreads := ⟨.empty, ∅⟩

/-- One atomic step; a thread is in at most one call. -/
def BuildThreads.step (s : BuildThreads) : BuildAction → Option BuildThreads
  | .getCachedTaskTopo thread rootTaskId container config =>
    if thread ∈ s.pending then none
    else
      match s.cache.getCachedTaskTopo rootTaskId with
      | (some _, cache) => some { s with cache }
      | (none, cache) =>
        (buildIndependentTopo container config rootTaskId ∅).map fun built =>
          ⟨cache, s.pending.insert thread (rootTaskId, built.independentTopo)⟩
  | .cacheTaskTopo thread =>
    match s.pending.lookup thread with
    | none => none
    | some (rootTaskId, independentTopo) =>
      some ⟨s.cache.cacheTaskTopo rootTaskId independentTopo, s.pending.erase thread⟩

/-! ## ExecuteTask -/

/-- `taskTopo[taskId].taskDependency.insert(dependency)` for a task that is present. -/
def insertDependency (taskTopo : TaskCollection) (taskId dependency : TaskId) : TaskCollection :=
  match taskTopo.lookup taskId with
  | none => taskTopo
  | some info =>
    taskTopo.insert taskId
      { info with taskDependency := info.taskDependency.insert dependency }

/-- The ordering edge of a root goes to `taskIds[i - 1]`, built or not; the first
    root has none. -/
def orderAfter (taskTopo : TaskCollection) (taskId : TaskId) : Option TaskId → TaskCollection
  | none => taskTopo
  | some previous => insertDependency taskTopo taskId previous

/-- What the loop of `ExecuteTask` over the root ids ends with. -/
inductive RootsOutcome where
  /-- An id is not a root task: `DUMP_FAIL` at once. -/
  | notRoot (cache : TopoCache)
  | built (taskTopo : TaskCollection) (cache : TopoCache)

/-- The loop of `ExecuteTask` over the root ids; `previous` is `taskIds[i - 1]`. -/
def buildRoots (container : TaskCollection) (config : TaskEnableConfig) :
    Option TaskId → List TaskId → TaskCollection → TopoCache → Option RootsOutcome
  | _, [], taskTopo, cache => some (.built taskTopo cache)
  | previous, taskId :: taskIds, taskTopo, cache =>
    if taskId ≤ rootTaskStart then some (.notRoot cache)
    else if !config.isTaskEnabled taskId then
      buildRoots container config (some taskId) taskIds taskTopo cache
    else
      match buildTaskTopo container config cache taskId taskTopo with
      | none => none
      | some (taskTopo, cache) =>
        buildRoots container config (some taskId) taskIds (orderAfter taskTopo taskId previous) cache

/-- `TaskControl::ExecuteTask` with the run it makes, if it gets that far, and
    the cache it leaves. -/
def executeTask (env : TaskEnv V) (config : TaskEnableConfig) (s : RunState V)
    (cache : TopoCache) (taskIds : List TaskId) : Option (RunResult V × TopoCache) :=
  match buildRoots s.container config none taskIds ∅ cache with
  | none => none
  | some (.notRoot cache) => some (⟨.dumpFail, [], s⟩, cache)
  | some (.built taskTopo cache) =>
    match verifyTaskTopo s.container taskTopo with
    | none => none
    | some false => some (⟨.dumpFail, [], s⟩, cache)
    | some true => (executeTaskInner env s taskTopo).map fun r => (r, cache)

end HiDumper.Native
