import HiDumper.ForStd.Runs
import HiDumper.Native.TaskTopo

/-!
# Consistency of the LRU cache

`LruConsistent` is what the three structures behind `cacheMutex_` owe each
other. Every locked operation preserves it, with one exception: caching an id
that is cached already leaves two list nodes with that id. `BuildTaskTopo` looks
up and caches in two separate critical sections, so two calls that miss the same
id one after the other get there.

## Key results

- `getCachedTaskTopo_lruInv`, `cacheTaskTopo_lruInv`: the step lemmas
- `run_lruConsistent`: the cache is consistent along every run in which no id is
  cached twice
-/

namespace HiDumper.Spec

open HiDumper.Native

/-- Ids of `lruList_`, front first. -/
def lruIds (cache : TopoCache) : List TaskId := cache.lruList.map Prod.snd

/-- The coupling of `lruList_`, `lruMap_` and `taskTopoCache_`. -/
structure LruConsistent (cache : TopoCache) : Prop where
  nodup : (lruIds cache).Nodup
  mem_lruMap : ∀ id, id ∈ cache.lruMap ↔ id ∈ lruIds cache
  mem_taskTopoCache : ∀ id, id ∈ cache.taskTopoCache ↔ id ∈ lruIds cache
  /-- An iterator designates the node of its own id. -/
  position : ∀ id node, cache.lruMap.lookup id = some node → (node, id) ∈ cache.lruList
  size_le : cache.taskTopoCache.entries.length ≤ maxCacheSize

/-- Consistency together with the identity of list nodes. -/
structure LruInv (cache : TopoCache) : Prop extends LruConsistent cache where
  nodup_nodes : (cache.lruList.map Prod.fst).Nodup
  node_lt : ∀ n ∈ cache.lruList, n.1 < cache.nextNode

/-- The empty cache. -/
private theorem empty_lruInv : LruInv TopoCache.empty where
  nodup := List.nodup_nil
  mem_lruMap id := by simp [TopoCache.empty, lruIds]
  mem_taskTopoCache id := by simp [TopoCache.empty, lruIds]
  position id node h := by simp [TopoCache.empty] at h
  size_le := Nat.zero_le _
  nodup_nodes := List.nodup_nil
  node_lt n h := by simp [TopoCache.empty] at h

section Steps

variable {cache : TopoCache} {id : TaskId}

/-- The cache is as large as the list. -/
theorem LruConsistent.length_eq (h : LruConsistent cache) :
    cache.taskTopoCache.entries.length = cache.lruList.length := by
  -- Both have the same ids, each once.
  have hperm : cache.taskTopoCache.keys.Perm (lruIds cache) := by
    rw [List.perm_ext_iff_of_nodup (AList.keys_nodup _) h.nodup]
    intro id
    rw [← AList.mem_keys, h.mem_taskTopoCache]
  have hlen := hperm.length_eq
  simp only [lruIds, List.length_map, AList.keys, List.keys] at hlen
  exact hlen

/-- A new front node for an id that is in no node. Both operations end with it. -/
private theorem pushFront_lruInv (cache : TopoCache)
    (taskTopoCache : UnorderedMap TaskId TaskCollection)
    (hnodup : (lruIds cache).Nodup) (hnew : id ∉ lruIds cache)
    (hmap : ∀ id', id' ≠ id → (id' ∈ cache.lruMap ↔ id' ∈ lruIds cache))
    (hcache : ∀ id', id' ∈ taskTopoCache ↔ id' = id ∨ id' ∈ lruIds cache)
    (hposition : ∀ id' node, id' ≠ id → cache.lruMap.lookup id' = some node →
      (node, id') ∈ cache.lruList)
    (hnodes : (cache.lruList.map Prod.fst).Nodup)
    (hlt : ∀ n ∈ cache.lruList, n.1 < cache.nextNode)
    (hsize : cache.lruList.length < maxCacheSize) :
    LruInv ({ cache with taskTopoCache }.pushFront id) := by
  have hids : lruIds ({ cache with taskTopoCache }.pushFront id) = id :: lruIds cache := rfl
  have hcons : LruConsistent ({ cache with taskTopoCache }.pushFront id) := by
    have hnodup' : (lruIds ({ cache with taskTopoCache }.pushFront id)).Nodup := by
      rw [hids]
      exact List.nodup_cons.mpr ⟨hnew, hnodup⟩
    have hcache' : ∀ id', id' ∈ taskTopoCache ↔ id' ∈ id :: lruIds cache := by
      intro id'
      rw [hcache id', List.mem_cons]
    refine ⟨hnodup', fun id' => ?_, hcache', fun id' node hnode => ?_, ?_⟩
    · rw [hids, List.mem_cons]
      show id' ∈ cache.lruMap.insert id cache.nextNode ↔ _
      rw [AList.mem_insert]
      by_cases heq : id' = id
      · simp [heq]
      · simp [heq, hmap id' heq]
    · show (node, id') ∈ (cache.nextNode, id) :: cache.lruList
      have hlookup : (cache.lruMap.insert id cache.nextNode).lookup id' = some node := hnode
      by_cases heq : id' = id
      · subst heq
        rw [AList.lookup_insert, Option.some.injEq] at hlookup
        rw [hlookup]
        exact List.mem_cons_self
      · rw [AList.lookup_insert_ne heq] at hlookup
        exact List.mem_cons_of_mem _ (hposition id' node heq hlookup)
    · -- The size is read off the list, which has one id more than before.
      have hperm : taskTopoCache.keys.Perm (id :: lruIds cache) := by
        apply (List.perm_ext_iff_of_nodup (AList.keys_nodup _) hnodup').mpr
        intro id'
        rw [← AList.mem_keys, hcache' id']
        rfl
      have hlen := hperm.length_eq
      simp only [lruIds, List.length_cons, List.length_map, AList.keys, List.keys] at hlen
      show taskTopoCache.entries.length ≤ maxCacheSize
      omega
  refine ⟨hcons, ?_, fun n hn => ?_⟩
  · show (cache.nextNode :: cache.lruList.map Prod.fst).Nodup
    -- The new node is larger than every node in use.
    refine List.nodup_cons.mpr ⟨fun hmem => ?_, hnodes⟩
    obtain ⟨n, hn, heq⟩ := List.mem_map.mp hmem
    exact absurd heq (Nat.ne_of_lt (hlt n hn))
  · show n.1 < cache.nextNode + 1
    rcases List.mem_cons.mp hn with rfl | hn
    · exact Nat.lt_succ_self _
    · exact Nat.lt_succ_of_lt (hlt n hn)

/-- A list element is determined by its image when the images are distinct. -/
private theorem eq_of_nodup_map {α β : Type} {f : α → β} {l : List α} (h : (l.map f).Nodup)
    {x y : α} (hx : x ∈ l) (hy : y ∈ l) (hxy : f x = f y) : x = y :=
  List.inj_on_of_nodup_map h hx hy hxy

/-- Step lemma for a lookup. On a hit the node of the id is replaced by a new front node. -/
theorem getCachedTaskTopo_lruInv (h : LruInv cache) (id : TaskId) :
    LruInv (cache.getCachedTaskTopo id).2 := by
  unfold TopoCache.getCachedTaskTopo
  cases hhit : cache.taskTopoCache.lookup id with
  | none => exact h
  | some topo =>
    have hcached : id ∈ cache.taskTopoCache := AList.lookup_isSome.mp (by simp [hhit])
    have hid : id ∈ lruIds cache := (h.mem_taskTopoCache id).mp hcached
    obtain ⟨node, hnode⟩ := Option.isSome_iff_exists.mp
      (AList.lookup_isSome.mpr ((h.mem_lruMap id).mpr hid))
    have hpos := h.position id node hnode
    unfold TopoCache.moveToFront
    simp only [hnode]
    -- Removing the node of `id` removes exactly the id `id`.
    have hmem : ∀ n, n ∈ cache.lruList.filter (fun n => decide (n.1 ≠ node)) ↔
        n ∈ cache.lruList ∧ n.2 ≠ id := by
      intro n
      rw [List.mem_filter, decide_eq_true_eq]
      refine and_congr_right fun hn => not_congr ⟨fun heq => ?_, fun heq => ?_⟩
      · exact congrArg Prod.snd (eq_of_nodup_map h.nodup_nodes hn hpos heq)
      · exact congrArg Prod.fst (eq_of_nodup_map h.nodup hn hpos heq)
    have hids : ∀ id', id' ∈ (cache.lruList.filter
        (fun n => decide (n.1 ≠ node))).map Prod.snd ↔ id' ∈ lruIds cache ∧ id' ≠ id := by
      intro id'
      simp only [List.mem_map, hmem, lruIds]
      refine ⟨fun ⟨n, hn, heq⟩ => ?_, fun ⟨⟨n, hn, heq⟩, hne⟩ => ?_⟩
      · subst heq
        exact ⟨⟨n, hn.1, rfl⟩, hn.2⟩
      · subst heq
        exact ⟨n, ⟨hn, hne⟩, rfl⟩
    have hsub := List.filter_sublist (p := fun n : NodeId × TaskId => decide (n.1 ≠ node))
      (l := cache.lruList)
    -- The list without that node has room for a new front node.
    have hshort : (cache.lruList.filter (fun n => decide (n.1 ≠ node))).length <
        cache.lruList.length :=
      List.length_filter_lt_length_iff_exists.mpr ⟨(node, id), hpos, by simp⟩
    have hsize := h.size_le
    rw [h.length_eq] at hsize
    refine pushFront_lruInv { cache with
      lruList := cache.lruList.filter fun n => decide (n.1 ≠ node) } cache.taskTopoCache
      (h.nodup.sublist (hsub.map _)) (fun hin => ((hids id).mp hin).2 rfl) (fun id' hne => ?_)
      (fun id' => ?_) (fun id' node' hne hlookup => ?_) (h.nodup_nodes.sublist (hsub.map _))
      (fun n hn => h.node_lt n ((hmem n).mp hn).1) (Nat.lt_of_lt_of_le hshort hsize)
    · exact ((h.mem_lruMap id').trans (and_iff_left hne).symm).trans (hids id').symm
    · rw [h.mem_taskTopoCache id']
      show _ ↔ id' = id ∨ id' ∈ (cache.lruList.filter
        (fun n => decide (n.1 ≠ node))).map Prod.snd
      rw [hids id']
      by_cases heq : id' = id
      · simp [heq, hid]
      · simp [heq]
    · exact (hmem (node', id')).mpr ⟨h.position id' node' hlookup, hne⟩

/-- Eviction drops the last node together with everything stored for its id. -/
private theorem evictOldCache_lruInv (h : LruInv cache) : LruInv cache.evictOldCache := by
  unfold TopoCache.evictOldCache
  cases hlast : cache.lruList.getLast? with
  | none => exact h
  | some oldest =>
    obtain ⟨kept, hlist⟩ := List.getLast?_eq_some_iff.mp hlast
    have hdrop : cache.lruList.dropLast = kept := by rw [hlist, List.dropLast_concat]
    have hids : lruIds cache = kept.map Prod.snd ++ [oldest.2] := by
      rw [lruIds, hlist, List.map_append, List.map_cons, List.map_nil]
    have hnodup := h.nodup
    rw [hids] at hnodup
    -- The id of the last node is in no other node.
    have hlastId : oldest.2 ∉ kept.map Prod.snd := fun hin =>
      (List.disjoint_of_nodup_append hnodup) hin List.mem_cons_self
    have hmem : ∀ id, id ∈ lruIds cache ∧ id ≠ oldest.2 ↔ id ∈ kept.map Prod.snd := by
      intro id
      rw [hids, List.mem_append, List.mem_singleton]
      refine ⟨fun hid => hid.1.resolve_right hid.2, fun hid => ⟨.inl hid, fun heq => ?_⟩⟩
      exact hlastId (heq ▸ hid)
    have hsub : kept.Sublist cache.lruList := hlist ▸ List.sublist_append_left kept [oldest]
    simp only [hdrop]
    refine ⟨⟨hnodup.of_append_left, fun id => ?_, fun id => ?_, fun id node hnode => ?_, ?_⟩,
      h.nodup_nodes.sublist (hsub.map _), fun n hn => h.node_lt n (hsub.subset hn)⟩
    · show id ∈ cache.lruMap.erase oldest.2 ↔ id ∈ kept.map Prod.snd
      rw [AList.mem_erase, h.mem_lruMap, ← hmem id, and_comm]
    · show id ∈ cache.taskTopoCache.erase oldest.2 ↔ id ∈ kept.map Prod.snd
      rw [AList.mem_erase, h.mem_taskTopoCache, ← hmem id, and_comm]
    · show (node, id) ∈ kept
      have hlookup : (cache.lruMap.erase oldest.2).lookup id = some node := hnode
      have hne : id ≠ oldest.2 := by
        intro heq
        rw [heq, AList.lookup_erase] at hlookup
        exact nomatch hlookup
      rw [AList.lookup_erase_ne hne] at hlookup
      have hpos := h.position id node hlookup
      rw [hlist, List.mem_append, List.mem_singleton] at hpos
      rcases hpos with hpos | hpos
      · exact hpos
      · exact absurd (congrArg Prod.snd hpos) hne
    · show (cache.taskTopoCache.erase oldest.2).entries.length ≤ maxCacheSize
      exact Nat.le_trans (List.Sublist.length_le (List.kerase_sublist _ _)) h.size_le

/-- After the eviction there is room for one more entry, and nothing was added. -/
private theorem makeRoom_lruInv (h : LruInv cache) : LruInv cache.makeRoom ∧
    cache.makeRoom.lruList.length < maxCacheSize ∧
    ∀ id, id ∈ lruIds cache.makeRoom → id ∈ lruIds cache := by
  unfold TopoCache.makeRoom
  have hlen := h.length_eq
  have hsize := h.size_le
  split
  · -- The cache is full: its list is not empty, and loses its last node.
    rename_i hfull
    refine ⟨evictOldCache_lruInv h, ?_, ?_⟩
    · unfold TopoCache.evictOldCache
      cases hlast : cache.lruList.getLast? with
      | none =>
        rw [List.getLast?_eq_none_iff] at hlast
        simp only [hlast]
        decide
      | some oldest =>
        have hne : cache.lruList.length ≠ 0 := by
          unfold maxCacheSize at hfull
          omega
        simp only [List.length_dropLast]
        omega
    · intro id
      unfold TopoCache.evictOldCache
      cases cache.lruList.getLast? with
      | none => exact fun hid => hid
      | some oldest =>
        intro hid
        exact (List.Sublist.map Prod.snd (List.dropLast_sublist _)).subset hid
  · exact ⟨h, by omega, fun _ hid => hid⟩

/-- Step lemma for `CacheTaskTopo` of an id that is not cached. -/
theorem cacheTaskTopo_lruInv (h : LruInv cache) (topo : TaskCollection)
    (hnew : id ∉ cache.taskTopoCache) : LruInv (cache.cacheTaskTopo id topo) := by
  obtain ⟨hinv, hroom, hsub⟩ := makeRoom_lruInv h
  rw [h.mem_taskTopoCache] at hnew
  exact pushFront_lruInv _ _ hinv.nodup (fun hid => hnew (hsub id hid))
    (fun id' _ => hinv.mem_lruMap id')
    (fun id' => by rw [AList.mem_insert, hinv.mem_taskTopoCache])
    (fun id' node _ hlookup => hinv.position id' node hlookup) hinv.nodup_nodes hinv.node_lt hroom

end Steps

/-! ## Runs of concurrent calls -/

/-- No step caches an id that is cached already: since the miss of the call no
    other call has cached its id. -/
def CachesNew (s : BuildThreads) : BuildAction → Prop
  | .getCachedTaskTopo _ _ _ _ => True
  | .cacheTaskTopo thread =>
    ∀ rootTaskId topo, s.pending.lookup thread = some (rootTaskId, topo) →
      rootTaskId ∉ s.cache.taskTopoCache

/-- Step lemma: every admitted step keeps the cache consistent. -/
private theorem step_lruInv (s : BuildThreads) (a : BuildAction) (s' : BuildThreads)
    (h : LruInv s.cache) (hok : CachesNew s a) (hstep : s.step a = some s') :
    LruInv s'.cache := by
  cases a with
  | getCachedTaskTopo thread rootTaskId container config =>
    have hcache := getCachedTaskTopo_lruInv h rootTaskId
    simp only [BuildThreads.step] at hstep
    split at hstep
    · exact nomatch hstep
    · -- A hit or a miss: the cache is the one the lookup leaves.
      split at hstep
      · rename_i topo cache hget
        rw [Option.some.injEq] at hstep
        rw [hget] at hcache
        rw [← hstep]
        exact hcache
      · rename_i cache hget
        obtain ⟨built, _, heq⟩ := Option.map_eq_some_iff.mp hstep
        rw [hget] at hcache
        rw [← heq]
        exact hcache
  -- The topology that was built outside of the lock is put in.
  | cacheTaskTopo thread =>
    simp only [BuildThreads.step] at hstep
    split at hstep
    · exact nomatch hstep
    · rename_i rootTaskId topo hpending
      rw [Option.some.injEq] at hstep
      rw [← hstep]
      exact cacheTaskTopo_lruInv h topo (hok rootTaskId topo hpending)

/-- Along every interleaving of `BuildTaskTopo` calls in which each
    `CacheTaskTopo` finds its id not cached, the three structures stay consistent. -/
theorem run_lruConsistent (actions : List BuildAction) (s : BuildThreads)
    (hok : Runs.AllSteps BuildThreads.step CachesNew .init actions)
    (hrun : Runs.run BuildThreads.step .init actions = some s) : LruConsistent s.cache :=
  (Runs.run_invariant step_lruInv empty_lruInv hok hrun).toLruConsistent

/-- A call on a registered root that misses and caches, then a second call that hits. -/
def missThenHit : List BuildAction :=
  [.getCachedTaskTopo 0 10001 ∅ ⟨∅, false⟩, .cacheTaskTopo 0,
    .getCachedTaskTopo 1 10001 ∅ ⟨∅, false⟩]

/-- A miss that fills the cache, and a hit. -/
theorem run_lruConsistent_missThenHit :
    ∃ s, Runs.run BuildThreads.step .init missThenHit = some s ∧ LruConsistent s.cache := by
  refine ⟨_, rfl, run_lruConsistent missThenHit _ ?_ rfl⟩
  refine .cons trivial rfl (.cons (fun rootTaskId topo _ => ?_) rfl (.cons trivial rfl trivial))
  exact AList.notMem_empty rootTaskId

/-- Two calls on one root that both miss before either caches. -/
def twoMisses : List BuildAction :=
  [.getCachedTaskTopo 0 10001 ∅ ⟨∅, false⟩, .getCachedTaskTopo 1 10001 ∅ ⟨∅, false⟩,
    .cacheTaskTopo 0, .cacheTaskTopo 1]

/-- After two misses the id is in `lruList_` twice. -/
theorem run_twoMisses_repeats :
    ∃ s, Runs.run BuildThreads.step .init twoMisses = some s ∧
      lruIds s.cache = [10001, 10001] ∧ ¬ LruConsistent s.cache :=
  ⟨_, rfl, rfl, fun h => absurd h.nodup (by decide)⟩

end HiDumper.Spec
