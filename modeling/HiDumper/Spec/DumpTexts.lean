import HiDumper.Native.TaskEntries
import HiDumper.Spec.SystemDump

/-!
# What the tasks of a dump do

`TaskControl` runs the tasks of a level at the same time, drops data as soon as no later task
declares it and runs a task that fails once more. None of this shows in what a task does: it
writes what it writes alone, behind the tasks that it depends on, and has the status that it
has then. The reason is that every data id is injected by one task only, which all that read
the id depend on; so in its level a task is alone with the ids it uses.

## Key results

- `inventory_at_level`: what the levels before it leave to a level
- `texts_of_task`: what a task of a run writes, and its status
-/

namespace HiDumper.Spec.DumpTexts

open HiDumper.Native HiDumper.Spec SystemDump StorePrograms

/-- The run of a task. -/
abbrev TaskReport := StorePrograms.Report DataId TaskData String DumpStatus

/-! ## One task -/

/-- A task by itself, with the second run that follows when the first one fails. -/
def runAlone (entry : Bool → TaskM DumpStatus) (store : DataId → Option TaskData) : TaskReport :=
  let first := (entry false).alone store
  if first.result = .dumpOk then first
  else
    let second := (entry true).alone (left store first.inserted)
    ⟨second.result, first.inserted ++ second.inserted, first.written ++ second.written⟩

/-- What a run is for `TaskControl`. -/
def attemptOf (report : TaskReport) : Attempt TaskData :=
  ⟨report.inserted.map fun entry => .inputToData entry.1 entry.2, report.result⟩

/-- `ExecuteSingleTask` of a task among others: it takes the time from 0 to `m`, and `behaviour`
    is what it has done. -/
inductive RunsTask (view : Nat → DataId → Option TaskData)
    (moves : Nat → Option (DataId × TaskData)) (m : Nat) (entry : Bool → TaskM DumpStatus)
    (behaviour : TaskBehaviour TaskData) : TaskReport → Prop where
  | once {report : TaskReport} (hrun : Runs view moves 0 m (entry false) report)
      (hok : report.result = .dumpOk) (hcreated : behaviour.created = some (attemptOf report)) :
      RunsTask view moves m entry behaviour report
  | twice {n : Nat} {first second : TaskReport} (hfirst : Runs view moves 0 n (entry false) first)
      (hfailed : first.result ≠ .dumpOk) (hcreated : behaviour.created = some (attemptOf first))
      (hsecond : Runs view moves n m (entry true) second)
      (hrecreated : behaviour.recreated = some (attemptOf second)) :
      RunsTask view moves m entry behaviour
        ⟨second.result, first.inserted ++ second.inserted, first.written ++ second.written⟩

section RunsTask

variable {view : Nat → DataId → Option TaskData} {moves : Nat → Option (DataId × TaskData)}
  {m : Nat} {entry : Bool → TaskM DumpStatus} {behaviour : TaskBehaviour TaskData}
  {report : TaskReport}

/-- `TaskControl` sees what the task has inserted and the status of the last run. -/
theorem RunsTask.executeSingleTask (h : RunsTask view moves m entry behaviour report)
    {info : RegTaskInfo} (hcreator : info.creator = true) :
    (executeSingleTask info behaviour).dumpStatus = report.result ∧
      (Native.executeSingleTask info behaviour).ops =
        report.inserted.map fun entry => .inputToData entry.1 entry.2 := by
  unfold Native.executeSingleTask createTask
  simp only [hcreator, Bool.not_true, Bool.false_eq_true, ↓reduceIte]
  cases h with
  | once _ hok hcreated => simp [hcreated, attemptOf, hok]
  | @twice _ first second _ hfailed hcreated _ hrecreated =>
    have hretry : handleTaskRetry behaviour = ⟨(attemptOf second).ops, second.result,
        some (decide (second.result = .dumpOk))⟩ := by
      unfold handleTaskRetry
      rw [hrecreated]
      by_cases hok : second.result = .dumpOk <;> simp [attemptOf, hok]
    simp only [hcreated, attemptOf, hretry, hfailed, ne_eq, not_false_eq_true, ↓reduceIte,
      List.map_append, and_self]

/-- What the task does to the inventory it has inserted. -/
theorem RunsTask.mem_ops (h : RunsTask view moves m entry behaviour report) {info : RegTaskInfo}
    {o : InventoryOp TaskData} (ho : o ∈ (Native.executeSingleTask info behaviour).ops) :
    ∃ entry ∈ report.inserted, o = .inputToData entry.1 entry.2 := by
  cases hcreator : info.creator with
  | false => simp [Native.executeSingleTask, createTask, hcreator] at ho
  | true =>
    rw [(h.executeSingleTask hcreator).2, List.mem_map] at ho
    obtain ⟨entry, hentry, rfl⟩ := ho
    exact ⟨entry, hentry, rfl⟩

variable {inserts finds : DataId → Prop} {writes : Prop}

/-- A task inserts only under the keys that it may use. -/
theorem RunsTask.mem_inserted (h : RunsTask view moves m entry behaviour report)
    (honly : ∀ retry, (entry retry).Only inserts finds writes) {e : DataId × TaskData}
    (he : e ∈ report.inserted) : inserts e.1 := by
  cases h with
  | once hrun => exact hrun.mem_inserted (honly false) he
  | twice hfirst _ _ hsecond =>
    rcases List.mem_append.mp he with he | he
    · exact hfirst.mem_inserted (honly false) he
    · exact hsecond.mem_inserted (honly true) he

/-- On keys of its own a task does what it does alone. -/
theorem RunsTask.eq_runAlone (h : RunsTask view moves m entry behaviour report)
    {keys : DataId → Prop} (honly : ∀ retry, (entry retry).Only keys keys writes)
    (hisolated : Isolated view moves keys 0 m) {store : DataId → Option TaskData}
    (hstore : ∀ k, keys k → view 0 k = store k) :
    report = runAlone entry store ∧ ∀ k, keys k → view m k = left store report.inserted k := by
  unfold runAlone
  cases h with
  | once hrun hok =>
    obtain ⟨heq, hleft⟩ := hrun.eq_alone (honly false) hisolated hstore
    rw [heq] at hok
    simp only [hok, ↓reduceIte]
    exact ⟨heq, hleft⟩
  -- The retry meets what the first attempt has left, as it does alone.
  | twice hfirst hfailed _ hsecond =>
    have hle := hfirst.le
    have hle' := hsecond.le
    obtain ⟨heq, hmid⟩ := hfirst.eq_alone (honly false)
      (fun i hi hin => hisolated i hi (by omega)) hstore
    obtain ⟨heq', hleft⟩ := hsecond.eq_alone (honly true)
      (fun i hi him => hisolated i (by omega) him) hmid
    rw [heq] at hfailed heq'
    simp only [hfailed, ↓reduceIte]
    refine ⟨by rw [heq', heq], fun k hk => ?_⟩
    rw [left_append]
    exact hleft k hk

/-- A task depends on the keys it may use only. -/
private theorem runAlone_congr (honly : ∀ retry, (entry retry).Only inserts finds writes)
    {keys : DataId → Prop} (hinserts : ∀ k, inserts k → keys k) (hfinds : ∀ k, finds k → keys k)
    {store store' : DataId → Option TaskData} (heq : ∀ k, keys k → store k = store' k) :
    runAlone entry store = runAlone entry store' := by
  have hfirst := Program.alone_congr (honly false) hinserts hfinds heq
  have hleft : ∀ k, keys k → left store ((entry false).alone store).inserted k =
      left store' ((entry false).alone store).inserted k := left_congr heq _
  have hsecond := Program.alone_congr (honly true) hinserts hfinds hleft
  unfold runAlone
  simp only [hfirst] at hsecond ⊢
  rw [hsecond]

/-- Alone, too, a task inserts only under the keys that it may use. -/
private theorem mem_inserted_runAlone (honly : ∀ retry, (entry retry).Only inserts finds writes)
    {store : DataId → Option TaskData} {e : DataId × TaskData}
    (he : e ∈ (runAlone entry store).inserted) : inserts e.1 := by
  unfold runAlone at he
  simp only at he
  split at he
  · exact (honly false).mem_inserted he
  · rcases List.mem_append.mp he with he | he
    · exact (honly false).mem_inserted he
    · exact (honly true).mem_inserted he

/-- A task that may not write has written nothing in the end. -/
theorem written_runAlone (honly : ∀ retry, (entry retry).Only inserts finds False)
    (store : DataId → Option TaskData) : (runAlone entry store).written = [] := by
  unfold runAlone
  simp only
  split
  · exact (honly false).written_eq_nil store
  · rw [(honly false).written_eq_nil, (honly true).written_eq_nil]
    rfl

end RunsTask

/-! ## One level -/

/-- The inventory once `i` events of a level have happened. -/
def levelView (s : RunState TaskData) (level : LevelTrace TaskData) (i : Nat) :
    DataId → Option TaskData :=
  fun d => ((level.events.take i).foldl RunState.apply s).dataInventory.lookup d

/-- What task `t` inserts with event `i`. -/
def levelMoves (level : LevelTrace TaskData) (t : TaskId) (i : Nat) :
    Option (DataId × TaskData) :=
  match level.events[i]? with
  | some (t', .op (.inputToData d v)) => if t' = t then some (d, v) else none
  | _ => none

/-- The state when level `i` of a run begins. -/
def levelStart (s : RunState TaskData) (r : RunResult TaskData) (i : Nat) : RunState TaskData :=
  ((r.levels.take i).flatMap LevelTrace.steps).foldl RunState.applyStep s

/-- The run `r` of the tasks that `entry` says, with what they write, level by level, in the
    order in which they write it. -/
structure FollowsEntries (entry : TaskId → Bool → TaskM DumpStatus) (env : TaskEnv TaskData)
    (s : RunState TaskData) (r : RunResult TaskData) (output : List (List (TaskId × String))) :
    Prop where
  length : output.length = r.levels.length
  writer : ∀ (i : Nat) (level : LevelTrace TaskData) (texts : List (TaskId × String)),
    r.levels[i]? = some level → output[i]? = some texts → ∀ text ∈ texts, text.1 ∈ level.started
  task : ∀ (i : Nat) (level : LevelTrace TaskData) (texts : List (TaskId × String)),
    r.levels[i]? = some level → output[i]? = some texts → ∀ t ∈ level.started, ∃ report,
      RunsTask (levelView (levelStart s r i) level) (levelMoves level t) level.events.length
        (entry t) (env.behaviour t) report ∧
      report.written = (texts.filter fun text => decide (text.1 = t)).map (·.2)

/-- What an event inserts. -/
def insertions : TaskEvent TaskData → List (DataId × TaskData)
  | .op (.inputToData d v) => [(d, v)]
  | _ => []

/-- Where nothing is removed, an event does its insertions. -/
private theorem lookup_apply (s : RunState TaskData) (t : TaskId) {e : TaskEvent TaskData}
    (hop : ∀ o, e = .op o → ∃ d v, o = .inputToData d v) (k : DataId) :
    (s.apply (t, e)).dataInventory.lookup k =
      left (fun d => s.dataInventory.lookup d) (insertions e) k := by
  cases e with
  | start => rfl
  | updateFailureCount reset => rfl
  | op o =>
    obtain ⟨d, v, rfl⟩ := hop o rfl
    show (s.dataInventory.emplace d v).lookup k =
      emplaced (fun d => s.dataInventory.lookup d) (d, v) k
    rw [AList.lookup_emplace]
    unfold emplaced
    by_cases hk : k = d
    · rw [hk, Function.update_self, if_pos rfl]
    · rw [Function.update_of_ne hk, if_neg hk, Option.or_none]

/-- Where all insertions of a level under the given keys are those of one task, the task is
    alone with them. -/
theorem isolated_level {s : RunState TaskData} {level : LevelTrace TaskData} {t : TaskId}
    {keys : DataId → Prop}
    (hops : ∀ t' o, (t', .op o) ∈ level.events → ∃ d v, o = .inputToData d v)
    (hown : ∀ t' d v, (t', .op (.inputToData d v)) ∈ level.events → keys d → t' = t) :
    Isolated (levelView s level) (levelMoves level t) keys 0 level.events.length := by
  intro i _ hi k hk
  unfold levelView levelMoves
  obtain ⟨⟨t', e⟩, hevent⟩ : ∃ event, level.events[i]? = some event :=
    ⟨_, List.getElem?_eq_getElem hi⟩
  have hmem := List.mem_of_getElem? hevent
  rw [List.take_add_one, hevent, Option.toList_some, List.foldl_append, List.foldl_cons,
    List.foldl_nil, lookup_apply _ t' fun o ho => hops t' o (ho ▸ hmem)]
  cases e with
  | start => rfl
  | updateFailureCount reset => rfl
  | op o =>
    obtain ⟨d, v, rfl⟩ := hops t' o hmem
    by_cases ht : t' = t
    · simp only [ht, insertions, ↓reduceIte, Option.toList_some]
    · -- An insertion of another task is under another key.
      simp only [ht, insertions, ↓reduceIte, Option.toList_none, left_nil, left_cons]
      exact emplaced_of_ne fun hkd : k = d => ht (hown t' d v hmem (hkd ▸ hk))

/-- Events that insert nothing under `d` leave it as it is. -/
private theorem lookup_foldl_apply {events : List (TaskId × TaskEvent TaskData)} {d : DataId}
    (hops : ∀ t o, (t, .op o) ∈ events → ∃ d' v, o = .inputToData d' v ∧ d' ≠ d)
    (s : RunState TaskData) :
    (events.foldl RunState.apply s).dataInventory.lookup d = s.dataInventory.lookup d := by
  induction events generalizing s with
  | nil => rfl
  | cons event events ih =>
    obtain ⟨t, e⟩ := event
    rw [List.foldl_cons, ih fun t o ho => hops t o (List.mem_cons_of_mem _ ho),
      lookup_apply s t fun o ho => ?_]
    · cases e with
      | start => rfl
      | updateFailureCount reset => rfl
      | op o =>
        obtain ⟨d', v, rfl, hne⟩ := hops t o List.mem_cons_self
        show emplaced (fun d => s.dataInventory.lookup d) (d', v) d = s.dataInventory.lookup d
        exact emplaced_of_ne hne.symm
    · obtain ⟨d', v, ho', -⟩ := hops t o (ho ▸ List.mem_cons_self)
      exact ⟨d', v, ho'⟩

/-! ## The inventory from level to level -/

/-- Every data id has one task that injects it, a leaf, and all that declare the id depend on
    that task. Roots look at the ids they declare, and only roots write. -/
structure Owned (container : TaskCollection) (entry : TaskId → Bool → TaskM DumpStatus)
    (injected : TaskId → List DataId) : Prop where
  leaf : ∀ t, t ≤ rootTaskStart → ∀ retry,
    (entry t retry).Only (· ∈ injected t) (· ∈ injected t) False
  root : ∀ t, rootTaskStart < t → ∀ retry,
    (entry t retry).Only (fun _ => False) (DeclaresData container t) True
  injected_leaf : ∀ t d, d ∈ injected t → t ≤ rootTaskStart
  owner : ∀ t t' d, d ∈ injected t → d ∈ injected t' → t = t'
  depends : ∀ t d, DeclaresData container t d → ∃ p, d ∈ injected p ∧ DependsOn container t p
  registered : ∀ t info, container.lookup t = some info →
    info.creator = true ∧ info.taskDependency.Nodup

/-- What a leaf leaves in an inventory that has nothing of it. -/
def leafStore (entry : TaskId → Bool → TaskM DumpStatus) (p : TaskId) : DataId → Option TaskData :=
  left (fun _ => none) (runAlone (entry p) fun _ => none).inserted

/-- The tasks of the first `i` levels. -/
private theorem mem_started_take {V : Type} {levels : List (LevelTrace V)} {i : Nat} {t : TaskId} :
    t ∈ (levels.take i).flatMap LevelTrace.started ↔
      ∃ (j : Nat) (level : LevelTrace V), j < i ∧ levels[j]? = some level ∧ t ∈ level.started := by
  rw [List.mem_flatMap]
  constructor
  · rintro ⟨level, hmem, ht⟩
    obtain ⟨j, hj, hget⟩ := List.mem_take_iff_getElem.mp hmem
    exact ⟨j, level, by omega, List.getElem?_eq_some_iff.mpr ⟨by omega, hget⟩, ht⟩
  · rintro ⟨j, level, hj, hjlevel, ht⟩
    obtain ⟨hlt, hget⟩ := List.getElem?_eq_some_iff.mp hjlevel
    exact ⟨level, List.mem_take_iff_getElem.mpr ⟨j, by omega, hget⟩, ht⟩

section Run

variable {container : TaskCollection} {config : TaskEnableConfig} {excluded : TaskId → Bool}
  {roots : List TaskId} {entry : TaskId → Bool → TaskM DumpStatus}
  {injected : TaskId → List DataId} {env : TaskEnv TaskData} {s : RunState TaskData}
  {r : RunResult TaskData} {output : List (List (TaskId × String))}
  (howned : Owned container entry injected)
  (hruns : RunsRoots env container config excluded roots r)
  (hfollows : FollowsEntries entry env s r output)

include hfollows in
/-- Every level has its texts. -/
private theorem exists_texts {i : Nat} {level : LevelTrace TaskData}
    (hi : r.levels[i]? = some level) :
    ∃ texts, output[i]? = some texts := by
  have hlt := (List.getElem?_eq_some_iff.mp hi).1
  exact ⟨_, List.getElem?_eq_getElem (by rw [hfollows.length]; exact hlt)⟩

/-- No task starts in two levels. -/
private theorem started_once (hruns : RunsRoots env container config excluded roots r) {i j : Nat}
    {level level' : LevelTrace TaskData} {t : TaskId} (hi : r.levels[i]? = some level)
    (hj : r.levels[j]? = some level') (ht : t ∈ level.started) (ht' : t ∈ level'.started) :
    i = j := by
  have hpair := (List.nodup_flatMap.mp hruns.once).2
  rw [List.pairwise_iff_getElem] at hpair
  obtain ⟨hilt, rfl⟩ := List.getElem?_eq_some_iff.mp hi
  obtain ⟨hjlt, rfl⟩ := List.getElem?_eq_some_iff.mp hj
  rcases Nat.lt_trichotomy i j with hlt | heq | hgt
  · exact absurd ht' (hpair i j hilt hjlt hlt ht)
  · exact heq
  · exact absurd ht (hpair j i hjlt hilt hgt ht')

include howned hruns hfollows

/-- All that the tasks do to the inventory is to insert, each under the ids that it owns. -/
private theorem mem_events {i : Nat} {level : LevelTrace TaskData} (hi : r.levels[i]? = some level)
    {t : TaskId} {o : InventoryOp TaskData} (ho : (t, .op o) ∈ level.events) :
    t ∈ level.started ∧ ∃ d v, o = .inputToData d v ∧ d ∈ injected t := by
  obtain ⟨hstarted, info, hop⟩ := hruns.ops level (List.mem_of_getElem? hi) t o ho
  obtain ⟨texts, htexts⟩ := exists_texts hfollows hi
  obtain ⟨report, hrun, -⟩ := hfollows.task i level texts hi htexts t hstarted
  obtain ⟨e, he, rfl⟩ := hrun.mem_ops hop
  refine ⟨hstarted, e.1, e.2, rfl, ?_⟩
  by_cases hleaf : t ≤ rootTaskStart
  · exact hrun.mem_inserted (howned.leaf t hleaf) he
  · exact (hrun.mem_inserted (howned.root t (UInt32.not_le.mp hleaf)) he).elim

/-- A level leaves the data of the tasks that are not in it. -/
private theorem lookup_events_of_notMem {i : Nat} {level : LevelTrace TaskData}
    (hi : r.levels[i]? = some level) {p : TaskId} {d : DataId} (hd : d ∈ injected p)
    (hp : p ∉ level.started) (s' : RunState TaskData) :
    (level.events.foldl RunState.apply s').dataInventory.lookup d = s'.dataInventory.lookup d := by
  refine lookup_foldl_apply (fun t o ho => ?_) s'
  obtain ⟨ht, d', v, rfl, hd'⟩ := mem_events howned hruns hfollows hi ho
  exact ⟨d', v, rfl, fun heq => hp (howned.owner t p d (heq ▸ hd') hd ▸ ht)⟩

/-- A leaf in its level. -/
private theorem leaf_in_level {i : Nat} {level : LevelTrace TaskData}
    (hi : r.levels[i]? = some level)
    {p : TaskId} (hleaf : p ≤ rootTaskStart)
    {report : TaskReport} (hrun : RunsTask (levelView (levelStart s r i) level)
      (levelMoves level p) level.events.length (entry p) (env.behaviour p) report)
    (hnone : ∀ d ∈ injected p, (levelStart s r i).dataInventory.lookup d = none) :
    report = runAlone (entry p) (fun _ => none) ∧ ∀ d ∈ injected p,
      (level.events.foldl RunState.apply (levelStart s r i)).dataInventory.lookup d =
        leafStore entry p d := by
  have hisolated : Isolated (levelView (levelStart s r i) level) (levelMoves level p)
      (· ∈ injected p) 0 level.events.length := by
    refine isolated_level (fun t o ho => ?_) fun t d v ho hd => ?_
    · obtain ⟨-, d, v, heq, -⟩ := mem_events howned hruns hfollows hi ho
      exact ⟨d, v, heq⟩
    · obtain ⟨-, d', v', heq, hd'⟩ := mem_events howned hruns hfollows hi ho
      obtain ⟨rfl, -⟩ := InventoryOp.inputToData.inj heq
      exact howned.owner t p d hd' hd
  obtain ⟨hreport, hleft⟩ := hrun.eq_runAlone (howned.leaf p hleaf) hisolated hnone
  refine ⟨hreport, fun d hd => ?_⟩
  have hend := hleft d hd
  unfold levelView at hend
  rw [List.take_length] at hend
  rw [hend, hreport]
  rfl

/-- What the levels before it leave to level `i`: nothing of a task that has not run, and all
    of a task that has run as long as a task is to come that declares it. -/
theorem inventory_at_level (hs : s.dataInventory = ∅) (i : Nat) (hi : i ≤ r.levels.length)
    {p : TaskId} {d : DataId} (hd : d ∈ injected p) :
    (p ∉ (r.levels.take i).flatMap LevelTrace.started →
      (levelStart s r i).dataInventory.lookup d = none) ∧
    (p ∈ (r.levels.take i).flatMap LevelTrace.started →
      ∀ (j : Nat) (level : LevelTrace TaskData) (t : TaskId), i ≤ j →
        r.levels[j]? = some level → t ∈ level.started → DeclaresData container t d →
        (levelStart s r i).dataInventory.lookup d = leafStore entry p d) := by
  induction i generalizing p d with
  | zero =>
    refine ⟨fun _ => ?_, fun h => absurd h List.not_mem_nil⟩
    show s.dataInventory.lookup d = none
    rw [hs]
    exact AList.lookup_empty d
  | succ i ih =>
    obtain ⟨level, hlevel⟩ : ∃ level, r.levels[i]? = some level :=
      ⟨_, List.getElem?_eq_getElem (by omega)⟩
    -- The state after level `i`: its events, and the release if the run goes on.
    have hstate : levelStart s r (i + 1) =
        level.steps.foldl RunState.applyStep (levelStart s r i) := by
      unfold levelStart
      rw [List.take_add_one, hlevel, Option.toList_some, List.flatMap_append,
        List.flatMap_singleton, List.foldl_append]
    have hrelease : (levelStart s r (i + 1)).dataInventory.lookup d =
        if level.executeResult = true ∧ d ∉ usingData level.tasks then none
        else (level.events.foldl RunState.apply (levelStart s r i)).dataInventory.lookup d := by
      rw [hstate, foldl_steps]
      cases level.executeResult with
      | false => simp
      | true =>
        simp only [↓reduceIte, releaseNoUsedData, lookup_removeRestData, true_and]
        by_cases hkeep : d ∈ usingData level.tasks <;> simp [hkeep]
    have hstarted : (r.levels.take (i + 1)).flatMap LevelTrace.started =
        (r.levels.take i).flatMap LevelTrace.started ++ level.started := by
      rw [List.take_add_one, hlevel, Option.toList_some, List.flatMap_append,
        List.flatMap_singleton]
    rw [hstarted, List.mem_append, not_or]
    obtain ⟨hnone, hsome⟩ := ih (by omega) hd
    refine ⟨fun hnot => ?_, fun hp j level' t hij hj ht hdecl => ?_⟩
    · rw [hrelease, lookup_events_of_notMem howned hruns hfollows hlevel hd hnot.2, hnone hnot.1,
        ite_self]
    · -- What `t` declares is kept.
      have hkept := hruns.kept i j level level' t d (by omega) hlevel hj ht hdecl
      rw [hrelease, if_neg fun h => h.2 hkept]
      by_cases hhere : p ∈ level.started
      · obtain ⟨texts, htexts⟩ := exists_texts hfollows hlevel
        obtain ⟨report, hrun, -⟩ := hfollows.task i level texts hlevel htexts p hhere
        have hbefore : p ∉ (r.levels.take i).flatMap LevelTrace.started := by
          intro hbefore
          obtain ⟨k, earlier, hk, hget, hearlier⟩ := mem_started_take.mp hbefore
          exact absurd (started_once hruns hget hlevel hearlier hhere) (Nat.ne_of_lt hk)
        exact (leaf_in_level howned hruns hfollows hlevel (howned.injected_leaf p d hd) hrun
          fun d' hd' => (ih (by omega) hd').1 hbefore).2 d hd
      · rw [lookup_events_of_notMem howned hruns hfollows hlevel hd hhere]
        exact hsome (hp.resolve_right hhere) j level' t (by omega) hj ht hdecl

end Run

/-! ## A task behind the ones it waits for -/

/-- The tasks that a task waits for, in the order in which they are registered. -/
def dependencies (container : TaskCollection) (config : TaskEnableConfig) (t : TaskId) :
    List TaskId :=
  match container.lookup t with
  | none => []
  | some info => info.taskDependency.filter config.isTaskEnabled

/-- What tasks leave that run one after the other. -/
def leavesStore (entry : TaskId → Bool → TaskM DumpStatus) (leaves : List TaskId)
    (store : DataId → Option TaskData) : DataId → Option TaskData :=
  leaves.foldl (fun store p => left store (runAlone (entry p) store).inserted) store

/-- A task by itself: first the tasks that it waits for, one after the other, then the task. -/
def plainReport (entry : TaskId → Bool → TaskM DumpStatus) (container : TaskCollection)
    (config : TaskEnableConfig) (t : TaskId) : TaskReport :=
  runAlone (entry t) (leavesStore entry (dependencies container config t) fun _ => none)

/-- The dependencies of a task are those that the configuration enables. -/
private theorem mem_dependencies {container : TaskCollection} {config : TaskEnableConfig}
    {t p : TaskId} :
    p ∈ dependencies container config t ↔ EnabledDependsOn container config t p := by
  unfold dependencies EnabledDependsOn DependsOn
  cases container.lookup t with
  | none => simp
  | some info => simp

section Leaves

variable {container : TaskCollection} {entry : TaskId → Bool → TaskM DumpStatus}
  {injected : TaskId → List DataId} (howned : Owned container entry injected)

include howned

/-- A leaf leaves the ids of other tasks alone. -/
private theorem left_of_notMem_injected {p : TaskId} (hleaf : p ≤ rootTaskStart) {d : DataId}
    (hd : d ∉ injected p) (store store' : DataId → Option TaskData) :
    left store (runAlone (entry p) store').inserted d = store d := by
  refine left_of_notMem fun hmem => hd ?_
  obtain ⟨e, he, rfl⟩ := List.mem_map.mp hmem
  exact mem_inserted_runAlone (howned.leaf p hleaf) he

/-- The leaves leave the data of others alone. -/
private theorem leavesStore_of_notMem {leaves : List TaskId}
    (hleaf : ∀ p ∈ leaves, p ≤ rootTaskStart)
    {d : DataId} (hd : ∀ p ∈ leaves, d ∉ injected p) (store : DataId → Option TaskData) :
    leavesStore entry leaves store d = store d := by
  induction leaves generalizing store with
  | nil => rfl
  | cons q leaves ih =>
    show leavesStore entry leaves (left store (runAlone (entry q) store).inserted) d = store d
    rw [ih (fun p hp => hleaf p (List.mem_cons_of_mem q hp))
        (fun p hp => hd p (List.mem_cons_of_mem q hp)),
      left_of_notMem_injected howned (hleaf q List.mem_cons_self) (hd q List.mem_cons_self)]

/-- Each of the leaves leaves what it leaves alone. -/
private theorem leavesStore_of_mem {leaves : List TaskId} (hnodup : leaves.Nodup)
    (hleaf : ∀ p ∈ leaves, p ≤ rootTaskStart) {store : DataId → Option TaskData}
    (hstore : ∀ p ∈ leaves, ∀ d ∈ injected p, store d = none) {p : TaskId} (hp : p ∈ leaves)
    {d : DataId} (hd : d ∈ injected p) : leavesStore entry leaves store d = leafStore entry p d := by
  induction leaves generalizing store with
  | nil => exact nomatch hp
  | cons q leaves ih =>
    show leavesStore entry leaves (left store (runAlone (entry q) store).inserted) d = _
    have hq := hleaf q List.mem_cons_self
    have hrest : ∀ p ∈ leaves, p ≤ rootTaskStart := fun p hp =>
      hleaf p (List.mem_cons_of_mem q hp)
    obtain ⟨hnot, hnodup⟩ := List.nodup_cons.mp hnodup
    rcases List.mem_cons.mp hp with rfl | hp
    · -- None of the later ones has the id.
      rw [leavesStore_of_notMem howned hrest fun p' hp' hd' =>
        hnot (howned.owner p p' d hd hd' ▸ hp')]
      have hnone : ∀ k, k ∈ injected p → store k = (fun _ => none) k :=
        hstore p List.mem_cons_self
      rw [runAlone_congr (howned.leaf p hq) (fun _ h => h) (fun _ h => h) hnone]
      exact left_congr hnone _ d hd
    · refine ih hnodup hrest (fun p' hp' d' hd' => ?_) hp
      rw [left_of_notMem_injected howned hq fun hq' => hnot (howned.owner p' q d' hd' hq' ▸ hp')]
      exact hstore p' (List.mem_cons_of_mem q hp') d' hd'

end Leaves

section Tasks

variable {container : TaskCollection} {config : TaskEnableConfig} {excluded : TaskId → Bool}
  {roots : List TaskId} {entry : TaskId → Bool → TaskM DumpStatus}
  {injected : TaskId → List DataId} {env : TaskEnv TaskData} {s : RunState TaskData}
  {r : RunResult TaskData} {output : List (List (TaskId × String))}
  (howned : Owned container entry injected)
  (hruns : RunsRoots env container config excluded roots r)
  (hfollows : FollowsEntries entry env s r output)

/-- A task that is started is enabled. -/
private theorem enabled_of_started (hruns : RunsRoots env container config excluded roots r)
    {i : Nat}
    {level : LevelTrace TaskData} (hi : r.levels[i]? = some level) {t : TaskId}
    (ht : t ∈ level.started) : config.isTaskEnabled t = true := by
  obtain ⟨-, -, root, -, henabled, hbelongs⟩ :=
    hruns.started t (List.mem_flatMap.mpr ⟨level, List.mem_of_getElem? hi, ht⟩)
  rcases hbelongs with rfl | hdep
  · exact henabled
  · exact hdep.2

include howned hruns hfollows

/-- A root in its level does what it does alone behind the tasks that it waits for. -/
private theorem root_in_level (hflat : RootsAndLeaves container) (hs : s.dataInventory = ∅)
    {i : Nat}
    {level : LevelTrace TaskData} (hi : r.levels[i]? = some level) {root : TaskId}
    (hroot : root ∈ level.started) (hstart : rootTaskStart < root) {report : TaskReport}
    (hrun : RunsTask (levelView (levelStart s r i) level) (levelMoves level root)
      level.events.length (entry root) (env.behaviour root) report) :
    report = plainReport entry container config root := by
  have hilt := (List.getElem?_eq_some_iff.mp hi).1
  -- What an enabled dependency injects is there before the level begins.
  have hearlier : ∀ p, EnabledDependsOn container config root p →
      ∃ (j : Nat) (level' : LevelTrace TaskData), j < i ∧ r.levels[j]? = some level' ∧
        p ∈ level'.started := fun p hp => hruns.order i level root p hi hroot (.inl hp)
  have hisolated : Isolated (levelView (levelStart s r i) level) (levelMoves level root)
      (DeclaresData container root) 0 level.events.length := by
    refine isolated_level (fun t o ho => ?_) fun t d v ho hd => ?_
    · obtain ⟨-, d, v, heq, -⟩ := mem_events howned hruns hfollows hi ho
      exact ⟨d, v, heq⟩
    · -- The task that owns the id has run in an earlier level, so it is not in this one.
      obtain ⟨ht, d', v', heq, hd'⟩ := mem_events howned hruns hfollows hi ho
      obtain ⟨rfl, -⟩ := InventoryOp.inputToData.inj heq
      obtain ⟨p, hp, hdep⟩ := howned.depends root d hd
      obtain rfl := howned.owner t p d hd' hp
      obtain ⟨j, level', hj, hjlevel, hmem⟩ :=
        hearlier t ⟨hdep, enabled_of_started hruns hi ht⟩
      exact absurd (started_once hruns hjlevel hi hmem ht) (Nat.ne_of_lt hj)
  refine (hrun.eq_runAlone (fun retry => (howned.root root hstart retry).mono
    (fun _ h => h.elim) (fun _ h => h) id) hisolated fun d hd => ?_).1
  show (levelStart s r i).dataInventory.lookup d = _
  obtain ⟨p, hp, hdep⟩ := howned.depends root d hd
  have hinventory := inventory_at_level howned hruns hfollows hs i (Nat.le_of_lt hilt) hp
  have hleaves : ∀ q ∈ dependencies container config root, q ≤ rootTaskStart := fun q hq =>
    (hflat root q (mem_dependencies.mp hq).1).2
  by_cases henabled : config.isTaskEnabled p = true
  · obtain ⟨j, level', hj, hjlevel, hmem⟩ := hearlier p ⟨hdep, henabled⟩
    have hbefore : p ∈ (r.levels.take i).flatMap LevelTrace.started :=
      mem_started_take.mpr ⟨j, level', hj, hjlevel, hmem⟩
    have hnodup : (dependencies container config root).Nodup := by
      obtain ⟨info, hinfo, -⟩ := hdep
      unfold dependencies
      rw [hinfo]
      exact (howned.registered root info hinfo).2.filter _
    rw [hinventory.2 hbefore i level root (Nat.le_refl i) hi hroot hd,
      leavesStore_of_mem howned hnodup hleaves (fun _ _ _ _ => rfl)
        (mem_dependencies.mpr ⟨hdep, henabled⟩) hp]
  · -- A task that is not enabled has not run and does not run alone either.
    rw [hinventory.1 fun hbefore => ?_, leavesStore_of_notMem howned hleaves fun q hq hd' => ?_]
    · exact henabled (howned.owner p q d hp hd' ▸ (mem_dependencies.mp hq).2)
    · obtain ⟨j, level', -, hjlevel, hmem⟩ := mem_started_take.mp hbefore
      exact henabled (enabled_of_started hruns hjlevel hmem)

/-- A task in its level does what it does alone behind the tasks that it waits for. -/
private theorem task_in_level (hflat : RootsAndLeaves container) (hs : s.dataInventory = ∅)
    {i : Nat}
    {level : LevelTrace TaskData} (hi : r.levels[i]? = some level) {t : TaskId}
    (ht : t ∈ level.started) {report : TaskReport}
    (hrun : RunsTask (levelView (levelStart s r i) level) (levelMoves level t)
      level.events.length (entry t) (env.behaviour t) report) :
    report = plainReport entry container config t := by
  by_cases hleaf : t ≤ rootTaskStart
  · -- A leaf waits for nothing, and what it injects nobody has injected before.
    have hnone : dependencies container config t = [] :=
      List.eq_nil_iff_forall_not_mem.mpr fun p hp =>
        UInt32.not_lt.mpr hleaf (hflat t p (mem_dependencies.mp hp).1).1
    have hilt := (List.getElem?_eq_some_iff.mp hi).1
    unfold plainReport
    rw [hnone]
    refine (leaf_in_level howned hruns hfollows hi hleaf hrun fun d hd => ?_).1
    refine (inventory_at_level howned hruns hfollows hs i (Nat.le_of_lt hilt) hd).1 fun hbefore => ?_
    obtain ⟨j, level', hj, hjlevel, hmem⟩ := mem_started_take.mp hbefore
    exact absurd (started_once hruns hjlevel hi hmem ht) (Nat.ne_of_lt hj)
  · exact root_in_level howned hruns hfollows hflat hs hi ht (UInt32.not_le.mp hleaf) hrun

/-- So its texts are the ones it writes alone, and its status is the one it has alone. -/
theorem texts_of_task (hflat : RootsAndLeaves container) (hs : s.dataInventory = ∅) {i : Nat}
    {level : LevelTrace TaskData} (hi : r.levels[i]? = some level)
    {texts : List (TaskId × String)} (htexts : output[i]? = some texts) {t : TaskId}
    (ht : t ∈ level.started) :
    (texts.filter fun text => decide (text.1 = t)).map (·.2) =
        (plainReport entry container config t).written ∧
      ∀ info, container.lookup t = some info →
        env.dumpStatus t info = (plainReport entry container config t).result := by
  obtain ⟨report, hrun, hwritten⟩ := hfollows.task i level texts hi htexts t ht
  obtain rfl := task_in_level howned hruns hfollows hflat hs hi ht hrun
  refine ⟨hwritten.symm, fun info hinfo => ?_⟩
  exact (hrun.executeSingleTask (howned.registered t info hinfo).1).1

end Tasks

end HiDumper.Spec.DumpTexts
