import HiDumper.Spec.DumpTexts

/-!
# What the tasks of StartDump do

The tasks of the program keep to the ids that their registration declares: a leaf injects ids
that no other task injects, a writer only looks at ids of the tasks that it depends on, and
only writers write. So in every call of `StartDump`, after any calls and however the tasks of
a level are interleaved, each task writes what it writes alone, behind the tasks that it
depends on and that the configuration enables.

## Key results

- `owned_registeredTasks`: the ids that the registered tasks use
- `startDump_tasks`: what every task of every call of `StartDump` does
-/

namespace HiDumper.Spec.DumpTasks

open HiDumper.Native HiDumper.Spec SystemDump StorePrograms DumpTexts TaskIds DataIds

/-! ## What the functions of the tasks may do -/

section Only

variable {inserts finds : DataId → Prop} {writes : Prop} {α β : Type}

private theorem only_pure (result : α) : (pure result : TaskM α).Only inserts finds writes :=
  trivial

private theorem only_ite {c : Prop} [Decidable c] {first second : TaskM α}
    (hfirst : first.Only inserts finds writes) (hsecond : second.Only inserts finds writes) :
    (if c then first else second).Only inserts finds writes := by
  split
  · exact hfirst
  · exact hsecond

private theorem only_forM {f : β → TaskM Unit} (h : ∀ x, (f x).Only inserts finds writes)
    (xs : List β) : (xs.forM f).Only inserts finds writes := by
  induction xs with
  | nil => exact only_pure ()
  | cons x xs ih => exact Program.only_bind (h x) fun _ => ih

/-- `Inject` looks for its id and inserts under it. -/
private theorem only_inject {dataId : DataId} (hinserts : inserts dataId) (hfinds : finds dataId)
    (data : TaskData) : (inject dataId data).Only inserts finds writes :=
  ⟨hfinds, fun _ => only_ite (only_pure false) ⟨hinserts, fun absent => only_pure absent⟩⟩

private theorem only_injectStringWithFilter {dataId : DataId} (hinserts : inserts dataId)
    (hfinds : finds dataId) (device : Device) (source : String) (isFile : Bool)
    (func : String → String) :
    (injectStringWithFilter device source dataId isFile func).Only inserts finds writes := by
  unfold injectStringWithFilter
  split
  · exact only_pure false
  · exact only_inject hinserts hfinds _

/-- `InjectString` does so for the text it has loaded. -/
private theorem only_injectString {dataId : DataId} (hinserts : inserts dataId)
    (hfinds : finds dataId) (device : Device) (source : String) (isFile : Bool) :
    (injectString device source dataId isFile).Only inserts finds writes := by
  unfold injectString
  split
  · exact only_pure false
  · exact only_inject hinserts hfinds _

private theorem only_writeStringIntoFd (str : String) (fd : Int) :
    (writeStringIntoFd str fd).Only inserts finds True :=
  only_ite (only_pure ()) (only_ite (only_pure ()) ⟨trivial, only_pure ()⟩)

private theorem only_writeStringsIntoFd (strs : List String) (fd : Int) :
    (writeStringsIntoFd strs fd).Only inserts finds True :=
  only_ite (only_pure ()) (only_forM (fun str => only_writeStringIntoFd str fd) strs)

private theorem only_writeTitle (title : String) (fd : Int) :
    (writeTitle title fd).Only inserts finds True :=
  Program.only_bind (only_writeStringIntoFd "\n" fd) fun _ =>
    Program.only_bind (only_writeStringIntoFd title fd) fun _ => only_writeStringIntoFd "\n" fd

/-- A title that is not always written. -/
private theorem only_titled {c : Prop} [Decidable c] {rest : TaskM α}
    (hrest : rest.Only inserts finds True) (title : String) (fd : Int) :
    (if c then writeTitle title fd >>= fun _ => rest else rest).Only inserts finds True :=
  only_ite (Program.only_bind (only_writeTitle title fd) fun _ => hrest) hrest

private theorem only_getStrings {dataId : DataId} (h : finds dataId) :
    (getStrings dataId).Only inserts finds writes :=
  ⟨h, fun _ => only_pure _⟩

private theorem only_getCpuFreqInfo {dataId : DataId} (h : finds dataId) :
    (getCpuFreqInfo dataId).Only inserts finds writes :=
  ⟨h, fun _ => only_pure _⟩

/-- The shared loop looks for the data of its entries and writes. -/
private theorem only_writeInfoConfigs {infoConfigs : List InfoConfig}
    (h : ∀ config ∈ infoConfigs, finds config.dataId) (goesOn : Bool) (fd : Int) :
    (writeInfoConfigs goesOn fd infoConfigs).Only inserts finds True := by
  induction infoConfigs with
  | nil => exact only_pure _
  | cons config infoConfigs ih =>
    have hrest := ih fun c hc => h c (List.mem_cons_of_mem _ hc)
    unfold writeInfoConfigs
    refine only_titled (Program.only_bind (only_getStrings (h config List.mem_cons_self))
      fun data => ?_) _ fd
    cases data with
    | none => exact only_ite hrest (only_pure _)
    | some strs => exact Program.only_bind (only_writeStringsIntoFd strs fd) fun _ => hrest

private theorem only_writeCpuFreq (info : CpuFreqInfo) (fd : Int) :
    (writeCpuFreq info fd).Only inserts finds True :=
  Program.only_bind (only_writeTitle _ fd) fun _ =>
    Program.only_bind (only_writeStringIntoFd _ fd) fun _ =>
      Program.only_bind (only_writeTitle _ fd) fun _ => only_writeStringIntoFd _ fd

end Only

/-! ## The ids that the tasks use -/

/-- The ids that each leaf injects. For zone, vmstat and vmalloc information no task is
    registered, so that nothing is injected. -/
def injectedIds : List (TaskId × List DataId) :=
  [(dumpDeviceInfo, [deviceInfo, procVersionInfo, procCmdlineInfo, uptimeInfo]),
    (dumpSystemClusterInfo, [systemClusterInfo]),
    (dumpWakeupSourcesInfo, [wakeupSourcesInfo]),
    (dumpKernelModuleInfo, [printenvInfo, lsmodInfo, procModulesInfo]),
    (dumpSlabInfo, [procSlabInfo, procDevhostSlabInfo]),
    (dumpZoneInfo, [procZoneInfo]),
    (dumpVmstatInfo, [procVmstatInfo]),
    (dumpVmallocInfo, [procVmallocInfo]),
    (dumpCpuFreqInfo, [cpuFreqInfo]),
    (dumpDiskInfo, [storageStateInfo, dfInfo]),
    (dumpLsofInfo, [lsofInfo]),
    (dumpIotopInfo, [iotopInfo]),
    (dumpMountsInfo, [procMountsInfo]),
    (dumpStorageIoInfo, [procPidIoInfo])]

def injected (t : TaskId) : List DataId :=
  (injectedIds.lookup t).getD []

/-- An injected id is listed for its task. -/
private theorem mem_injected {t : TaskId} {d : DataId} (h : d ∈ injected t) :
    ∃ ids, (t, ids) ∈ injectedIds ∧ d ∈ ids := by
  unfold injected at h
  cases hids : injectedIds.lookup t with
  | none => simp [hids] at h
  | some ids =>
    obtain ⟨before, after, heq, -⟩ := List.lookup_eq_some_iff.mp hids
    refine ⟨ids, heq ▸ List.mem_append_right _ List.mem_cons_self, ?_⟩
    rwa [hids, Option.getD_some] at h

/-- Only leaves inject data. -/
theorem injected_leaf {t : TaskId} {d : DataId} (h : d ∈ injected t) : t ≤ rootTaskStart := by
  obtain ⟨ids, hids, -⟩ := mem_injected h
  have hall : injectedIds.all (fun owner => decide (owner.1 ≤ rootTaskStart)) = true := by decide
  exact of_decide_eq_true (List.all_eq_true.mp hall _ hids)

/-- No two tasks inject under one id. -/
private theorem injected_owner {t t' : TaskId} {d : DataId} (h : d ∈ injected t)
    (h' : d ∈ injected t') : t = t' := by
  obtain ⟨ids, hids, hd⟩ := mem_injected h
  obtain ⟨ids', hids', hd'⟩ := mem_injected h'
  have hall : injectedIds.all (fun owner => injectedIds.all fun owner' =>
      decide (owner.1 = owner'.1) || owner.2.all fun d => !owner'.2.contains d) = true := by
    decide
  have hpair := List.all_eq_true.mp (List.all_eq_true.mp hall _ hids) _ hids'
  rcases (Bool.or_eq_true _ _).mp hpair with heq | hdisjoint
  · exact of_decide_eq_true heq
  · have hnot := List.all_eq_true.mp hdisjoint d hd
    simp only [List.contains_eq_mem, hd', decide_true, Bool.not_true, Bool.false_eq_true] at hnot

/-- The ids that a task declares. -/
def declaredIds (t : TaskId) : List DataId :=
  ((registeredTasks.lookup t).map (·.dataDependency)).getD []

/-- A declared id is declared in the registry. -/
private theorem declaresData_of_mem {t : TaskId} {d : DataId} (h : d ∈ declaredIds t) :
    DeclaresData registeredTasks t d := by
  unfold declaredIds at h
  cases hinfo : registeredTasks.lookup t with
  | none => simp [hinfo] at h
  | some info => exact ⟨info, hinfo, by simpa [hinfo] using h⟩

/-- What the leaves do: they inject their own ids and write nothing. -/
private theorem only_leaves : ∀ task ∈ taskEntries, task.1 ≤ rootTaskStart →
    ∀ (context : DumpContext) (device : Device), (task.2 context device).Only
      (· ∈ injected task.1) (· ∈ injected task.1) False := by
  intro task htask hleaf context device
  simp only [taskEntries, List.mem_cons, List.not_mem_nil, or_false] at htask
  rcases htask with rfl | rfl | rfl | rfl | rfl | rfl | rfl | rfl | rfl | rfl | rfl | hwriter
  · -- DeviceInfoTask
    exact Program.only_bind
      (Program.only_bind (only_inject (by decide) (by decide) _) fun _ => only_pure true)
      fun _ => Program.only_bind (only_injectString (by decide) (by decide) device _ _)
      fun _ => Program.only_bind (only_injectString (by decide) (by decide) device _ _)
      fun _ => Program.only_bind (only_injectString (by decide) (by decide) device _ _)
      fun _ => only_ite (only_pure _) (only_pure _)
  · exact Program.only_bind (only_inject (by decide) (by decide) _) fun _ => only_pure _
  · exact Program.only_bind (only_injectString (by decide) (by decide) device _ _)
      fun _ => only_ite (only_pure _) (only_pure _)
  · -- KernelModuleInfoTask
    exact Program.only_bind (only_injectString (by decide) (by decide) device _ _)
      fun _ => Program.only_bind (only_injectString (by decide) (by decide) device _ _)
      fun _ => Program.only_bind (only_injectString (by decide) (by decide) device _ _)
      fun _ => only_pure _
  · exact Program.only_bind (only_injectString (by decide) (by decide) device _ _)
      fun _ => Program.only_bind (only_injectString (by decide) (by decide) device _ _)
      fun _ => only_pure _
  · -- CpuFreqInfoTask gives up before it injects anything.
    show (CpuFreqInfoTask.taskEntry context device).Only _ _ _
    unfold CpuFreqInfoTask.taskEntry
    split
    · exact only_pure _
    · exact Program.only_bind (only_inject (by decide) (by decide) _) fun _ => only_pure _
  · exact Program.only_bind (only_injectString (by decide) (by decide) device _ _)
      fun _ => Program.only_bind (only_injectString (by decide) (by decide) device _ _)
      fun _ => only_pure _
  · exact Program.only_bind (only_injectString (by decide) (by decide) device _ _)
      fun _ => only_pure _
  · exact Program.only_bind (only_injectStringWithFilter (by decide) (by decide) device _ _ _)
      fun _ => only_pure _
  · exact Program.only_bind (only_injectString (by decide) (by decide) device _ _)
      fun _ => only_pure _
  · exact Program.only_bind (only_injectString (by decide) (by decide) device _ _)
      fun _ => only_pure _
  · rcases hwriter with rfl | rfl | rfl | rfl | rfl | rfl <;> exact absurd hleaf (by decide)

/-- What the writers do: they look at the ids they declare and inject nothing. -/
private theorem only_writers : ∀ task ∈ taskEntries, rootTaskStart < task.1 →
    ∀ (context : DumpContext) (device : Device), (task.2 context device).Only
      (fun _ => False) (· ∈ declaredIds task.1) True := by
  intro task htask hroot context device
  simp only [taskEntries, List.mem_cons, List.not_mem_nil, or_false, ← or_assoc] at htask
  rcases htask with (((((hleaf | rfl) | rfl) | rfl) | rfl) | rfl) | rfl
  · exfalso
    rcases hleaf with (((((((((rfl | rfl) | rfl) | rfl) | rfl) | rfl) | rfl) | rfl) | rfl) | rfl) |
      rfl <;> exact absurd hroot (by decide)
  · exact Program.only_bind (only_writeTitle _ _)
      fun _ => only_writeInfoConfigs (by decide) false _
  · exact Program.only_bind (only_writeTitle _ _)
      fun _ => only_writeInfoConfigs (by decide) false _
  · exact only_writeInfoConfigs (by decide) true _
  · -- CpuFreqInfoWriter has a title of its own only where it is asked for alone.
    exact only_titled (Program.only_bind (only_getCpuFreqInfo (by decide))
      fun _ => only_ite (only_pure _) (Program.only_bind
        (only_forM (fun info => only_writeCpuFreq info _) _) fun _ => only_pure _)) _ _
  · exact Program.only_bind (only_writeTitle _ _)
      fun _ => only_writeInfoConfigs (by decide) true _
  · exact Program.only_bind (only_writeTitle _ _)
      fun _ => only_writeInfoConfigs (by decide) false _

/-- A task is one of the list, or there is nothing to run. -/
private theorem taskEntry_cases (t : TaskId) (context : DumpContext) (device : Device) :
    taskEntry t context device = pure .dumpFail ∨
      ∃ entry, (t, entry) ∈ taskEntries ∧ taskEntry t context device = entry context device := by
  unfold taskEntry
  cases hentry : taskEntries.lookup t with
  | none => exact .inl rfl
  | some entry =>
    obtain ⟨before, after, heq, -⟩ := List.lookup_eq_some_iff.mp hentry
    exact .inr ⟨entry, heq ▸ List.mem_append_right _ List.mem_cons_self, rfl⟩

/-! ## StartDump -/

/-- The two runs that `ExecuteSingleTask` may make of a task. Each reads the device anew. -/
def deviceEntry (context : DumpContext) (device : TaskId → Bool → Device) (t : TaskId)
    (retry : Bool) : TaskM DumpStatus :=
  taskEntry t context (device t retry)

/-- The registered tasks own what they inject, and writers depend on the owners of what they
    read. -/
theorem owned_registeredTasks (context : DumpContext) (device : TaskId → Bool → Device) :
    Owned registeredTasks (deviceEntry context device) injected where
  leaf t hleaf retry := by
    unfold deviceEntry
    rcases taskEntry_cases t context (device t retry) with heq | ⟨entry, hentry, heq⟩
    · rw [heq]
      exact only_pure _
    · rw [heq]
      exact only_leaves _ hentry hleaf context _
  root t hroot retry := by
    unfold deviceEntry
    rcases taskEntry_cases t context (device t retry) with heq | ⟨entry, hentry, heq⟩
    · rw [heq]
      exact only_pure _
    · rw [heq]
      exact (only_writers _ hentry hroot context _).mono (fun _ h => h)
        (fun _ h => declaresData_of_mem h) id
  injected_leaf _ _ h := injected_leaf h
  owner _ _ _ h h' := injected_owner h h'
  -- Every declared data id is injected by a dependency of the task: checked over the registry.
  depends t d h := by
    obtain ⟨info, hinfo, hd⟩ := h
    have hall : registeredTasks.entries.all (fun task => task.2.dataDependency.all fun d =>
        task.2.taskDependency.any fun p => (injected p).contains d) = true := by decide
    have hentry := List.all_eq_true.mp hall _ (AList.lookup_eq_some_iff.mp hinfo)
    obtain ⟨p, hp, hinjected⟩ := List.any_eq_true.mp (List.all_eq_true.mp hentry d hd)
    exact ⟨p, by simpa using hinjected, info, hinfo, hp⟩
  -- Every registered task has a creator and lists a dependency once.
  registered t info hinfo := by
    have hall : registeredTasks.entries.all (fun task => task.2.creator &&
        decide task.2.taskDependency.Nodup) = true := by decide
    have hentry := List.all_eq_true.mp hall _ (AList.lookup_eq_some_iff.mp hinfo)
    rw [Bool.and_eq_true, decide_eq_true_eq] at hentry
    exact hentry

/-- Every task of every call of `StartDump`, after any calls and however the tasks of its
    level were interleaved, has written what it writes alone behind the tasks that it depends on
    and that the configuration enables, and has the status it has then. Only writers write. -/
theorem startDump_tasks {calls : List (StartDumpCall TaskData)} {call : StartDumpCall TaskData}
    {results : List (RunResult TaskData)} {s s' : DumpSingletons} {r : RunResult TaskData}
    (hcalls : DumpSingletons.init.startDumps calls = some (results, s))
    (hstep : s.startDump call = some (r, s')) {context : DumpContext}
    {device : TaskId → Bool → Device} {output : List (List (TaskId × String))}
    (hfollows : FollowsEntries (deviceEntry context device) call.env ⟨s.container, ∅⟩ r output)
    {i : Nat} {level : LevelTrace TaskData} (hi : r.levels[i]? = some level)
    {texts : List (TaskId × String)} (htexts : output[i]? = some texts) {t : TaskId}
    (ht : t ∈ level.started) :
    (texts.filter fun text => decide (text.1 = t)).map (·.2) =
        (plainReport (deviceEntry context device) registeredTasks
          (firstConfig (calls ++ [call])) t).written ∧
      (t ≤ rootTaskStart → ∀ text ∈ texts, text.1 ≠ t) ∧
      ∀ info, registeredTasks.lookup t = some info → call.env.dumpStatus t info =
        (plainReport (deviceEntry context device) registeredTasks
          (firstConfig (calls ++ [call])) t).result := by
  have howned := owned_registeredTasks context device
  obtain ⟨results₁, s₁, hruns₁, hinv⟩ := startDumps_inv init_inv calls
  obtain ⟨rfl, rfl⟩ := Prod.mk.inj (Option.some.inj (hruns₁.symm.trans hcalls))
  obtain ⟨r₁, s₂, hstep₁, -, haccepted, hfailed⟩ := startDump_spec hinv call
  obtain ⟨rfl, rfl⟩ := Prod.mk.inj (Option.some.inj (hstep₁.symm.trans hstep))
  by_cases hroots : ∃ roots, Accepted (firstConfig ([] ++ calls ++ [call]))
      (isTaskExcessivelyFailed s₁.container) call roots
  · obtain ⟨roots, hroots⟩ := hroots
    have hruns := haccepted roots hroots
    obtain ⟨htext, hstatus⟩ := texts_of_task howned hruns hfollows
      rootsAndLeaves_registeredTasks rfl hi htexts ht
    refine ⟨htext, fun hleaf text hmem heq => ?_, hstatus⟩
    have hnone := written_runAlone (howned.leaf t hleaf)
      (leavesStore (deviceEntry context device)
        (dependencies registeredTasks (firstConfig (calls ++ [call])) t) fun _ => none)
    have hempty := List.map_eq_nil_iff.mp (htext.trans hnone)
    exact List.filter_eq_nil_iff.mp hempty text hmem (decide_eq_true heq)
  · -- A call that is not accepted runs nothing.
    rw [hfailed hroots, List.getElem?_nil] at hi
    exact absurd hi (by simp)

/-- A dump of the frequencies and of what process 7 reads and writes. -/
def cpuStorageContext : DumpContext :=
  ⟨{ isDumpCpuFreq := true, isDumpStorage := true, storagePid := 7 }, 1⟩

/-- The frequencies can be read at the second try only. -/
def cpuStorageDevice (retry : Bool) : Device where
  file path := if path = "/proc/7/io" then some "rchar: 10\nwchar: 2\n" else none
  command _ := none
  loadStringFromFile _ := if retry then some "1800000\n" else none
  processorsOnline := 1
  deviceInfo _ := ""

def cpuStorageEntry : TaskId → Bool → TaskM DumpStatus :=
  deviceEntry cpuStorageContext fun _ retry => cpuStorageDevice retry

def cpuStorageStore (t : TaskId) : DataId → Option TaskData :=
  leavesStore cpuStorageEntry (dependencies registeredTasks ⟨∅, true⟩ t) fun _ => none

def cpuStorageFirst (t : TaskId) : TaskReport :=
  (cpuStorageEntry t false).alone (cpuStorageStore t)

def cpuStorageSecond (t : TaskId) : TaskReport :=
  (cpuStorageEntry t true).alone (left (cpuStorageStore t) (cpuStorageFirst t).inserted)

def cpuStorageCall : StartDumpCall TaskData where
  parsed := some cpuStorageContext.dumperOpts
  file := some (.object [("task_configs", .object [])])
  env :=
    { behaviour := fun t =>
        ⟨some (attemptOf (cpuStorageFirst t)), some (attemptOf (cpuStorageSecond t))⟩
      picks := fun _ => [dumpStorageIoInfo, dumpCpuFreqInfo, dumpCpuFreqInfo, dumpStorageIoInfo] }

def cpuStorageRun : RunResult TaskData :=
  match DumpSingletons.init.startDump cpuStorageCall with
  | some (r, _) => r
  | none => ⟨.dumpFail, [], ⟨registeredTasks, ∅⟩⟩

def cpuStorageTexts (level : LevelTrace TaskData) : List (TaskId × String) :=
  level.started.flatMap fun t =>
    (runAlone (cpuStorageEntry t) (cpuStorageStore t)).written.map fun text => (t, text)

def cpuStorageLevel (i : Nat) : LevelTrace TaskData :=
  cpuStorageRun.levels.getD i ⟨∅, ∅, [], false⟩

/-- A task of this dump whose first run succeeds. -/
private theorem runsTask_cpuStorage {t : TaskId} {view : Nat → DataId → Option TaskData}
    {moves : Nat → Option (DataId × TaskData)} {m : Nat}
    (hfirst : (cpuStorageEntry t false).replay view moves m 0 = some (cpuStorageFirst t))
    (hok : (cpuStorageFirst t).result = .dumpOk) :
    RunsTask view moves m (cpuStorageEntry t) (cpuStorageCall.env.behaviour t)
      (runAlone (cpuStorageEntry t) (cpuStorageStore t)) := by
  have heq : runAlone (cpuStorageEntry t) (cpuStorageStore t) = cpuStorageFirst t := by
    unfold runAlone
    exact if_pos hok
  rw [heq]
  exact .once (Program.runs_replay hfirst) hok rfl

/-- A task of this dump whose first run inserts nothing and fails: its second run may start with
    the level. -/
private theorem runsTask_cpuStorage_retried {t : TaskId} {view : Nat → DataId → Option TaskData}
    {moves : Nat → Option (DataId × TaskData)} {m : Nat}
    (hfirst : (cpuStorageEntry t false).replay view moves 0 0 = some (cpuStorageFirst t))
    (hfailed : (cpuStorageFirst t).result ≠ .dumpOk)
    (hsecond : (cpuStorageEntry t true).replay view moves m 0 = some (cpuStorageSecond t)) :
    RunsTask view moves m (cpuStorageEntry t) (cpuStorageCall.env.behaviour t)
      (runAlone (cpuStorageEntry t) (cpuStorageStore t)) := by
  have heq : runAlone (cpuStorageEntry t) (cpuStorageStore t) =
      ⟨(cpuStorageSecond t).result, (cpuStorageFirst t).inserted ++ (cpuStorageSecond t).inserted,
        (cpuStorageFirst t).written ++ (cpuStorageSecond t).written⟩ := by
    unfold runAlone
    exact if_neg hfailed
  rw [heq]
  exact .twice (Program.runs_replay hfirst) hfailed rfl (Program.runs_replay hsecond) rfl

/-- The run follows the programs of its tasks. -/
private theorem followsEntries_cpuStorage :
    FollowsEntries cpuStorageEntry cpuStorageCall.env ⟨DumpSingletons.init.container, ∅⟩
      cpuStorageRun (cpuStorageRun.levels.map cpuStorageTexts) := by
  -- Each level's texts are those that its tasks write when run alone.
  have htexts : ∀ {i : Nat} {level : LevelTrace TaskData} {texts : List (TaskId × String)},
      cpuStorageRun.levels[i]? = some level →
      (cpuStorageRun.levels.map cpuStorageTexts)[i]? = some texts →
      level = cpuStorageLevel i ∧ texts = cpuStorageTexts level := by
    intro i level texts hi htexts
    rw [List.getElem?_map, hi, Option.map_some] at htexts
    rw [cpuStorageLevel, List.getD_eq_getElem?_getD, hi, Option.getD_some]
    exact ⟨rfl, (Option.some.inj htexts).symm⟩
  refine ⟨List.length_map _, fun i level texts hi hget text htext => ?_,
    fun i level texts hi hget t ht => ⟨runAlone (cpuStorageEntry t) (cpuStorageStore t), ?_⟩⟩
  · obtain ⟨-, rfl⟩ := htexts hi hget
    obtain ⟨t, ht, hmem⟩ := List.mem_flatMap.mp htext
    obtain ⟨_, _, rfl⟩ := List.mem_map.mp hmem
    exact ht
  · obtain ⟨rfl, rfl⟩ := htexts hi hget
    have hcount : cpuStorageRun.levels.length = 3 := by decide +kernel
    have hlt := (List.getElem?_eq_some_iff.mp hi).1
    obtain rfl | rfl | rfl : i = 0 ∨ i = 1 ∨ i = 2 := by omega
    · have hstarted : (cpuStorageLevel 0).started = [dumpStorageIoInfo, dumpCpuFreqInfo] := by
        decide +kernel
      rw [hstarted, List.mem_cons, List.mem_singleton] at ht
      rcases ht with rfl | rfl
      · exact ⟨runsTask_cpuStorage (by decide +kernel) (by decide), by decide +kernel⟩
      · exact ⟨runsTask_cpuStorage_retried (by decide +kernel) (by decide) (by decide +kernel),
          by decide +kernel⟩
    · have hstarted : (cpuStorageLevel 1).started = [writeCpuFreqInfo] := by decide +kernel
      obtain rfl := List.mem_singleton.mp (hstarted ▸ ht)
      exact ⟨runsTask_cpuStorage (by decide +kernel) (by decide), by decide +kernel⟩
    · have hstarted : (cpuStorageLevel 2).started = [writeStorageIoInfo] := by decide +kernel
      obtain rfl := List.mem_singleton.mp (hstarted ▸ ht)
      exact ⟨runsTask_cpuStorage (by decide +kernel) (by decide), by decide +kernel⟩

/-- A level and its texts. -/
private theorem level_cpuStorage {i : Nat} (h : i < 3) :
    cpuStorageRun.levels[i]? = some (cpuStorageLevel i) ∧
      (cpuStorageRun.levels.map cpuStorageTexts)[i]? =
        some (cpuStorageTexts (cpuStorageLevel i)) := by
  have hcount : cpuStorageRun.levels.length = 3 := by decide +kernel
  have hlevel : cpuStorageRun.levels[i]? = some (cpuStorageLevel i) := by
    rw [cpuStorageLevel, List.getD_eq_getElem?_getD, List.getElem?_eq_getElem (by omega),
      Option.getD_some]
  exact ⟨hlevel, by rw [List.getElem?_map, hlevel, Option.map_some]⟩

/-- In the first level two tasks run at the same time, and the one that reads the frequencies
    needs its second run. The storage report has the lines of the process file. -/
theorem startDump_tasks_storageIo :
    cpuStorageCall.env.dumpStatus dumpCpuFreqInfo
        (registerTask dumpCpuFreqInfo "CpuFreqInfoTask" false [] []).2 =
      (plainReport cpuStorageEntry registeredTasks (firstConfig ([] ++ [cpuStorageCall]))
        dumpCpuFreqInfo).result ∧
    ((cpuStorageTexts (cpuStorageLevel 2)).filter fun text =>
        decide (text.1 = writeStorageIoInfo)).map (·.2) =
      (plainReport cpuStorageEntry registeredTasks (firstConfig ([] ++ [cpuStorageCall]))
        writeStorageIoInfo).written ∧
    (plainReport cpuStorageEntry registeredTasks (firstConfig ([] ++ [cpuStorageCall]))
        writeStorageIoInfo).written =
      ["\n", "-------------------------------[storage io]-------------------------------\n", "\n",
        "rchar: 10\n", "wchar: 2\n"] := by
  obtain ⟨r, s', hstep, -⟩ := startDump_spec init_inv cpuStorageCall
  have hrun : cpuStorageRun = r := by
    unfold cpuStorageRun
    rw [hstep]
  rw [← hrun] at hstep
  have hcalls : DumpSingletons.init.startDumps ([] : List (StartDumpCall TaskData)) =
      some ([], .init) := rfl
  have hstarted : dumpCpuFreqInfo ∈ (cpuStorageLevel 0).started ∧
      writeStorageIoInfo ∈ (cpuStorageLevel 2).started := by decide +kernel
  obtain ⟨hread, hreadTexts⟩ := level_cpuStorage (i := 0) (by decide)
  obtain ⟨hwrite, hwriteTexts⟩ := level_cpuStorage (i := 2) (by decide)
  have hfollows := followsEntries_cpuStorage
  exact ⟨(startDump_tasks hcalls hstep hfollows hread hreadTexts hstarted.1).2.2 _ rfl,
    (startDump_tasks hcalls hstep hfollows hwrite hwriteTexts hstarted.2).1, by decide +kernel⟩

end HiDumper.Spec.DumpTasks
