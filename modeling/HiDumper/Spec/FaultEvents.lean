import HiDumper.Native.DumpEventInfo

/-!
# Which fault events are shown for killed processes

`DumpFaultEventListByPK` looks for the fault events that belong to the kill records of a
query. The join goes through two sets, the running ids of the kill records and the event
names of their reasons, so an event may get in with the id of one record and the name of
another one's reason. It finds every event that belongs to a record, and it finds
nothing else exactly when no stored event pairs two records like that.

## Key results

- `mem_extracted`: what the loop over the kill records collects
- `mem_dumpFaultEventListByPK`: the events returned, in terms of two independent records
- `dumpFaultEventListByPK_joins_iff`: when that is the join on one record
-/

namespace HiDumper.Spec

open HiDumper.Native DumpEventInfo

/-! ## Kill reasons and fault events -/

/-- The kill reasons, under both spellings, with the names of the events they cause. -/
def reasonEvents : List (List String × List String) :=
  [(["Cpp Crash", "CppCrash"], ["CPP_CRASH"]),
    (["Js Error", "JsError"], ["JS_ERROR"]),
    (["THREAD_BLOCK_6S", "ThreadBlock6S", "APP_INPUT_BLOCK", "AppInputBlock"], ["APP_FREEZE"]),
    (["LIFECYCLE_TIMEOUT", "LifecycleTimeout"], ["SYS_FREEZE", "APP_FREEZE"])]

/-- The event name corresponds to the kill reason. -/
def Corresponds (reason name : String) : Prop :=
  ∃ entry ∈ reasonEvents, reason ∈ entry.1 ∧ name ∈ entry.2

instance (reason name : String) : Decidable (Corresponds reason name) :=
  inferInstanceAs (Decidable (∃ entry ∈ reasonEvents, reason ∈ entry.1 ∧ name ∈ entry.2))

/-- The fault events by domain and name. -/
def faultEvents : List (String × String) :=
  [("RELIABILITY", "CPP_CRASH"), ("AAFWK", "JS_ERROR"), ("ACE", "JS_ERROR"),
    ("RELIABILITY", "SYS_FREEZE"), ("RELIABILITY", "APP_FREEZE")]

/-- The event lies in the time span of the query. -/
def InSpan (arg : QueryArg) (event : HiSysEventRecord) : Prop :=
  (arg.startTime < 0 ∨ arg.startTime ≤ event.time) ∧ (arg.endTime < 0 ∨ event.time ≤ arg.endTime)

/-- Queries succeed and return the stored events of the queried names in the time span,
    in some order. -/
def Serves (env : EventEnv) (stored : List HiSysEventRecord) : Prop :=
  ∀ arg rules, ∃ found, env.query arg rules = some found ∧
    ∀ event, event ∈ found ↔ event ∈ stored ∧ InSpan arg event ∧
      ∃ rule ∈ rules, event.domain = rule.1 ∧ event.eventName ∈ rule.2

/-- The kill reason and the running id of a record, if the record is a candidate, its
    reason is a fault and it has a running id. -/
def killOf (env : EventEnv) (param : EventQueryParam) (event : HiSysEventRecord) :
    Option (String × String) := do
  let killId ← isPkEventCandidate event param
  let runningId ← event.runningId
  if env.getKillReason killId ∈ faultEventSet then some (env.getKillReason killId, runningId)
  else none

/-- The time span of the query for kill records. -/
def killSpan (param : EventQueryParam) : QueryArg :=
  ⟨if param.startTime = 0 then -1 else param.startTime,
    if param.endTime = 0 then -1 else param.endTime⟩

/-- A stored process kill in the time span asked for is a candidate with this reason and
    this running id. -/
def IsKill (env : EventEnv) (stored : List HiSysEventRecord) (param : EventQueryParam)
    (reason runningId : String) : Prop :=
  ∃ record ∈ stored, record.eventName = "PROCESS_KILL" ∧
    (record.domain = "FRAMEWORK" ∨ record.domain = "KERNEL_VENDOR") ∧
    InSpan (killSpan param) record ∧ killOf env param record = some (reason, runningId)

/-- The event is a fault event of a name that corresponds to the reason of a kill record
    with the same running id. -/
def BelongsToKill (env : EventEnv) (stored : List HiSysEventRecord) (param : EventQueryParam)
    (event : HiSysEventRecord) : Prop :=
  ∃ reason runningId, IsKill env stored param reason runningId ∧
    event.runningId = some runningId ∧ Corresponds reason event.eventName ∧
    (event.domain, event.eventName) ∈ faultEvents

/-- The event has the running id of one kill record and a name that corresponds to the
    reason of another one. -/
def PairsTwoKills (env : EventEnv) (stored : List HiSysEventRecord) (param : EventQueryParam)
    (event : HiSysEventRecord) : Prop :=
  (∃ reason runningId, IsKill env stored param reason runningId ∧
    event.runningId = some runningId) ∧
  (∃ reason runningId, IsKill env stored param reason runningId ∧
    Corresponds reason event.eventName) ∧
  (event.domain, event.eventName) ∈ faultEvents

/-! ## The loop over the kill records -/

/-- A reason adds the names that correspond to it. -/
private theorem mem_insertFaultTypes (reason name : String) (names : List String) :
    name ∈ insertFaultTypes reason names ↔ name ∈ names ∨ Corresponds reason name := by
  simp only [insertFaultTypes, Corresponds, reasonEvents, List.mem_cons, List.not_mem_nil,
    or_false, exists_eq_or_imp, exists_eq_left, Bool.or_eq_true, decide_eq_true_eq]
  split
  · rename_i h
    rcases h with rfl | rfl <;> simp [or_comm]
  split
  · rename_i h
    rcases h with rfl | rfl <;> simp [or_comm]
  split
  · rename_i h
    rcases h with rfl | rfl <;> simp [or_comm, or_assoc]
  split
  · rename_i h
    rcases h with ((rfl | rfl) | rfl) | rfl <;> simp [or_comm]
  · grind

/-- One turn of the loop, in terms of `killOf`. -/
private theorem extractPkEvent_sets (env : EventEnv) (param : EventQueryParam) (sets : PkSets)
    (event : HiSysEventRecord) :
    (∀ id, id ∈ (extractPkEvent env param sets event).pkRunningIdSet ↔
      id ∈ sets.pkRunningIdSet ∨ ∃ reason, killOf env param event = some (reason, id)) ∧
    (∀ name, name ∈ (extractPkEvent env param sets event).faultEventQuerySet ↔
      name ∈ sets.faultEventQuerySet ∨
        ∃ reason id, killOf env param event = some (reason, id) ∧ Corresponds reason name) := by
  cases hkill : isPkEventCandidate event param with
  | none => simp [extractPkEvent, killOf, hkill]
  | some killId =>
    by_cases hfault : env.getKillReason killId ∈ faultEventSet
    · cases hid : event.runningId with
      | none => simp [extractPkEvent, killOf, hkill, hfault, hid]
      | some runningId =>
        simp [extractPkEvent, killOf, hkill, hfault, hid, mem_insertFaultTypes, or_comm, eq_comm]
    · simp [extractPkEvent, killOf, hkill, hfault]

/-- What the loop collects: the running ids and, apart from them, the event names. -/
theorem mem_extracted (env : EventEnv) (param : EventQueryParam) (pkEvents : List HiSysEventRecord)
    (sets : PkSets) :
    (∀ id, id ∈ (pkEvents.foldl (extractPkEvent env param) sets).pkRunningIdSet ↔
      id ∈ sets.pkRunningIdSet ∨
        ∃ event ∈ pkEvents, ∃ reason, killOf env param event = some (reason, id)) ∧
    (∀ name, name ∈ (pkEvents.foldl (extractPkEvent env param) sets).faultEventQuerySet ↔
      name ∈ sets.faultEventQuerySet ∨ ∃ event ∈ pkEvents,
        ∃ reason id, killOf env param event = some (reason, id) ∧ Corresponds reason name) := by
  induction pkEvents generalizing sets with
  | nil => simp
  | cons event pkEvents ih =>
    obtain ⟨hids, hnames⟩ := extractPkEvent_sets env param sets event
    obtain ⟨ihids, ihnames⟩ := ih (extractPkEvent env param sets event)
    constructor
    · intro id
      rw [List.foldl_cons, ihids, hids, or_assoc]
      simp only [List.exists_mem_cons_iff]
    · intro name
      rw [List.foldl_cons, ihnames, hnames, or_assoc]
      simp only [List.exists_mem_cons_iff]

/-- The rules of the second query select the fault events with a name in the set. -/
private theorem exists_fillQueryParam_rule (param : EventQueryParam) (names : List String)
    (event : HiSysEventRecord) :
    (∃ rule ∈ (fillQueryParam param names).queryRule,
      event.domain = rule.1 ∧ event.eventName ∈ rule.2) ↔
      event.eventName ∈ names ∧ (event.domain, event.eventName) ∈ faultEvents := by
  simp only [fillQueryParam, faultEvents, List.mem_append, List.mem_ite_nil_right, List.mem_cons,
    List.not_mem_nil, or_false, Prod.mk.injEq, or_and_right, and_or_left, exists_or, and_assoc,
    exists_and_left, exists_eq_left, or_assoc]
  constructor
  · rintro (⟨hmem, hdomain, hname⟩ | ⟨hmem, hdomain, hname⟩ | ⟨hmem, hdomain, hname⟩ |
      ⟨hmem, hdomain, hname⟩ | ⟨hmem, hdomain, hname⟩)
    all_goals
      rw [hname]
      simp [hmem, hdomain]
  · rintro (⟨hmem, hdomain, hname⟩ | ⟨hmem, hdomain, hname⟩ | ⟨hmem, hdomain, hname⟩ |
      ⟨hmem, hdomain, hname⟩ | ⟨hmem, hdomain, hname⟩)
    all_goals
      rw [hname] at hmem
      simp [hmem, hdomain, hname]

/-! ## The join -/

section

variable {env : EventEnv} {stored : List HiSysEventRecord}

/-- The events found for kill records are the stored ones in the time span. -/
private theorem mem_pkEvents (hserves : Serves env stored) (param : EventQueryParam) :
    ∃ pkEvents, dumpEventList env [] { param with queryRule := processKillRule } = some pkEvents ∧
      ∀ reason id, (∃ event ∈ pkEvents, killOf env param event = some (reason, id)) ↔
        IsKill env stored param reason id := by
  obtain ⟨found, hquery, hfound⟩ := hserves (killSpan param) processKillRule
  refine ⟨found, ?_, ?_⟩
  · rw [dumpEventList]
    show (env.query (killSpan param) processKillRule).map _ = _
    rw [hquery, Option.map_some, List.nil_append]
  · intro reason id
    simp only [hfound, IsKill, processKillRule, List.mem_cons, List.not_mem_nil, or_false,
      exists_eq_or_imp, exists_eq_left]
    constructor
    · rintro ⟨event, ⟨hstored, hspan, hrule⟩, hkill⟩
      refine ⟨event, hstored, ?_, ?_, hspan, hkill⟩
      · rcases hrule with h | h <;> exact h.2
      · rcases hrule with h | h
        · exact Or.inl h.1
        · exact Or.inr h.1
    · rintro ⟨event, hstored, hname, hdomain, hspan, hkill⟩
      refine ⟨event, ⟨hstored, hspan, ?_⟩, hkill⟩
      -- The rule has one entry for each of the two domains.
      rcases hdomain with h | h
      · exact Or.inl ⟨h, hname⟩
      · exact Or.inr ⟨h, hname⟩

/-- The second query has no limits in time. -/
private theorem mem_faultQuery (hserves : Serves env stored) (param : EventQueryParam)
    (names : List String) :
    ∃ found, dumpEventList env [] (fillQueryParam param names) = some found ∧
      ∀ event, event ∈ found ↔ event ∈ stored ∧ event.eventName ∈ names ∧
        (event.domain, event.eventName) ∈ faultEvents := by
  obtain ⟨found, hquery, hfound⟩ := hserves ⟨-1, -1⟩ (fillQueryParam param names).queryRule
  refine ⟨found, ?_, ?_⟩
  · rw [dumpEventList]
    show (env.query ⟨-1, -1⟩ _).map _ = _
    rw [hquery, Option.map_some, List.nil_append]
  · intro event
    rw [hfound, exists_fillQueryParam_rule]
    simp [InSpan]

/-- The two sets in terms of the kill records. -/
private theorem mem_pkSets {param : EventQueryParam} {pkEvents : List HiSysEventRecord}
    (hkills : ∀ reason id, (∃ event ∈ pkEvents, killOf env param event = some (reason, id)) ↔
      IsKill env stored param reason id) :
    let sets := pkEvents.foldl
      (extractPkEvent env { param with queryRule := processKillRule }) {}
    (∀ id, id ∈ sets.pkRunningIdSet ↔ ∃ reason, IsKill env stored param reason id) ∧
    (∀ name, name ∈ sets.faultEventQuerySet ↔
      ∃ reason id, IsKill env stored param reason id ∧ Corresponds reason name) := by
  obtain ⟨hids, hnames⟩ :=
    mem_extracted env { param with queryRule := processKillRule } pkEvents {}
  constructor
  · intro id
    rw [hids]
    constructor
    · rintro (hnil | ⟨event, hevent, reason, hkill⟩)
      · exact nomatch hnil
      · exact ⟨reason, (hkills reason id).mp ⟨event, hevent, hkill⟩⟩
    · rintro ⟨reason, hkill⟩
      obtain ⟨event, hevent, hof⟩ := (hkills reason id).mpr hkill
      exact Or.inr ⟨event, hevent, reason, hof⟩
  · intro name
    rw [hnames]
    constructor
    · rintro (hnil | ⟨event, hevent, reason, id, hkill, hname⟩)
      · exact nomatch hnil
      · exact ⟨reason, id, (hkills reason id).mp ⟨event, hevent, hkill⟩, hname⟩
    · rintro ⟨reason, id, hkill, hname⟩
      obtain ⟨event, hevent, hof⟩ := (hkills reason id).mpr hkill
      exact Or.inr ⟨event, hevent, reason, id, hof, hname⟩

/-- An event is returned when it has the running id of one kill record and a name for the
    reason of one, not necessarily the same. -/
theorem mem_dumpFaultEventListByPK (hserves : Serves env stored) (param : EventQueryParam)
    (event : HiSysEventRecord) :
    event ∈ (dumpFaultEventListByPK env [] param).2 ↔
      event ∈ stored ∧ PairsTwoKills env stored param event := by
  obtain ⟨pkEvents, hpk, hkills⟩ := mem_pkEvents hserves param
  obtain ⟨hids, hnames⟩ := mem_pkSets hkills
  obtain ⟨sets, hsets⟩ : ∃ sets, pkEvents.foldl
      (extractPkEvent env { param with queryRule := processKillRule }) {} = sets := ⟨_, rfl⟩
  rw [hsets] at hids hnames
  simp only [dumpFaultEventListByPK, hpk, extractPkRunningIdsAndFaultTypes, hsets]
  by_cases hempty : sets.pkRunningIdSet = []
  · -- No kill record: nothing is returned and nothing pairs.
    have hnone : ¬PairsTwoKills env stored param event := by
      rintro ⟨⟨reason, id, hkill, -⟩, -⟩
      have hmem := (hids id).mpr ⟨reason, hkill⟩
      rw [hempty] at hmem
      exact nomatch hmem
    simp only [hempty, List.isEmpty_nil, hnone, and_false, iff_false]
    split
    · exact List.not_mem_nil
    · cases sets.notFaultEvents <;> simp
  -- There is a kill record, so the second query is made, and its events are filtered.
  · obtain ⟨id, hid⟩ := List.exists_mem_of_ne_nil _ hempty
    obtain ⟨reason, hkill⟩ := (hids id).mp hid
    obtain ⟨record, hrecord, -⟩ := (hkills reason id).mpr hkill
    have hpkEvents : pkEvents.isEmpty = false := by
      cases pkEvents with
      | nil => exact nomatch hrecord
      | cons => rfl
    obtain ⟨found, hfound, hmem⟩ := mem_faultQuery hserves
      { param with queryRule := processKillRule } sets.faultEventQuerySet
    have hsome : sets.pkRunningIdSet.isEmpty = false := by
      rw [List.isEmpty_eq_false_iff]
      exact hempty
    simp only [hpkEvents, hsome, hfound, sortEventsByTimeDesc, List.nil_append, Bool.false_eq_true,
      if_false, ne_eq, not_true_eq_false, List.mem_mergeSort, List.mem_filter, hmem, hnames]
    simp only [PairsTwoKills]
    cases hrun : event.runningId with
    | none => simp
    | some runningId =>
      simp only [List.contains_iff_mem, hids, Option.some.injEq, exists_and_right,
        exists_eq_right']
      tauto

/-- The events returned are the stored ones that belong to a kill record, if and only if
    every stored event that pairs two kill records belongs to one. -/
theorem dumpFaultEventListByPK_joins_iff (hserves : Serves env stored) (param : EventQueryParam) :
    (∀ event, event ∈ (dumpFaultEventListByPK env [] param).2 ↔
      event ∈ stored ∧ BelongsToKill env stored param event) ↔
    ∀ event ∈ stored, PairsTwoKills env stored param event →
      BelongsToKill env stored param event := by
  simp only [mem_dumpFaultEventListByPK hserves, and_congr_right_iff]
  constructor
  · intro h event hstored hpairs
    exact (h event hstored).mp hpairs
  · intro h event hstored
    refine ⟨h event hstored, ?_⟩
    -- One record in both places is a special case of two.
    rintro ⟨reason, runningId, hkill, hid, hname, hfault⟩
    exact ⟨⟨reason, runningId, hkill, hid⟩, ⟨reason, runningId, hkill, hname⟩, hfault⟩

end

/-- The time span and the rules decide on each record. -/
instance (arg : QueryArg) (event : HiSysEventRecord) : Decidable (InSpan arg event) :=
  inferInstanceAs (Decidable ((_ ∨ _) ∧ (_ ∨ _)))

/-- A store that serves queries from a list, with the ids of two kill reasons. -/
def listEnv (stored : List HiSysEventRecord) : EventEnv where
  query arg rules := some (stored.filter fun event => decide (InSpan arg event) &&
    rules.any fun rule => decide (event.domain = rule.1) && decide (event.eventName ∈ rule.2))
  getKillReason killId :=
    if killId = 2003 then "JsError" else if killId = 2004 then "CppCrash" else "Unknown"

/-- The list serves queries as the event service does. -/
private theorem listEnv_serves (stored : List HiSysEventRecord) :
    Serves (listEnv stored) stored := by
  intro arg rules
  refine ⟨_, rfl, ?_⟩
  intro event
  simp

/-- A process kill of the application with a running id. -/
def killRecord (killId : Int) (runningId : String) : HiSysEventRecord where
  domain := "FRAMEWORK"
  eventName := "PROCESS_KILL"
  time := 1
  params := [("PROCESS_NAME", .string "app"), ("id_", .string "1"), ("KILL_ID", .int64 killId),
    ("APP_RUNNING_UNIQUE_ID", .string runningId)]

/-- An error in scripts of the application with a running id. -/
def jsErrorRecord (runningId : String) : HiSysEventRecord :=
  ⟨"AAFWK", "JS_ERROR", 2, [("APP_RUNNING_UNIQUE_ID", .string runningId)]⟩

/-- A query for all processes at any time. -/
def anyQuery : EventQueryParam := ⟨0, 0, "", "", []⟩

/-- One application is killed by a crash and another by a script error. A script error of
    the first one, which did not kill it, is returned as well. -/
theorem dumpFaultEventListByPK_pairs_two :
    let stored := [killRecord 2004 "1", killRecord 2003 "2", jsErrorRecord "1"]
    ¬∀ event, event ∈ (dumpFaultEventListByPK (listEnv stored) [] anyQuery).2 ↔
      event ∈ stored ∧ BelongsToKill (listEnv stored) stored anyQuery event := by
  intro stored h
  have hcrash : killOf (listEnv stored) anyQuery (killRecord 2004 "1") = some ("CppCrash", "1") := by
    decide
  have hscript : killOf (listEnv stored) anyQuery (killRecord 2003 "2") = some ("JsError", "2") := by
    decide
  -- The id comes from the native crash, the name from the script error.
  have hpairs : PairsTwoKills (listEnv stored) stored anyQuery (jsErrorRecord "1") := by
    refine ⟨⟨"CppCrash", "1", ⟨_, by decide, rfl, Or.inl rfl, by decide, hcrash⟩, rfl⟩,
      ⟨"JsError", "2", ⟨_, by decide, rfl, Or.inl rfl, by decide, hscript⟩, by decide⟩, by decide⟩
  have hmem := (mem_dumpFaultEventListByPK (listEnv_serves stored) anyQuery _).mpr
    ⟨by decide, hpairs⟩
  obtain ⟨-, reason, id, ⟨record, hrecord, hname, -, -, hkill⟩, hid, hreason, -⟩ :=
    (h _).mp hmem
  simp only [stored, List.mem_cons, List.not_mem_nil, or_false] at hrecord
  -- No single record has both.
  rcases hrecord with rfl | rfl | rfl
  · rw [hcrash] at hkill
    obtain ⟨rfl, rfl⟩ := hkill
    exact absurd hreason (by decide)
  · rw [hscript] at hkill
    obtain ⟨rfl, rfl⟩ := hkill
    exact absurd hid (by decide)
  · exact absurd hname (by decide)

/-- A script error of the application that a script error has killed. -/
def pairedStore : List HiSysEventRecord :=
  [killRecord 2004 "1", killRecord 2003 "2", jsErrorRecord "2"]

/-- Two applications are killed for different reasons, and the event belongs to the second
    one: nothing is returned that does not belong to a kill record. -/
theorem dumpFaultEventListByPK_joins_two :
    Serves (listEnv pairedStore) pairedStore ∧
      ∀ event, event ∈ (dumpFaultEventListByPK (listEnv pairedStore) [] anyQuery).2 ↔
        event ∈ pairedStore ∧ BelongsToKill (listEnv pairedStore) pairedStore anyQuery event := by
  refine ⟨listEnv_serves _,
    (dumpFaultEventListByPK_joins_iff (listEnv_serves _) anyQuery).mpr ?_⟩
  intro event hevent hpairs
  have hfault := hpairs.2.2
  simp only [pairedStore, List.mem_cons, List.not_mem_nil, or_false] at hevent
  rcases hevent with rfl | rfl | rfl
  · exact absurd hfault (by decide)
  · exact absurd hfault (by decide)
  · have hkill : killOf (listEnv pairedStore) anyQuery (killRecord 2003 "2") =
        some ("JsError", "2") := by decide
    exact ⟨"JsError", "2", ⟨killRecord 2003 "2", by decide, rfl, Or.inl rfl, by decide, hkill⟩, rfl,
      by decide, hfault⟩

end HiDumper.Spec
