import HiDumper.Native.Common
import Mathlib.Algebra.Group.Int.Defs

/-!
# DumpEventInfo: fault events of killed processes

Model of `executor/event/dump_event_info.cpp`. The event store (`HiSysEventManager`) and
the table of kill reasons (`ProcessKillReason::GetKillReason`) belong to other
repositories and are parameters. A record is its domain, name and time and the
parameters that `GetParamValue` finds in it, each under one type only.
-/

namespace HiDumper.Native

/-- A value of a record, with the type under which `GetParamValue` returns it. -/
inductive EventParam where
  | string (value : String)
  | int64 (value : Int)
  deriving DecidableEq, Repr

/-- `HiSysEventRecord`. -/
structure HiSysEventRecord where
  domain : String
  eventName : String
  time : Nat
  params : List (String × EventParam)
  deriving DecidableEq, Repr

namespace HiSysEventRecord

/-- `GetParamValue` for a `std::string`, `none` for a result other than 0. -/
def getParamString (event : HiSysEventRecord) (key : String) : Option String :=
  match event.params.lookup key with
  | some (.string value) => some value
  | _ => none

/-- `GetParamValue` for an `int64_t`, `none` for a result other than 0. -/
def getParamInt64 (event : HiSysEventRecord) (key : String) : Option Int :=
  match event.params.lookup key with
  | some (.int64 value) => some value
  | _ => none

/-- The value of `APP_RUNNING_UNIQUE_ID`. -/
def runningId (event : HiSysEventRecord) : Option String :=
  event.getParamString "APP_RUNNING_UNIQUE_ID"

end HiSysEventRecord

/-- `EventQueryParam`. -/
structure EventQueryParam where
  startTime : Int
  endTime : Int
  processName : String
  eventId : String
  queryRule : List (String × List String)
  deriving DecidableEq, Repr

/-- `EventDumpResult`. -/
inductive EventDumpResult where
  | noneProcessKillEvent
  | notFaultEvent
  | eventDumpFail
  | eventDumpOk
  deriving DecidableEq, Repr

/-- `QueryArg`: the time span of a query, with -1 for no limit. -/
structure QueryArg where
  startTime : Int
  endTime : Int
  deriving DecidableEq, Repr

/-- What `DumpEventInfo` uses of other repositories. `query` is `HiSysEventManager::Query`
    with the events its callback collects, or `none` when it fails or times out. -/
structure EventEnv where
  query : QueryArg → List (String × List String) → Option (List HiSysEventRecord)
  getKillReason : Int → String

namespace DumpEventInfo

/-- `FAULTEVENTSET`. -/
def faultEventSet : List String :=
  ["Js Error", "Cpp Crash", "THREAD_BLOCK_6S", "APP_INPUT_BLOCK", "LIFECYCLE_TIMEOUT",
    "JsError", "CppCrash", "ThreadBlock6S", "AppInputBlock", "LifecycleTimeout"]

/-- `IsPkEventCandidate`: the kill id of a candidate. -/
def isPkEventCandidate (event : HiSysEventRecord) (param : EventQueryParam) : Option Int :=
  match event.getParamString "PROCESS_NAME", event.getParamString "id_",
    event.getParamInt64 "KILL_ID" with
  | some processName, some eventId, some killId =>
    if killId < -2 ^ 31 || killId > 2 ^ 31 - 1 then none
    else if param.processName ≠ "" && !contains processName param.processName then none
    else if param.eventId = "" || startWith eventId param.eventId then some killId
    else none
  | _, _, _ => none

/-- `DumpEventInfo::SortEventsByTimeDesc`. -/
def sortEventsByTimeDesc (events : List HiSysEventRecord) : List HiSysEventRecord :=
  events.mergeSort fun a b => decide (a.time ≥ b.time)

section

variable (env : EventEnv)

/-- `DumpEventInfo::DumpEventList` without sorting: `events` with what was found, `none`
    for `false`. -/
def dumpEventList (events : List HiSysEventRecord) (param : EventQueryParam) :
    Option (List HiSysEventRecord) :=
  let startTime := if param.startTime = 0 then -1 else param.startTime
  let endTime := if param.endTime = 0 then -1 else param.endTime
  (env.query ⟨startTime, endTime⟩ param.queryRule).map fun queried => events ++ queried

/-- The two sets that `ExtractPkRunningIdsAndFaultTypes` fills in, and its flag. -/
structure PkSets where
  notFaultEvents : Bool := false
  pkRunningIdSet : List String := []
  faultEventQuerySet : List String := []
  deriving DecidableEq, Repr

/-- The part of `ExtractPkRunningIdsAndFaultTypes` that inserts the event names of a
    reason. A lifecycle timeout is reported under one of two names. -/
def insertFaultTypes (reason : String) (faultEventQuerySet : List String) : List String :=
  if reason = "Cpp Crash" || reason = "CppCrash" then faultEventQuerySet.insert "CPP_CRASH"
  else if reason = "Js Error" || reason = "JsError" then faultEventQuerySet.insert "JS_ERROR"
  else if reason = "LIFECYCLE_TIMEOUT" || reason = "LifecycleTimeout" then
    (faultEventQuerySet.insert "SYS_FREEZE").insert "APP_FREEZE"
  else if reason = "THREAD_BLOCK_6S" || reason = "ThreadBlock6S" ||
      reason = "APP_INPUT_BLOCK" || reason = "AppInputBlock" then
    faultEventQuerySet.insert "APP_FREEZE"
  else faultEventQuerySet

/-- One turn of the loop of `ExtractPkRunningIdsAndFaultTypes`. -/
def extractPkEvent (param : EventQueryParam) (sets : PkSets) (event : HiSysEventRecord) : PkSets :=
  match isPkEventCandidate event param with
  | none => sets
  | some killId =>
    let reason := env.getKillReason killId
    if !faultEventSet.contains reason then { sets with notFaultEvents := true }
    else
      match event.runningId with
      | none => sets
      | some runningId =>
        { sets with
          pkRunningIdSet := sets.pkRunningIdSet.insert runningId
          faultEventQuerySet := insertFaultTypes reason sets.faultEventQuerySet }

/-- `DumpEventInfo::ExtractPkRunningIdsAndFaultTypes`. -/
def extractPkRunningIdsAndFaultTypes (pkEvents : List HiSysEventRecord) (param : EventQueryParam) :
    EventDumpResult × PkSets :=
  let sets := pkEvents.foldl (extractPkEvent env param) {}
  if sets.pkRunningIdSet.isEmpty then
    (if sets.notFaultEvents then .notFaultEvent else .noneProcessKillEvent, sets)
  else (.eventDumpOk, sets)

/-- `DumpEventInfo::FillQueryParam`. -/
def fillQueryParam (param : EventQueryParam) (faultEventQuerySet : List String) : EventQueryParam :=
  { param with
    startTime := 0
    endTime := 0
    queryRule :=
      (if "CPP_CRASH" ∈ faultEventQuerySet then [("RELIABILITY", ["CPP_CRASH"])] else []) ++
      (if "JS_ERROR" ∈ faultEventQuerySet then
        [("AAFWK", ["JS_ERROR"]), ("ACE", ["JS_ERROR"])] else []) ++
      (if "SYS_FREEZE" ∈ faultEventQuerySet then [("RELIABILITY", ["SYS_FREEZE"])] else []) ++
      (if "APP_FREEZE" ∈ faultEventQuerySet then [("RELIABILITY", ["APP_FREEZE"])] else []) }

/-- The query rule of the first query of `DumpFaultEventListByPK`. -/
def processKillRule : List (String × List String) :=
  [("FRAMEWORK", ["PROCESS_KILL"]), ("KERNEL_VENDOR", ["PROCESS_KILL"])]

/-- `DumpEventInfo::DumpFaultEventListByPK`: the result and `events`. -/
def dumpFaultEventListByPK (events : List HiSysEventRecord) (param : EventQueryParam) :
    EventDumpResult × List HiSysEventRecord :=
  let param := { param with queryRule := processKillRule }
  match dumpEventList env [] param with
  | none => (.eventDumpFail, events)
  | some pkEvents =>
    if pkEvents.isEmpty then (.noneProcessKillEvent, events)
    else
      let extracted := extractPkRunningIdsAndFaultTypes env pkEvents param
      if extracted.1 ≠ .eventDumpOk then (extracted.1, events)
      else
        match dumpEventList env [] (fillQueryParam param extracted.2.faultEventQuerySet) with
        | none => (.eventDumpFail, events)
        | some faultEvents =>
          let matched := faultEvents.filter fun event =>
            match event.runningId with
            | none => false
            | some runningId => extracted.2.pkRunningIdSet.contains runningId
          (.eventDumpOk, sortEventsByTimeDesc (events ++ matched))

end

end DumpEventInfo

end HiDumper.Native
