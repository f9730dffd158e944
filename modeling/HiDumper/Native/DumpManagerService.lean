import HiDumper.ForStd.UnorderedMap
import HiDumper.Native.TaskStruct

/-!
# DumpManagerService: admission of requests

Model of the request path of `services/native/src/dump_manager_service.cpp`.
Every `Request` call runs on a thread of its own and goes through the phases
below; a step is the part of the call between two acquisitions of `mutex_`, or
one file system operation of `DumpLogManager`. Threads interleave freely.

Left out: the dump itself (`DumpImplement::Main`), which touches none of the
state here, and the zip folder that `EraseLogs` cleans.
-/

namespace HiDumper.Native

/-- `REQUEST_MAX` of `dump_manager_service.cpp`. -/
def requestMax : Nat := 5

/-- `REQUESTID_MAX` of `dump_manager_service.cpp`. -/
def requestIdMax : Nat := 100000

/-- What a client passes to `Request`, and who the client is. -/
structure RequestCall where
  args : List String
  outfd : Int
  callingUid : Int
  callingPid : Int
  hasDumpPermission : Bool
  deriving DecidableEq, Repr

/-- `RawParam`: a registered request. -/
structure RawParam where
  uid : Int
  pid : Int
  reqId : Nat
  args : List String
  outfd : Int
  deriving DecidableEq, Repr

/-- Where a `Request` call stands. -/
inductive RequestPhase where
  /-- Past the check of `GetRequestSum`; `needInit` when it read 0. -/
  | admitted (call : RequestCall) (needInit : Bool)
  /-- Past `AddRequestRawParam`. -/
  | registered (rawParam : RawParam)
  /-- Past `CreateTmpFolder`. -/
  | running (rawParam : RawParam)
  /-- Past `EraseTmpFolder`. -/
  | finishing (rawParam : RawParam)
  deriving DecidableEq, Repr

/-- State of the service and of the calls in progress, by thread. -/
structure DumpManagerService where
  started : Bool
  blockRequest : Bool
  requestIndex : Nat
  requestRawParamMap : UnorderedMap Nat RawParam
  /-- The folders under `TMP_FOLDER`, by request id. -/
  tmpFolders : List Nat
  calls : UnorderedMap Nat RequestPhase

/-- The service after `OnStart`. -/
def DumpManagerService.init : DumpManagerService := ⟨true, false, 0, ∅, [], ∅⟩

namespace DumpManagerService

/-- `DumpManagerService::GetRequestSum`. -/
def getRequestSum (s : DumpManagerService) : Nat := s.requestRawParamMap.entries.length

/-- `DumpManagerService::GetRequestId`: the new `requestIndex_`. -/
def getRequestId (requestIndex : Nat) : Nat := (requestIndex + 1) % requestIdMax

/-- The `do ... while` of `AddRequestRawParam` that looks for an unused id. -/
def findRequestId (requestRawParamMap : UnorderedMap Nat RawParam) : Nat → Nat → Option Nat
  | 0, _ => none
  | fuel + 1, requestIndex =>
    let requestId := getRequestId requestIndex
    if requestId ∈ requestRawParamMap then findRequestId requestRawParamMap fuel requestId
    else some requestId

/-- `DumpManagerService::AddRequestRawParam`. After `requestIdMax` tries the loop
    has seen every id, so it ends by then or not at all. -/
def addRequestRawParam (s : DumpManagerService) (call : RequestCall) :
    Option (RawParam × DumpManagerService) :=
  (findRequestId s.requestRawParamMap requestIdMax s.requestIndex).map fun requestId =>
    let requestHandle : RawParam :=
      ⟨call.callingUid, call.callingPid, requestId, call.args, call.outfd⟩
    (requestHandle,
      { s with
        requestIndex := requestId
        requestRawParamMap := s.requestRawParamMap.emplace requestId requestHandle })

/-- `DumpManagerService::EraseRequestRawParam`. -/
def eraseRequestRawParam (s : DumpManagerService) (rawParam : RawParam) : DumpManagerService :=
  { s with requestRawParamMap := s.requestRawParamMap.erase rawParam.reqId }

/-- The steps of a `Request` call. -/
inductive Action where
  /-- Entry, permission and the comparison of `GetRequestSum` with `REQUEST_MAX`. -/
  | request (thread : Nat) (call : RequestCall)
  /-- `DumpLogManager::Init`, which empties `TMP_FOLDER`. -/
  | logManagerInit (thread : Nat)
  | addRequestRawParam (thread : Nat)
  | createTmpFolder (thread : Nat)
  | eraseTmpFolder (thread : Nat)
  | eraseRequestRawParam (thread : Nat)
  deriving DecidableEq, Repr

/-- Whether `Request` gets past its checks. -/
def admits (s : DumpManagerService) (call : RequestCall) : Bool :=
  !s.blockRequest && s.started && call.hasDumpPermission && decide (s.getRequestSum < requestMax)

/-- One step of one thread. A refused `Request` returns at once. -/
def step (s : DumpManagerService) : Action → Option DumpManagerService
  | .request thread call =>
    if thread ∈ s.calls then none
    else if s.admits call then
      some { s with calls := s.calls.insert thread (.admitted call (s.getRequestSum == 0)) }
    else some s
  | .logManagerInit thread =>
    match s.calls.lookup thread with
    | some (.admitted call true) =>
      some { s with tmpFolders := [], calls := s.calls.insert thread (.admitted call false) }
    | _ => none
  | .addRequestRawParam thread =>
    match s.calls.lookup thread with
    | some (.admitted call false) =>
      (s.addRequestRawParam call).map fun added =>
        { added.2 with calls := s.calls.insert thread (.registered added.1) }
    | _ => none
  | .createTmpFolder thread =>
    match s.calls.lookup thread with
    | some (.registered rawParam) =>
      some { s with
        tmpFolders := s.tmpFolders.insert rawParam.reqId
        calls := s.calls.insert thread (.running rawParam) }
    | _ => none
  | .eraseTmpFolder thread =>
    match s.calls.lookup thread with
    | some (.running rawParam) =>
      some { s with
        tmpFolders := s.tmpFolders.filter fun id => id ≠ rawParam.reqId
        calls := s.calls.insert thread (.finishing rawParam) }
    | _ => none
  | .eraseRequestRawParam thread =>
    match s.calls.lookup thread with
    | some (.finishing rawParam) =>
      some { s.eraseRequestRawParam rawParam with calls := s.calls.erase thread }
    | _ => none

end DumpManagerService

/-! ## Temporary folders -/

namespace DumpLogManager

/-- `TMP_FOLDER` of `dump_log_manager.cpp`. -/
def tmpFolder : String := "/data/log/hidumper/tmp/"

/-- `IncludeTrailingPathDelimiter`. -/
def includeTrailingPathDelimiter (path : String) : String :=
  if path.toList.getLast? = some '/' then path else path ++ "/"

/-- The path that `CreateTmpFolder` creates and `EraseTmpFolder` removes. -/
def tmpFolderPath (id : Nat) : String :=
  includeTrailingPathDelimiter (tmpFolder ++ toString id)

end DumpLogManager

end HiDumper.Native
