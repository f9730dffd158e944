import Mathlib
import HiDumper.ForStd.Delivery
import HiDumper.Native.DumpBroker

/-!
# Calls of IDumpBroker across processes

A session of calls through the proxy and the stub is the same session on the service itself,
with the descriptors the service's process received and the results a proxy passes on. Over a
connection that may lose a call or its reply, a `Request` of the client still reaches the
service at most once, and `DUMP_OK` is never made up.

## Key results

- `proxy_session_eq`: the proxy and the stub add nothing to a session and lose nothing of it
- `client_session_delivered`: requests through the client are served at most once, in order
-/

namespace HiDumper.Spec

open HiDumper.Native
open Delivery (ReadsAs)

variable {Str16 α σ : Type}

/-! ## Parcels that give back what was written -/

/-- What a read finds behind the data of a write. A descriptor arrives as another one for
    the same file, a count written as `int32_t` as the same bits. -/
structure ParcelReadsBack (parcel : MessageParcel Str16 α) (received : Int32 → Int32) : Prop where
  interfaceToken : ReadsAs parcel.writeInterfaceToken
    (fun data => some (parcel.readInterfaceToken data)) id
  string16Vector : ReadsAs parcel.writeString16Vector parcel.readString16Vector id
  fileDescriptor : ReadsAs parcel.writeFileDescriptor
    (fun data => some (parcel.readFileDescriptor data)) received
  string : ReadsAs parcel.writeString parcel.readString id
  int32 : ReadsAs parcel.writeInt32 parcel.readInt32 id
  uint32 : ReadsAs parcel.writeInt32 parcel.readUint32 Int32.toUInt32
  int32Vector : ReadsAs parcel.writeInt32Vector parcel.readInt32Vector id
  stringVector : ReadsAs parcel.writeStringVector parcel.readStringVector id
  /-- The codes of `dump_errors.h` are positive. -/
  dumperServiceErrOffset : 0 < parcel.dumperServiceErrOffset.toInt ∧
    parcel.dumperServiceErrOffset.toInt < 2 ^ 31 - 4

/-- A parcel takes every value, of the descriptors the open ones. -/
structure ParcelHasRoom (parcel : MessageParcel Str16 α) (received : Int32 → Int32) : Prop where
  interfaceToken : ∀ token, (parcel.writeInterfaceToken token).isSome
  string16Vector : ∀ value, (parcel.writeString16Vector value).isSome
  fileDescriptor : ∀ fd, 0 ≤ fd → (parcel.writeFileDescriptor fd).isSome ∧ 0 ≤ received fd
  string : ∀ value, (parcel.writeString value).isSome
  int32 : ∀ value, (parcel.writeInt32 value).isSome
  int32Vector : ∀ value, (parcel.writeInt32Vector value).isSome
  stringVector : ∀ value, (parcel.writeStringVector value).isSome

section Reads

variable {parcel : MessageParcel Str16 α} {received : Int32 → Int32}

private theorem readInterfaceToken_append (h : ParcelReadsBack parcel received) {token : Str16}
    {data : List α}
    (hwrite : parcel.writeInterfaceToken token = some data) (rest : List α) :
    parcel.readInterfaceToken (data ++ rest) = (token, rest) :=
  Option.some.inj (h.interfaceToken token data hwrite rest)

private theorem readStringValue_append (h : ParcelReadsBack parcel received) {value : String}
    {data : List α}
    (hwrite : parcel.writeString value = some data) (rest : List α) :
    parcel.readStringValue (data ++ rest) = (value, rest) := by
  simp only [MessageParcel.readStringValue, h.string value data hwrite rest, Option.getD_some, id]

private theorem readInt32Value_append (h : ParcelReadsBack parcel received) {value : Int32}
    {data : List α}
    (hwrite : parcel.writeInt32 value = some data) (rest : List α) :
    parcel.readInt32Value (data ++ rest) = (value, rest) := by
  simp only [MessageParcel.readInt32Value, h.int32 value data hwrite rest, Option.getD_some, id]

private theorem readInt32Value_last (h : ParcelReadsBack parcel received) {value : Int32}
    {data : List α}
    (hwrite : parcel.writeInt32 value = some data) :
    parcel.readInt32Value data = (value, []) := by
  have hread := readInt32Value_append h hwrite []
  rwa [List.append_nil] at hread

private theorem readFileDescriptor_last (h : ParcelReadsBack parcel received) {fd : Int32}
    {data : List α}
    (hwrite : parcel.writeFileDescriptor fd = some data) :
    (parcel.readFileDescriptor data).1 = received fd := by
  have hread := h.fileDescriptor.last hwrite
  rw [Option.some.inj hread]

/-- The codes of `dump_errors.h` are not `ERR_OK`. -/
private theorem errorCode_ne_errOk (h : ParcelReadsBack parcel received) (code : Int32)
    (hpos : 0 ≤ code.toInt) (hle : code.toInt ≤ 4) : parcel.dumperServiceErrOffset + code ≠ errOk := by
  have hoffset := h.dumperServiceErrOffset
  intro heq
  have hval : (parcel.dumperServiceErrOffset + code).toInt = 0 := by
    rw [heq]; rfl
  rw [Int32.toInt_add, Int.bmod_def] at hval
  omega

private theorem errorWriteParcel_ne_errOk (h : ParcelReadsBack parcel received) :
    parcel.errorWriteParcel ≠ errOk := by
  have hne := errorCode_ne_errOk h 0 (by decide) (by decide)
  rwa [Int32.add_zero] at hne

private theorem errorReadParcel_ne_errOk (h : ParcelReadsBack parcel received) :
    parcel.errorReadParcel ≠ errOk :=
  errorCode_ne_errOk h _ (by decide) (by decide)

private theorem errorGetSystemAbilityManager_ne_errOk (h : ParcelReadsBack parcel received) :
    parcel.errorGetSystemAbilityManager ≠ errOk :=
  errorCode_ne_errOk h _ (by decide) (by decide)

private theorem errorGetDumperService_ne_errOk (h : ParcelReadsBack parcel received) :
    parcel.errorGetDumperService ≠ errOk :=
  errorCode_ne_errOk h _ (by decide) (by decide)

/-- The stub of `Request` calls the service or answers with a code other than `ERR_OK`, and
    its reply holds the code of the service. -/
private theorem requestFileFdStub_cases (h : ParcelReadsBack parcel received)
    (service : IDumpBroker Str16 σ)
    {args : List Str16} {vector : List α} (hvector : parcel.writeString16Vector args = some vector)
    {outfd : Int32} {fd : List α} (hfd : parcel.writeFileDescriptor outfd = some fd) (s : σ) :
    let answered := DumpBrokerStub.requestFileFdStub parcel service (vector ++ fd) s
    let served := service.request args (received outfd) s
    (answered.2 = s ∧ answered.1.1 = parcel.errorReadParcel) ∨
      (answered.2 = served.2 ∧ answered.1.1 = parcel.errorWriteParcel) ∨
      (answered.2 = served.2 ∧ answered.1.1 = errOk ∧
        ∃ rest, parcel.readInt32 answered.1.2 = some (served.1, rest)) := by
  rcases hcall : service.request args (received outfd) s with ⟨res, s'⟩
  simp only [DumpBrokerStub.requestFileFdStub, h.string16Vector args vector hvector, id,
    readFileDescriptor_last h hfd, hcall]
  by_cases hneg : received outfd < 0
  · simp [hneg]
  · simp only [hneg, if_false]
    cases hreply : parcel.writeInt32 res with
    | none => simp
    | some reply => simp [h.int32.last hreply]

end Reads

/-- An item of a parcel. -/
inductive BrokerItem where
  | token (value : String)
  | strings16 (value : List String)
  | fd (value : Int32)
  | string (value : String)
  | int32 (value : Int32)
  | int32s (value : List Int32)
  | strings (value : List String)
  deriving DecidableEq

/-- A parcel of whole items, whose receiver gets a descriptor under the same number. -/
def itemParcel : MessageParcel String BrokerItem where
  writeInterfaceToken token := some [.token token]
  writeString16Vector value := some [.strings16 value]
  writeFileDescriptor fd := some [.fd fd]
  writeString value := some [.string value]
  writeInt32 value := some [.int32 value]
  writeInt32Vector value := some [.int32s value]
  writeStringVector value := some [.strings value]
  readInterfaceToken
    | .token value :: rest => (value, rest)
    | data => ("", data)
  readString16Vector
    | .strings16 value :: rest => some (value, rest)
    | _ => none
  readFileDescriptor
    | .fd value :: rest => (value, rest)
    | data => (-1, data)
  readString
    | .string value :: rest => some (value, rest)
    | _ => none
  readInt32
    | .int32 value :: rest => some (value, rest)
    | _ => none
  readUint32
    | .int32 value :: rest => some (value.toUInt32, rest)
    | _ => none
  readInt32Vector
    | .int32s value :: rest => some (value, rest)
    | _ => none
  readStringVector
    | .strings value :: rest => some (value, rest)
    | _ => none
  getDescriptor := "ohos.HiviewDFX.HiDumper.IDumpBroker"
  dumperServiceErrOffset := 85983232

/-- Items are read as they were written. -/
private theorem itemParcel_readsBack : ParcelReadsBack itemParcel id := by
  refine ⟨?_, ?_, ?_, ?_, ?_, ?_, ?_, ?_, by decide⟩ <;>
  · intro value data hwrite rest
    cases hwrite
    rfl

/-- A parcel of items is never full. -/
private theorem itemParcel_hasRoom : ParcelHasRoom itemParcel id where
  interfaceToken _ := rfl
  string16Vector _ := rfl
  fileDescriptor _ hfd := ⟨rfl, hfd⟩
  string _ := rfl
  int32 _ := rfl
  int32Vector _ := rfl
  stringVector _ := rfl

/-- A service that counts the calls and refuses negative thresholds. -/
def countingService : IDumpBroker String Nat where
  request _ _ s := (0, s + 1)
  scanPidOverLimit _ limitSize pidList s :=
    (if limitSize < 0 then (-1, pidList) else (0, pidList ++ [s.toInt32]), s + 1)
  countFdNums _ _ _ types s := ((0, 3000000000, "3000000000", types ++ ["socket"]), s + 1)
  scanOrphanVnodeOverLimit leak _ infos s :=
    (if leak < 0 then (-1, infos) else (0, infos ++ ["vnode"]), s + 1)

/-! ## Calls as data -/

/-- A call of `IDumpBroker`, with what its output parameters hold before. -/
inductive BrokerCall (Str16 : Type) where
  | request (args : List Str16) (outfd : Int32)
  | scanPidOverLimit (requestType : String) (limitSize : Int32) (pidList : List Int32)
  | countFdNums (pid : Int32) (fdNums : UInt32) (detailFdInfo : String)
      (topLeakedTypeList : List String)
  | scanOrphanVnodeOverLimit (fdLeakThreshold orphanVnodeThreshold : Int32)
      (topOrphanVnodeInfoList : List String)

/-- What a call gives: its result and its outputs. -/
inductive BrokerAnswer where
  | request (ret : Int32)
  | scanPidOverLimit (ret : Int32) (pidList : List Int32)
  | countFdNums (ret : Int32) (fdNums : UInt32) (detailFdInfo : String)
      (topLeakedTypeList : List String)
  | scanOrphanVnodeOverLimit (ret : Int32) (topOrphanVnodeInfoList : List String)
  deriving DecidableEq

/-- One call on a broker. -/
def callBroker (broker : IDumpBroker Str16 σ) : BrokerCall Str16 → σ → BrokerAnswer × σ
  | .request args outfd, s =>
    let (ret, s) := broker.request args outfd s
    (.request ret, s)
  | .scanPidOverLimit requestType limitSize pidList, s =>
    let ((ret, pidList), s) := broker.scanPidOverLimit requestType limitSize pidList s
    (.scanPidOverLimit ret pidList, s)
  | .countFdNums pid fdNums detailFdInfo topLeakedTypeList, s =>
    let ((ret, fdNums, detailFdInfo, topLeakedTypeList), s) :=
      broker.countFdNums pid fdNums detailFdInfo topLeakedTypeList s
    (.countFdNums ret fdNums detailFdInfo topLeakedTypeList, s)
  | .scanOrphanVnodeOverLimit fdLeakThreshold orphanVnodeThreshold infos, s =>
    let ((ret, infos), s) :=
      broker.scanOrphanVnodeOverLimit fdLeakThreshold orphanVnodeThreshold infos s
    (.scanOrphanVnodeOverLimit ret infos, s)

/-- The call as the service gets it: empty outputs, and the received descriptor. -/
def receivedCall (received : Int32 → Int32) : BrokerCall Str16 → BrokerCall Str16
  | .request args outfd => .request args (received outfd)
  | .scanPidOverLimit requestType limitSize _ => .scanPidOverLimit requestType limitSize []
  | .countFdNums pid _ _ _ => .countFdNums pid 0 "" []
  | .scanOrphanVnodeOverLimit fdLeakThreshold orphanVnodeThreshold _ =>
    .scanOrphanVnodeOverLimit fdLeakThreshold orphanVnodeThreshold []

/-- What the caller gets for the service's answer: a result other than `ERR_OK` of one of
    the three scans arrives as -1, with the caller's outputs as they were. -/
def passedOn : BrokerCall Str16 → BrokerAnswer → BrokerAnswer
  | .scanPidOverLimit _ _ pidList, .scanPidOverLimit ret pidList' =>
    if ret = errOk then .scanPidOverLimit ret pidList' else .scanPidOverLimit (-1) pidList
  | .countFdNums _ fdNums detailFdInfo types, .countFdNums ret fdNums' detailFdInfo' types' =>
    if ret = errOk then .countFdNums ret fdNums' detailFdInfo' types'
    else .countFdNums (-1) fdNums detailFdInfo types
  | .scanOrphanVnodeOverLimit _ _ infos, .scanOrphanVnodeOverLimit ret infos' =>
    if ret = errOk then .scanOrphanVnodeOverLimit ret infos'
    else .scanOrphanVnodeOverLimit (-1) infos
  | _, answer => answer

/-- A `Request` is given an open descriptor. -/
def opensOutfd : BrokerCall Str16 → Prop
  | .request _ outfd => 0 ≤ outfd
  | _ => True

/-! ## Proxy and stub -/

section Loopback

variable [DecidableEq Str16] {parcel : MessageParcel Str16 α} {received : Int32 → Int32}

/-- The service behind its stub. -/
def stubObject (parcel : MessageParcel Str16 α) (service : IDumpBroker Str16 σ) :
    IRemoteObject α σ where
  sendRequest := DumpBrokerStub.onRemoteRequest parcel service

/-- Behind the descriptor of the interface the stub goes on to the code. -/
private theorem onRemoteRequest_token (h : ParcelReadsBack parcel received)
    (service : IDumpBroker Str16 σ)
    {token : List α} (htoken : parcel.writeInterfaceToken parcel.getDescriptor = some token)
    (code : HidumperServiceInterfaceCode) (data : List α) (s : σ) :
    DumpBrokerStub.onRemoteRequest parcel service code (token ++ data) s =
      match code with
      | .dumpRequestFilefd => DumpBrokerStub.requestFileFdStub parcel service data s
      | .scanPidOverLimit => DumpBrokerStub.scanPidOverLimitStub parcel service data s
      | .countFdNums => DumpBrokerStub.countFdNumsStub parcel service data s
      | .scanOrphanVnodeOverLimit =>
        DumpBrokerStub.scanOrphanVnodeOverLimitStub parcel service data s := by
  cases code <;>
    simp only [DumpBrokerStub.onRemoteRequest, readInterfaceToken_append h htoken, ne_eq,
      not_true_eq_false, if_false]

/-- `Request` through the stub. -/
private theorem proxy_request (h : ParcelReadsBack parcel received)
    (hroom : ParcelHasRoom parcel received)
    (service : IDumpBroker Str16 σ) (args : List Str16) {outfd : Int32} (hfd : 0 ≤ outfd)
    (s : σ) :
    (dumpBrokerProxy parcel (some (stubObject parcel service))).request args outfd s =
      service.request args (received outfd) s := by
  obtain ⟨token, htoken⟩ := Option.isSome_iff_exists.mp (hroom.interfaceToken parcel.getDescriptor)
  obtain ⟨vector, hvector⟩ := Option.isSome_iff_exists.mp (hroom.string16Vector args)
  obtain ⟨hfdSome, hreceived⟩ := hroom.fileDescriptor outfd hfd
  obtain ⟨fd, hfd'⟩ := Option.isSome_iff_exists.mp hfdSome
  cases hcall : service.request args (received outfd) s with
  | mk ret s' =>
    obtain ⟨reply, hreply⟩ := Option.isSome_iff_exists.mp (hroom.int32 ret)
    have hnot : ¬received outfd < 0 := by simpa using hreceived
    simp only [dumpBrokerProxy, DumpBrokerProxy.request, htoken, hvector, hfd', stubObject,
      onRemoteRequest_token h service htoken, DumpBrokerStub.requestFileFdStub,
      h.string16Vector args vector hvector, id, readFileDescriptor_last h hfd', hnot, if_false,
      hcall, hreply, h.int32.last hreply, ne_eq, not_true_eq_false]

/-- `ScanPidOverLimit` through the stub. -/
private theorem proxy_scanPidOverLimit (h : ParcelReadsBack parcel received)
    (hroom : ParcelHasRoom parcel received)
    (service : IDumpBroker Str16 σ) (requestType : String) (limitSize : Int32)
    (pidList : List Int32) (s : σ) :
    (dumpBrokerProxy parcel (some (stubObject parcel service))).scanPidOverLimit requestType
        limitSize pidList s =
      let answer := service.scanPidOverLimit requestType limitSize [] s
      (if answer.1.1 = errOk then answer.1 else (-1, pidList), answer.2) := by
  obtain ⟨token, htoken⟩ := Option.isSome_iff_exists.mp (hroom.interfaceToken parcel.getDescriptor)
  obtain ⟨type, htype⟩ := Option.isSome_iff_exists.mp (hroom.string requestType)
  obtain ⟨limit, hlimit⟩ := Option.isSome_iff_exists.mp (hroom.int32 limitSize)
  rcases hcall : service.scanPidOverLimit requestType limitSize [] s with ⟨⟨ret, found⟩, s'⟩
  obtain ⟨pids, hpids⟩ := Option.isSome_iff_exists.mp (hroom.int32Vector found)
  obtain ⟨code, hcode⟩ := Option.isSome_iff_exists.mp (hroom.int32 ret)
  simp only [dumpBrokerProxy, DumpBrokerProxy.scanPidOverLimit, htoken, htype, hlimit,
    Option.getD_some, stubObject, onRemoteRequest_token h service htoken,
    DumpBrokerStub.scanPidOverLimitStub, readStringValue_append h htype,
    readInt32Value_last h hlimit, hcall, hpids, hcode]
  by_cases hret : ret = errOk
  · simp only [hret, ne_eq, not_true_eq_false, if_false, if_true,
      h.int32Vector found pids hpids, id, h.int32.last (hret ▸ hcode)]
  · simp only [hret, ne_eq, not_false_eq_true, if_true, if_false]

/-- `CountFdNums` through the stub. -/
private theorem proxy_countFdNums (h : ParcelReadsBack parcel received)
    (hroom : ParcelHasRoom parcel received)
    (service : IDumpBroker Str16 σ) (pid : Int32) (fdNums : UInt32) (detailFdInfo : String)
    (topLeakedTypeList : List String) (s : σ) :
    (dumpBrokerProxy parcel (some (stubObject parcel service))).countFdNums pid fdNums
        detailFdInfo topLeakedTypeList s =
      let answer := service.countFdNums pid 0 "" [] s
      (if answer.1.1 = errOk then answer.1 else (-1, fdNums, detailFdInfo, topLeakedTypeList),
        answer.2) := by
  obtain ⟨token, htoken⟩ := Option.isSome_iff_exists.mp (hroom.interfaceToken parcel.getDescriptor)
  obtain ⟨pidData, hpid⟩ := Option.isSome_iff_exists.mp (hroom.int32 pid)
  rcases hcall : service.countFdNums pid 0 "" [] s with ⟨⟨ret, fdNums', detail', types'⟩, s'⟩
  obtain ⟨nums, hnums⟩ := Option.isSome_iff_exists.mp (hroom.int32 fdNums'.toInt32)
  obtain ⟨detail, hdetail⟩ := Option.isSome_iff_exists.mp (hroom.string detail')
  obtain ⟨types, htypes⟩ := Option.isSome_iff_exists.mp (hroom.stringVector types')
  obtain ⟨code, hcode⟩ := Option.isSome_iff_exists.mp (hroom.int32 ret)
  simp only [dumpBrokerProxy, DumpBrokerProxy.countFdNums, htoken, hpid, Option.getD_some,
    stubObject, onRemoteRequest_token h service htoken, DumpBrokerStub.countFdNumsStub,
    readInt32Value_last h hpid, hcall, hnums, hdetail, htypes, hcode]
  by_cases hret : ret = errOk
  · simp only [hret, ne_eq, not_true_eq_false, if_false, if_true,
      h.uint32 fdNums'.toInt32 nums hnums, h.string detail' detail hdetail,
      h.stringVector types' types htypes, h.int32.last (hret ▸ hcode), id,
      UInt32.toUInt32_toInt32]
  · simp only [hret, ne_eq, not_false_eq_true, if_true, if_false]

/-- `ScanOrphanVnodeOverLimit` through the stub. -/
private theorem proxy_scanOrphanVnodeOverLimit (h : ParcelReadsBack parcel received)
    (hroom : ParcelHasRoom parcel received) (service : IDumpBroker Str16 σ)
    (fdLeakThreshold orphanVnodeThreshold : Int32) (infos : List String) (s : σ) :
    (dumpBrokerProxy parcel (some (stubObject parcel service))).scanOrphanVnodeOverLimit
        fdLeakThreshold orphanVnodeThreshold infos s =
      let answer := service.scanOrphanVnodeOverLimit fdLeakThreshold orphanVnodeThreshold [] s
      (if answer.1.1 = errOk then answer.1 else (-1, infos), answer.2) := by
  obtain ⟨token, htoken⟩ := Option.isSome_iff_exists.mp (hroom.interfaceToken parcel.getDescriptor)
  obtain ⟨leak, hleak⟩ := Option.isSome_iff_exists.mp (hroom.int32 fdLeakThreshold)
  obtain ⟨orphan, horphan⟩ := Option.isSome_iff_exists.mp (hroom.int32 orphanVnodeThreshold)
  rcases hcall : service.scanOrphanVnodeOverLimit fdLeakThreshold orphanVnodeThreshold [] s with
    ⟨⟨ret, found⟩, s'⟩
  obtain ⟨top, htop⟩ := Option.isSome_iff_exists.mp (hroom.stringVector found)
  obtain ⟨code, hcode⟩ := Option.isSome_iff_exists.mp (hroom.int32 ret)
  simp only [dumpBrokerProxy, DumpBrokerProxy.scanOrphanVnodeOverLimit, htoken, hleak, horphan,
    Option.getD_some, stubObject, onRemoteRequest_token h service htoken,
    DumpBrokerStub.scanOrphanVnodeOverLimitStub, readInt32Value_append h hleak,
    readInt32Value_last h horphan, hcall, htop, hcode]
  by_cases hret : ret = errOk
  · simp only [hret, ne_eq, not_true_eq_false, if_false, if_true,
      h.stringVector found top htop, id, h.int32.last (hret ▸ hcode)]
  · simp only [hret, ne_eq, not_false_eq_true, if_true, if_false]

/-- One call through the proxy and the stub. -/
private theorem callBroker_proxy (h : ParcelReadsBack parcel received)
    (hroom : ParcelHasRoom parcel received)
    (service : IDumpBroker Str16 σ) (call : BrokerCall Str16) (hfd : opensOutfd call) (s : σ) :
    callBroker (dumpBrokerProxy parcel (some (stubObject parcel service))) call s =
      (passedOn call (callBroker service (receivedCall received call) s).1,
        (callBroker service (receivedCall received call) s).2) := by
  cases call with
  | request args outfd =>
    simp only [callBroker, receivedCall, proxy_request h hroom service args hfd, passedOn]
  | scanPidOverLimit requestType limitSize pidList =>
    simp only [callBroker, receivedCall, proxy_scanPidOverLimit h hroom, passedOn]
    split <;> rfl
  | countFdNums pid fdNums detailFdInfo topLeakedTypeList =>
    simp only [callBroker, receivedCall, proxy_countFdNums h hroom, passedOn]
    split <;> rfl
  | scanOrphanVnodeOverLimit fdLeakThreshold orphanVnodeThreshold infos =>
    simp only [callBroker, receivedCall, proxy_scanOrphanVnodeOverLimit h hroom, passedOn]
    split <;> rfl

/-- A session through the proxy and the stub is a session on the service: the same calls in
    the same order with the received descriptors, and the answers passed on. -/
theorem proxy_session_eq (h : ParcelReadsBack parcel received) (hroom : ParcelHasRoom parcel received)
    (service : IDumpBroker Str16 σ) (calls : List (BrokerCall Str16))
    (hfd : ∀ call ∈ calls, opensOutfd call) (s : σ) :
    Delivery.session (callBroker (dumpBrokerProxy parcel (some (stubObject parcel service))))
        calls s =
      (List.zipWith passedOn calls
          (Delivery.session (fun call => callBroker service (receivedCall received call)) calls s).1,
        (Delivery.session (fun call => callBroker service (receivedCall received call))
          calls s).2) :=
  Delivery.session_eq
    (fun call hmem s => callBroker_proxy h hroom service call (hfd call hmem) s) s

end Loopback

/-- Three calls, with a number that does not fit an `int32_t` among the answers. -/
theorem proxy_session_eq_counting :
    Delivery.session (callBroker (dumpBrokerProxy itemParcel
        (some (stubObject itemParcel countingService))))
      [.scanPidOverLimit "fd" (-1) [7], .countFdNums 12 0 "" ["old"], .request ["-h"] 3] 0 =
    ([.scanPidOverLimit (-1) [7], .countFdNums 0 3000000000 "3000000000" ["socket"],
      .request 0], 3) :=
  (proxy_session_eq itemParcel_readsBack itemParcel_hasRoom countingService _
    (by simp [opensOutfd]) 0).trans rfl

/-! ## A connection that loses calls -/

/-- A remote object that stands for the service's stub: what it sends is answered by the
    stub, or fails with an error code, before the stub has seen it or after it. -/
def ConnectsTo [DecidableEq Str16] (parcel : MessageParcel Str16 α)
    (service : IDumpBroker Str16 σ) (remote : IRemoteObject α σ) : Prop :=
  ∀ code data s,
    let answered := DumpBrokerStub.onRemoteRequest parcel service code data s
    let sent := remote.sendRequest code data s
    sent = answered ∨ (sent.1.1 ≠ errOk ∧ (sent.2 = s ∨ sent.2 = answered.2))

/-- A `Request` of the client with what it meets on its way. -/
structure ClientCall (Str16 α σ : Type) where
  connection : DumpManagerClient.Connection α σ
  args : List Str16
  outfd : Int32

/-- Every remote object the client may be given for this call stands for the service. -/
def ClientCall.reaches [DecidableEq Str16] (parcel : MessageParcel Str16 α)
    (service : IDumpBroker Str16 σ) (call : ClientCall Str16 α σ) : Prop :=
  (∀ remote ∈ call.connection.checkSystemAbility, ConnectsTo parcel service remote) ∧
    ∀ poll, ∀ remote ∈ call.connection.checkSystemAbilityAgain poll,
      ConnectsTo parcel service remote

/-- What the code of the client says about its call: of a served one, the service's code or
    -1; of one that was not served, -1 or one of the codes that name the step that failed. -/
def clientTells (parcel : MessageParcel Str16 α) (strings : StringEx)
    (str16ToStr8 : Str16 → String) (call : ClientCall Str16 α σ) (ret : Int32) :
    Option Int32 → Prop
  | none => ret = -1 ∨ ret = parcel.errorWriteParcel ∨
      ret = parcel.errorGetSystemAbilityManager ∨ ret = parcel.errorGetDumperService
  | some res => (ret = res ∨ ret = -1) ∧ call.args ≠ [] ∧ 0 ≤ call.outfd ∧
      ∀ arg ∈ call.args, DumpManagerClient.emptyArg strings str16ToStr8 arg = false

section Client

variable [DecidableEq Str16] {parcel : MessageParcel Str16 α} {received : Int32 → Int32}

/-- `Request` of a proxy whose remote object stands for the service. -/
private theorem proxy_request_cases (h : ParcelReadsBack parcel received)
    {service : IDumpBroker Str16 σ}
    {remote : IRemoteObject α σ} (hconnects : ConnectsTo parcel service remote)
    (args : List Str16) (outfd : Int32) (s : σ) :
    let out := DumpBrokerProxy.request parcel (some remote) args outfd s
    let served := service.request args (received outfd) s
    (out.2 = s ∧ (out.1 = -1 ∨ out.1 = parcel.errorWriteParcel)) ∨
      (out.2 = served.2 ∧ (out.1 = served.1 ∨ out.1 = -1)) := by
  simp only [DumpBrokerProxy.request]
  cases htoken : parcel.writeInterfaceToken parcel.getDescriptor with
  | none => exact .inl ⟨rfl, .inl rfl⟩
  | some token =>
    cases hvector : parcel.writeString16Vector args with
    | none => exact .inl ⟨rfl, .inr rfl⟩
    | some vector =>
      cases hfd : parcel.writeFileDescriptor outfd with
      | none => exact .inl ⟨rfl, .inr rfl⟩
      | some fd =>
        have hsent := hconnects .dumpRequestFilefd (token ++ (vector ++ fd)) s
        simp only [onRemoteRequest_token h service htoken] at hsent
        have hstub := requestFileFdStub_cases h service hvector hfd s
        rcases hout : remote.sendRequest .dumpRequestFilefd (token ++ (vector ++ fd)) s with
          ⟨⟨res, reply⟩, s'⟩
        simp only [hout] at hsent ⊢
        rcases hsent with hsent | ⟨hres, hstate⟩
        · rw [← hsent] at hstub
          rcases hstub with ⟨hstate, hres⟩ | ⟨hstate, hres⟩ | ⟨hstate, hres, rest, hread⟩
          · have hne : res ≠ errOk := by
              rw [show res = parcel.errorReadParcel from hres]
              exact errorReadParcel_ne_errOk h
            rw [if_pos hne]
            exact .inl ⟨hstate, .inl rfl⟩
          · have hne : res ≠ errOk := by
              rw [show res = parcel.errorWriteParcel from hres]
              exact errorWriteParcel_ne_errOk h
            rw [if_pos hne]
            exact .inr ⟨hstate, .inr rfl⟩
          · have heq : ¬res ≠ errOk := not_not_intro hres
            simp only at hread
            rw [if_neg heq, hread]
            exact .inr ⟨hstate, .inl rfl⟩
        · -- The connection failed: the stub has seen the call, or it has not.
          rw [if_pos hres]
          rcases hstate with hstate | hstate
          · exact .inl ⟨hstate, .inl rfl⟩
          · rcases hstub with ⟨hs, -⟩ | ⟨hs, -⟩ | ⟨hs, -, -⟩
            · exact .inl ⟨hstate.trans hs, .inl rfl⟩
            · exact .inr ⟨hstate.trans hs, .inr rfl⟩
            · exact .inr ⟨hstate.trans hs, .inr rfl⟩

/-- The remote object that `OnDemandStart` finds is one of those its polls were given. -/
private theorem pollSystemAbility_mem (connection : DumpManagerClient.Connection α σ) :
    ∀ loop poll, ∀ remote ∈ DumpManagerClient.pollSystemAbility connection poll loop,
      ∃ at_, remote ∈ connection.checkSystemAbilityAgain at_ := by
  intro loop
  induction loop with
  | zero => intro poll remote hmem; cases hmem
  | succ loop ih =>
    intro poll remote hmem
    simp only [DumpManagerClient.pollSystemAbility] at hmem
    split at hmem
    · cases hcheck : connection.checkSystemAbilityAgain poll with
      | some found =>
        rw [hcheck] at hmem
        exact ⟨poll, hcheck.trans hmem⟩
      | none =>
        rw [hcheck] at hmem
        exact ih (poll + 1) remote hmem
    · exact ih (poll + 1) remote hmem

/-- Whichever remote object the client gets stands for the service. -/
private theorem connectsTo_of_reaches {service : IDumpBroker Str16 σ} {call : ClientCall Str16 α σ}
    (hreaches : call.reaches parcel service) {remote : IRemoteObject α σ}
    (hmem : (call.connection.checkSystemAbility <|>
      DumpManagerClient.onDemandStart call.connection) = some remote) :
    ConnectsTo parcel service remote := by
  cases hcheck : call.connection.checkSystemAbility with
  | some found =>
    rw [hcheck] at hmem
    exact hreaches.1 remote (hcheck.trans hmem)
  | none =>
    rw [hcheck] at hmem
    have hstart : DumpManagerClient.onDemandStart call.connection = some remote := hmem
    simp only [DumpManagerClient.onDemandStart] at hstart
    split at hstart
    · cases hstart
    · obtain ⟨poll, hpoll⟩ := pollSystemAbility_mem call.connection _ _ remote hstart
      exact hreaches.2 poll remote hpoll

/-- The client's operation and the service's, for a call. -/
def clientRequest (parcel : MessageParcel Str16 α) (strings : StringEx)
    (str16ToStr8 : Str16 → String) (call : ClientCall Str16 α σ) (s : σ) : Int32 × σ :=
  DumpManagerClient.request parcel strings str16ToStr8 call.connection call.args call.outfd s

/-- The service's `Request` for a call of the client. -/
def serviceRequest (received : Int32 → Int32) (service : IDumpBroker Str16 σ)
    (call : ClientCall Str16 α σ) (s : σ) : Int32 × σ :=
  service.request call.args (received call.outfd) s

/-- One `Request` of the client reaches the service at most once. -/
private theorem clientRequest_atMostOnce (h : ParcelReadsBack parcel received) (strings : StringEx)
    (str16ToStr8 : Str16 → String) {service : IDumpBroker Str16 σ} {call : ClientCall Str16 α σ}
    (hreaches : call.reaches parcel service) :
    Delivery.AtMostOnce (clientRequest parcel strings str16ToStr8)
      (serviceRequest received service) (clientTells parcel strings str16ToStr8) call := by
  intro s
  simp only [clientRequest, serviceRequest, DumpManagerClient.request]
  split
  -- No argument, or a bad descriptor: nothing is sent.
  · exact .inl ⟨rfl, .inl rfl⟩
  · rename_i hguard
    simp only [Bool.or_eq_true, decide_eq_true_eq, not_or] at hguard
    obtain ⟨hargs, hfd⟩ := hguard
    split
    -- An empty argument: nothing is sent.
    · exact .inl ⟨rfl, .inl rfl⟩
    · rename_i hempty
      split
      -- No system ability manager, or no service behind it.
      · exact .inl ⟨rfl, .inr (.inr (.inl rfl))⟩
      · split
        · exact .inl ⟨rfl, .inr (.inr (.inr rfl))⟩
        · rename_i remote hremote
          split
          · exact .inl ⟨rfl, .inl rfl⟩
          -- Only here the call goes out: the proxy delivers it once or not at all.
          · have hconnects := connectsTo_of_reaches hreaches hremote
            rcases proxy_request_cases h hconnects call.args call.outfd s with
              ⟨hstate, hret⟩ | ⟨hstate, hret⟩
            · exact .inl ⟨hstate, hret.imp_right .inl⟩
            · refine .inr ⟨hstate, hret, ?_, by simpa using hfd, ?_⟩
              · intro hnil
                simp [hnil] at hargs
              · intro arg hmem
                simp only [List.any_eq_true, not_exists, not_and, Bool.not_eq_true] at hempty
                exact hempty arg hmem

/-- Requests through the client are served at most once and in order, whatever the
    connection does; a served one had arguments, none of them empty, and a descriptor. When
    all of them return `DUMP_OK`, the service has served them all with `DUMP_OK`. -/
theorem client_session_delivered (h : ParcelReadsBack parcel received) (strings : StringEx)
    (str16ToStr8 : Str16 → String) (service : IDumpBroker Str16 σ)
    (calls : List (ClientCall Str16 α σ)) (hreaches : ∀ call ∈ calls, call.reaches parcel service)
    (s : σ) :
    let client := Delivery.session (clientRequest parcel strings str16ToStr8) calls s
    let local_ := Delivery.session (serviceRequest received service) calls s
    Delivery.Delivered (serviceRequest received service)
        (clientTells parcel strings str16ToStr8) calls s client.1 client.2 ∧
      ((∀ ret ∈ client.1, ret = errOk) →
        client.2 = local_.2 ∧ ∀ res ∈ local_.1, res = errOk) := by
  have hdelivered := Delivery.Delivered.session
    (fun call hmem => clientRequest_atMostOnce h strings str16ToStr8 (hreaches call hmem)) s
  refine ⟨hdelivered, fun hok => ?_⟩
  -- A request that is lost tells an error code, and none of the codes is `ERR_OK`.
  have hnot : ∀ ret ∈ (Delivery.session (clientRequest parcel strings str16ToStr8) calls s).1,
      ∀ call ∈ calls, ¬clientTells parcel strings str16ToStr8 call ret none := by
    intro ret hret call _ htells
    rw [hok ret hret] at htells
    rcases htells with hcode | hcode | hcode | hcode
    · cases hcode
    · exact errorWriteParcel_ne_errOk h hcode.symm
    · exact errorGetSystemAbilityManager_ne_errOk h hcode.symm
    · exact errorGetDumperService_ne_errOk h hcode.symm
  obtain ⟨hstate, hresults⟩ := hdelivered.all_served hnot
  refine ⟨hstate, fun res hres => ?_⟩
  obtain ⟨ret, hret, call, _, htells⟩ := hresults res hres
  rw [hok ret hret] at htells
  rcases htells.1 with hcode | hcode
  · exact hcode.symm
  · cases hcode

end Client

/-- A remote object whose replies are lost. -/
def lostReplies : IRemoteObject BrokerItem Nat where
  sendRequest code data s :=
    ((29189, []), (DumpBrokerStub.onRemoteRequest itemParcel countingService code data s).2)

/-- A call that finds the service in its second poll, through this remote object. -/
def polledCall (remote : IRemoteObject BrokerItem Nat) : ClientCall String BrokerItem Nat where
  connection := {
    sam := true
    checkSystemAbility := none
    loadSystemAbility := 0
    checkLoadSystemAbilityStatus := fun poll => decide (0 < poll)
    checkSystemAbilityAgain := fun _ => some remote
    ifaceCast := true }
  args := ["-h"]
  outfd := 3

/-- The call reaches the service through every remote object that is connected to it. -/
private theorem polledCall_reaches {remote : IRemoteObject BrokerItem Nat}
    (h : ConnectsTo itemParcel countingService remote) :
    ClientCall.reaches itemParcel countingService (polledCall remote) := by
  constructor
  · intro found hmem
    cases hmem
  · intro poll found hmem
    cases hmem
    exact h

/-- A session of such calls. -/
theorem client_session_delivered_polled :
    let calls := [polledCall lostReplies, polledCall (stubObject itemParcel countingService)]
    let client := Delivery.session (clientRequest itemParcel StringEx.simple id) calls 0
    client.1 = [-1, 0] ∧ client.2 = 2 ∧
      Delivery.Delivered (serviceRequest id countingService)
        (clientTells itemParcel StringEx.simple id) calls 0 client.1 client.2 := by
  refine ⟨by decide, by decide, ?_⟩
  refine (client_session_delivered itemParcel_readsBack StringEx.simple id countingService
    [polledCall lostReplies, polledCall (stubObject itemParcel countingService)] ?_ 0).1
  intro call hmem
  simp only [List.mem_cons, List.not_mem_nil, or_false] at hmem
  rcases hmem with rfl | rfl
  · exact polledCall_reaches fun code data s => .inr ⟨(by decide : (29189 : Int32) ≠ errOk), .inr rfl⟩
  · exact polledCall_reaches fun code data s => .inl rfl

end HiDumper.Spec
