import HiDumper.Native.DumpUtils

/-!
# IDumpBroker: the proxy, the stub and the client of the service

Model of `dump_broker_proxy.cpp`, `dump_broker_stub.cpp` and `dump_manager_client.cpp`. A
parcel is the list of units written to it. `MessageParcel`, the remote object behind the
proxy and the system ability manager belong to the IPC framework and are parameters: a write
gives what it appends or fails, a read gives the value and what is left behind it.

Left out: the units that a failed stub leaves in the reply, which no proxy reads.
-/

namespace HiDumper.Native

variable {Str16 α σ : Type}

/-- `IDumpBroker`, with the state of the object it is called on. A call gives its result
    and, last, what it leaves in the output parameters. -/
structure IDumpBroker (Str16 σ : Type) where
  request : List Str16 → Int32 → σ → Int32 × σ
  scanPidOverLimit : String → Int32 → List Int32 → σ → (Int32 × List Int32) × σ
  countFdNums : Int32 → UInt32 → String → List String → σ →
    (Int32 × UInt32 × String × List String) × σ
  scanOrphanVnodeOverLimit : Int32 → Int32 → List String → σ → (Int32 × List String) × σ

/-- `HidumperServiceInterfaceCode`. -/
inductive HidumperServiceInterfaceCode where
  | dumpRequestFilefd
  | scanPidOverLimit
  | countFdNums
  | scanOrphanVnodeOverLimit
  deriving DecidableEq, Repr

/-- The operations of `MessageParcel` that the broker uses. `ReadInterfaceToken` and
    `ReadFileDescriptor` always give a value. -/
structure MessageParcel (Str16 α : Type) where
  writeInterfaceToken : Str16 → Option (List α)
  writeString16Vector : List Str16 → Option (List α)
  writeFileDescriptor : Int32 → Option (List α)
  writeString : String → Option (List α)
  writeInt32 : Int32 → Option (List α)
  writeInt32Vector : List Int32 → Option (List α)
  writeStringVector : List String → Option (List α)
  readInterfaceToken : List α → Str16 × List α
  readString16Vector : List α → Option (List Str16 × List α)
  readFileDescriptor : List α → Int32 × List α
  readString : List α → Option (String × List α)
  readInt32 : List α → Option (Int32 × List α)
  readUint32 : List α → Option (UInt32 × List α)
  readInt32Vector : List α → Option (List Int32 × List α)
  readStringVector : List α → Option (List String × List α)
  /-- `DumpBrokerStub::GetDescriptor`, u"ohos.HiviewDFX.HiDumper.IDumpBroker". -/
  getDescriptor : Str16
  /-- `DUMPER_SERVICE_ERR_OFFSET`. -/
  dumperServiceErrOffset : Int32

/-- A remote object: the result of `SendRequest` and the reply. -/
structure IRemoteObject (α σ : Type) where
  sendRequest : HidumperServiceInterfaceCode → List α → σ → (Int32 × List α) × σ

/-- `ERR_OK`. -/
def errOk : Int32 := 0

namespace MessageParcel

variable (parcel : MessageParcel Str16 α)

/-- `ERROR_WRITE_PARCEL`. -/
def errorWriteParcel : Int32 := parcel.dumperServiceErrOffset

/-- `ERROR_READ_PARCEL`. -/
def errorReadParcel : Int32 := parcel.dumperServiceErrOffset + 1

/-- `ERROR_GET_SYSTEM_ABILITY_MANAGER`. -/
def errorGetSystemAbilityManager : Int32 := parcel.dumperServiceErrOffset + 2

/-- `ERROR_GET_DUMPER_SERVICE`. -/
def errorGetDumperService : Int32 := parcel.dumperServiceErrOffset + 3

/-- `ReadString()`, empty when there is none to read. -/
def readStringValue (data : List α) : String × List α :=
  (parcel.readString data).getD ("", data)

/-- `ReadInt32()`, 0 when there is none to read. -/
def readInt32Value (data : List α) : Int32 × List α :=
  (parcel.readInt32 data).getD (0, data)

end MessageParcel

/-! ## The stub -/

namespace DumpBrokerStub

variable (parcel : MessageParcel Str16 α) (service : IDumpBroker Str16 σ)

/-- `DumpBrokerStub::RequestFileFdStub`: the result is `ERR_OK` once the code of the
    service is in the reply. -/
def requestFileFdStub (data : List α) (s : σ) : (Int32 × List α) × σ :=
  match parcel.readString16Vector data with
  | none => ((parcel.errorReadParcel, []), s)
  | some (args, data) =>
    let outfd := (parcel.readFileDescriptor data).1
    if outfd < 0 then ((parcel.errorReadParcel, []), s)
    else
      let (res, s) := service.request args outfd s
      match parcel.writeInt32 res with
      | none => ((parcel.errorWriteParcel, []), s)
      | some reply => ((errOk, reply), s)

/-- `DumpBrokerStub::ScanPidOverLimitStub`: the result is the one of the service. -/
def scanPidOverLimitStub (data : List α) (s : σ) : (Int32 × List α) × σ :=
  let (requestType, data) := parcel.readStringValue data
  let (limitSize, _) := parcel.readInt32Value data
  let ((ret, pidList), s) := service.scanPidOverLimit requestType limitSize [] s
  match parcel.writeInt32Vector pidList, parcel.writeInt32 ret with
  | some pids, some code => ((ret, pids ++ code), s)
  | _, _ => ((parcel.errorWriteParcel, []), s)

/-- `DumpBrokerStub::CountFdNumsStub`. The count is written as an `int32_t`. -/
def countFdNumsStub (data : List α) (s : σ) : (Int32 × List α) × σ :=
  let (pid, _) := parcel.readInt32Value data
  let ((ret, fdNums, detailFdInfo, topLeakedTypeList), s) := service.countFdNums pid 0 "" [] s
  match parcel.writeInt32 fdNums.toInt32, parcel.writeString detailFdInfo,
      parcel.writeStringVector topLeakedTypeList, parcel.writeInt32 ret with
  | some nums, some detail, some types, some code => ((ret, nums ++ (detail ++ (types ++ code))), s)
  | _, _, _, _ => ((parcel.errorWriteParcel, []), s)

/-- `DumpBrokerStub::ScanOrphanVnodeOverLimitStub`. -/
def scanOrphanVnodeOverLimitStub (data : List α) (s : σ) : (Int32 × List α) × σ :=
  let (fdLeakThreshold, data) := parcel.readInt32Value data
  let (orphanVnodeThreshold, _) := parcel.readInt32Value data
  let ((ret, topOrphanVnodeInfoList), s) :=
    service.scanOrphanVnodeOverLimit fdLeakThreshold orphanVnodeThreshold [] s
  match parcel.writeStringVector topOrphanVnodeInfoList, parcel.writeInt32 ret with
  | some infos, some code => ((ret, infos ++ code), s)
  | _, _ => ((parcel.errorWriteParcel, []), s)

/-- `DumpBrokerStub::OnRemoteRequest`. -/
def onRemoteRequest [DecidableEq Str16] (code : HidumperServiceInterfaceCode) (data : List α)
    (s : σ) : (Int32 × List α) × σ :=
  let (remoteDescripter, data) := parcel.readInterfaceToken data
  if parcel.getDescriptor ≠ remoteDescripter then ((parcel.errorGetDumperService, []), s)
  else
    match code with
    | .dumpRequestFilefd => requestFileFdStub parcel service data s
    | .scanPidOverLimit => scanPidOverLimitStub parcel service data s
    | .countFdNums => countFdNumsStub parcel service data s
    | .scanOrphanVnodeOverLimit => scanOrphanVnodeOverLimitStub parcel service data s

end DumpBrokerStub

/-! ## The proxy -/

namespace DumpBrokerProxy

variable (parcel : MessageParcel Str16 α) (remote : Option (IRemoteObject α σ))

/-- `DumpBrokerProxy::Request`. -/
def request (args : List Str16) (outfd : Int32) (s : σ) : Int32 × σ :=
  match remote with
  | none => (-1, s)
  | some remote =>
    match parcel.writeInterfaceToken parcel.getDescriptor with
    | none => (-1, s)
    | some token =>
      match parcel.writeString16Vector args, parcel.writeFileDescriptor outfd with
      | some vector, some fd =>
        let ((res, reply), s) :=
          remote.sendRequest .dumpRequestFilefd (token ++ (vector ++ fd)) s
        if res ≠ errOk then (-1, s)
        else
          match parcel.readInt32 reply with
          | none => (parcel.errorReadParcel, s)
          | some (ret, _) => (ret, s)
      | _, _ => (parcel.errorWriteParcel, s)

/-- `DumpBrokerProxy::ScanPidOverLimit`: the results of the two writes are not looked at. -/
def scanPidOverLimit (requestType : String) (limitSize : Int32) (pidList : List Int32) (s : σ) :
    (Int32 × List Int32) × σ :=
  match remote, parcel.writeInterfaceToken parcel.getDescriptor with
  | some remote, some token =>
    let ((res, reply), s) := remote.sendRequest .scanPidOverLimit
      (token ++ ((parcel.writeString requestType).getD [] ++
        (parcel.writeInt32 limitSize).getD [])) s
    if res ≠ errOk then ((-1, pidList), s)
    else
      match parcel.readInt32Vector reply with
      | none => ((parcel.errorReadParcel, pidList), s)
      | some (pidList, reply) =>
        match parcel.readInt32 reply with
        | none => ((parcel.errorReadParcel, pidList), s)
        | some (ret, _) => ((ret, pidList), s)
  | _, _ => ((-1, pidList), s)

/-- `DumpBrokerProxy::CountFdNums`. The outputs read before a failed read stay. -/
def countFdNums (pid : Int32) (fdNums : UInt32) (detailFdInfo : String)
    (topLeakedTypeList : List String) (s : σ) : (Int32 × UInt32 × String × List String) × σ :=
  match remote, parcel.writeInterfaceToken parcel.getDescriptor with
  | some remote, some token =>
    let ((res, reply), s) :=
      remote.sendRequest .countFdNums (token ++ (parcel.writeInt32 pid).getD []) s
    if res ≠ errOk then ((-1, fdNums, detailFdInfo, topLeakedTypeList), s)
    else
      match parcel.readUint32 reply with
      | none => ((parcel.errorReadParcel, fdNums, detailFdInfo, topLeakedTypeList), s)
      | some (fdNums, reply) =>
        match parcel.readString reply with
        | none => ((parcel.errorReadParcel, fdNums, detailFdInfo, topLeakedTypeList), s)
        | some (detailFdInfo, reply) =>
          match parcel.readStringVector reply with
          | none => ((parcel.errorReadParcel, fdNums, detailFdInfo, topLeakedTypeList), s)
          | some (topLeakedTypeList, reply) =>
            match parcel.readInt32 reply with
            | none => ((parcel.errorReadParcel, fdNums, detailFdInfo, topLeakedTypeList), s)
            | some (ret, _) => ((ret, fdNums, detailFdInfo, topLeakedTypeList), s)
  | _, _ => ((-1, fdNums, detailFdInfo, topLeakedTypeList), s)

/-- `DumpBrokerProxy::ScanOrphanVnodeOverLimit`. -/
def scanOrphanVnodeOverLimit (fdLeakThreshold orphanVnodeThreshold : Int32)
    (topOrphanVnodeInfoList : List String) (s : σ) : (Int32 × List String) × σ :=
  match remote, parcel.writeInterfaceToken parcel.getDescriptor with
  | some remote, some token =>
    let ((res, reply), s) := remote.sendRequest .scanOrphanVnodeOverLimit
      (token ++ ((parcel.writeInt32 fdLeakThreshold).getD [] ++
        (parcel.writeInt32 orphanVnodeThreshold).getD [])) s
    if res ≠ errOk then ((-1, topOrphanVnodeInfoList), s)
    else
      match parcel.readStringVector reply with
      | none => ((parcel.errorReadParcel, topOrphanVnodeInfoList), s)
      | some (topOrphanVnodeInfoList, reply) =>
        match parcel.readInt32 reply with
        | none => ((parcel.errorReadParcel, topOrphanVnodeInfoList), s)
        | some (ret, _) => ((ret, topOrphanVnodeInfoList), s)
  | _, _ => ((-1, topOrphanVnodeInfoList), s)

end DumpBrokerProxy

/-- `DumpBrokerProxy` as the interface it implements. -/
def dumpBrokerProxy (parcel : MessageParcel Str16 α) (remote : Option (IRemoteObject α σ)) :
    IDumpBroker Str16 σ where
  request := DumpBrokerProxy.request parcel remote
  scanPidOverLimit := DumpBrokerProxy.scanPidOverLimit parcel remote
  countFdNums := DumpBrokerProxy.countFdNums parcel remote
  scanOrphanVnodeOverLimit := DumpBrokerProxy.scanOrphanVnodeOverLimit parcel remote

/-! ## The client -/

namespace DumpManagerClient

/-- `SLEEP_DUR`. -/
def sleepDur : Nat := 5 * 1000 * 1000

/-- `SLEEP_UNIT`. -/
def sleepUnit : Nat := 100 * 1000

/-- What one `Request` of the client meets. The polls of `OnDemandStart` are numbered. -/
structure Connection (α σ : Type) where
  /-- Whether `GetSystemAbilityManager` gives one. -/
  sam : Bool
  /-- `CheckSystemAbility` before the service is started. -/
  checkSystemAbility : Option (IRemoteObject α σ)
  /-- The result of `LoadSystemAbility`. -/
  loadSystemAbility : Int32
  /-- `CheckLoadSystemAbilityStatus` at each poll. -/
  checkLoadSystemAbilityStatus : Nat → Bool
  /-- `CheckSystemAbility` at each poll. -/
  checkSystemAbilityAgain : Nat → Option (IRemoteObject α σ)
  /-- Whether `iface_cast` gives a proxy for a remote object. -/
  ifaceCast : Bool

/-- The `while` loop of `OnDemandStart`, with `loop` polls left: the remote object found. -/
def pollSystemAbility (connection : Connection α σ) : Nat → Nat → Option (IRemoteObject α σ)
  | _, 0 => none
  | poll, loop + 1 =>
    if connection.checkLoadSystemAbilityStatus poll then
      match connection.checkSystemAbilityAgain poll with
      | some remoteObject => some remoteObject
      | none => pollSystemAbility connection (poll + 1) loop
    else pollSystemAbility connection (poll + 1) loop

/-- `DumpManagerClient::OnDemandStart`: the remote object when the result is `ERR_OK`. -/
def onDemandStart (connection : Connection α σ) : Option (IRemoteObject α σ) :=
  if connection.loadSystemAbility ≠ errOk then none
  else pollSystemAbility connection 0 (sleepDur / sleepUnit)

/-- The check of `Request` on one argument: `strlen` stops at a terminator. -/
def emptyArg (strings : StringEx) (str16ToStr8 : Str16 → String) (arg : Str16) : Bool :=
  match (strings.trimStr (str16ToStr8 arg) ' ').toList with
  | [] => true
  | c :: _ => c == '\x00'

/-- `DumpManagerClient::Request`. -/
def request (parcel : MessageParcel Str16 α) (strings : StringEx) (str16ToStr8 : Str16 → String)
    (connection : Connection α σ) (args : List Str16) (outfd : Int32) (s : σ) : Int32 × σ :=
  if args.length < 1 || outfd < 0 then (-1, s)
  else if args.any (emptyArg strings str16ToStr8) then (-1, s)
  else if !connection.sam then (parcel.errorGetSystemAbilityManager, s)
  else
    match connection.checkSystemAbility <|> onDemandStart connection with
    | none => (parcel.errorGetDumperService, s)
    | some remoteObject =>
      if !connection.ifaceCast then (-1, s)
      else (dumpBrokerProxy parcel (some remoteObject)).request args outfd s

end DumpManagerClient

end HiDumper.Native
