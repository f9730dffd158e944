import HiDumper.ForStd.Checks
import HiDumper.Native.CmdOptions
import HiDumper.Native.ConfigUtils

/-!
# DumpImplement: from the command line to checked options

Model of `DumpImplement::CmdParse` in `manager/dump_implement.cpp` with the checks
of `DumperOpts::CheckOptions`. The checks run in the order of the source on one
options record; `--arkweb-js` replaces the pid in it after the permission check.
The event reports at the end of `CmdParse` do not change the options and are not
modelled.
-/

namespace HiDumper.Native

open Checks

/-- `ARG_MAX_COUNT` of `dump_controller.h`. -/
def argMaxCount : Nat := 64

/-- `SINGLE_ARG_MAXLEN` of `dump_controller.h`. -/
def singleArgMaxLen : Nat := 256

section CmdParse

variable (ctx : CmdContext)

/-- `HIVIEW_UID`. -/
def hiviewUid : Int := 1201

/-- `APP_UID_LIMIT`. -/
def appUidLimit : Int := 20000

/-- `DumpImplement::CheckArgs`. -/
def checkArgs (argv : List String) : Bool :=
  argv.length ≤ argMaxCount &&
    argv.all fun arg => arg ≠ "" && arg.utf8ByteSize ≤ singleArgMaxLen

/-! ## Processes -/

/-- The pids `CheckProcessAlive` looks at, each with the value it has to exceed. -/
def checkedPids (opts : DumperOpts) : List (Int × Int) :=
  [(opts.cpuUsagePid, -1), (opts.memPid, -1), (opts.processPid, -1), (opts.storagePid, -1),
    (opts.netPid, -1), (opts.dumpJsHeapMemPid, 0), (opts.dumpCjHeapMemPid, 0),
    (opts.dumpHeapMemPid, 0), (opts.dumpHeapArgPid, 0), (opts.ipcStatPid, 0)]

/-- `DumpImplement::CheckProcessAlive`. -/
def checkProcessAlive (opts : DumperOpts) : Except Rejection Unit :=
  match (checkedPids opts).find? fun (pid, unset) => pid > unset && !ctx.sys.checkProcessAlive pid with
  | none => .ok ()
  | some (pid, _) => .error ⟨.dumpFail, sendPidErrorMessage pid⟩

/-- `DumpImplement::IsApplicationPid`. -/
def isApplicationPid (pid : Int) : Bool :=
  match ctx.sys.getProcessInfo pid with
  | (false, _) => false
  | (true, info) => info.uid > appUidLimit

/-! ## Permissions

These checks answer with the text of the first one that fails. -/

/-- `DumpImplement::SendReleaseAppErrorMessage`. -/
def releaseAppErrorMessage (opt : String) : String :=
  "[ERROR]: The " ++ opt ++ " option is only supported for debug-signed application [ " ++
    "\"appProvisionType\": \"debug\"].\n"

/-- `DumpImplement::SendReleaseVersionErrorMessage`. -/
def releaseVersionErrorMessage (opt : String) : String :=
  "[ERROR]: The " ++ opt ++ " option is not supported in user privilege.\n"

/-- `DumpImplement::SendNotAppErrorMessage`. -/
def notAppErrorMessage (opt : String) : String :=
  "[ERROR]: The " ++ opt ++ " option is only supported for application.\n"

/-- `DumpImplement::SendPermissionCheckErrorMessage`. -/
def permissionCheckErrorMessage (opt : String) (isProfileable isInhouse isDeveloperMode : Bool) :
    String :=
  let satisfied := fun b : Bool => if b then "satisfied" else "not satisfied"
  "[Permission Check Failed]\n" ++
  "  The " ++ opt ++ " option needs a debug-signed application.\n" ++
  "  If release-signed application needs to meet all of the following conditions:\n" ++
  "  - profilerable-label: " ++ satisfied isProfileable ++ "\n" ++
  "  - enterprise-app-type: " ++ satisfied isInhouse ++ "\n" ++
  "  - developer mode: " ++ satisfied isDeveloperMode ++ "\n"

/-- `DumpImplement::CheckJsHeapPermission`. -/
def checkJsHeapPermission (pid : Int) : Except String Unit :=
  if ctx.sys.checkAppDebugVersion pid then .ok ()
  else
    let isProfileable := ctx.sys.checkAppProfileable pid
    let isInhouse := ctx.sys.checkAppInhouse pid
    let isDeveloperMode := ctx.sys.isDeveloperModeEnabled
    if !isProfileable || !isInhouse || !isDeveloperMode then
      .error (permissionCheckErrorMessage "--mem-jsheap" isProfileable isInhouse isDeveloperMode)
    else .ok ()

/-- The pid `HeapMemoryDumper::PreExecute` takes from the options. -/
def heapPid (opts : DumperOpts) : Int :=
  if opts.dumpHeapArgPid > 0 then opts.dumpHeapArgPid else opts.dumpHeapMemPid

/-- The checks of `CheckDumpPermission` in user mode. -/
def checkUserPermission (opts : DumperOpts) : Except String Unit := do
  failIf (opts.isShowSmaps && ctx.uid ≠ hiviewUid && !ctx.sys.checkAppDebugVersion opts.memPid)
    (releaseAppErrorMessage "--mem-smaps")
  checkIf opts.isDumpJsHeapMem (checkJsHeapPermission ctx opts.dumpJsHeapMemPid)
  failIf (opts.isDumpCjHeapMem && !ctx.sys.checkAppDebugVersion opts.dumpCjHeapMemPid)
    (releaseAppErrorMessage "--mem-cjheap")
  failIf (opts.isDumpHeapMem && !ctx.sys.checkAppDebugVersion (heapPid opts))
    (releaseAppErrorMessage "--mem-heap")
  -- A process that is no application is left to `ValidateDumpOptions`.
  failIf (opts.showLeakThread && isApplicationPid ctx opts.memPid &&
      !ctx.sys.checkAppDebugVersion opts.memPid) (releaseAppErrorMessage "--show-leakthread")
  failIf (opts.isDumpMem && opts.timeInterval > 0) (releaseVersionErrorMessage "-t")

/-- `DumpImplement::CheckDumpPermission`. -/
def checkDumpPermission (opts : DumperOpts) : Except String Unit :=
  if (opts.isDumpFd || opts.isDumpThread) && opts.processPid ≤ 0 then
    .error (sendErrorMessage (invalidError ++ "--fd/--thread requires -p PID"))
  else if !ctx.sys.isUserMode then .ok ()
  else checkUserPermission ctx opts

/-! ## Validation -/

/-- `DumpImplement::CheckJsHeapSingleParam`. -/
def checkJsHeapSingleParam (opts : DumperOpts) : Except String Unit :=
  if !opts.isDumpJsHeapCombine then .ok ()
  else if !opts.dumpJsRawHeap then
    .error (sendErrorMessage "mem-jsheap paramerr, '--single' only used with '--raw'.")
  else if opts.threadId ≠ 0 then
    .error (sendErrorMessage "mem-jsheap paramerr, '--single' not need 'tid'.")
  else .ok ()

/-- `DumpImplement::CheckMemDetailParamSupported`. -/
def checkMemDetailParamSupported (opts : DumperOpts) : Except String Unit :=
  if !opts.showAshmem && !opts.showDmaBuf && !opts.showGpumem then .ok ()
  else if ctx.build.isEmulator then
    .error (sendErrorMessage "The capability is not supported on the emulator at this time.")
  else .ok ()

/-- `DumpImplement::CheckKmpParameter`. -/
def checkKmpParameter (opts : DumperOpts) : Except String Unit :=
  let extraCount := opts.isDumpHeapMemGc.toNat + opts.dumpRawHeap.toNat +
    opts.isDumpHeapLeakobj.toNat + (decide (opts.threadId ≠ 0)).toNat
  if extraCount = 0 || (extraCount = 1 && opts.isDumpHeapMemGc) then .ok ()
  else .error (sendErrorMessage
      "Error [ARGUMENT]: Among optional parameters, only '--gc' is allowed for KMP heap." ++
    sendErrorMessage ("Fix: Use 'hidumper --mem-heap <pid> --kotlin' or " ++
      "'hidumper --mem-heap <pid> --kotlin --gc'"))

/-- The name of the main process of a render process. -/
def mainProcName (renderProcName : String) : Option String :=
  let suffix := ":render".toList
  let length := renderProcName.toList.length
  if length > suffix.length && renderProcName.toList.drop (length - suffix.length) = suffix then
    some (String.ofList (renderProcName.toList.take (length - suffix.length)))
  else none

/-- The search of `ValidateRenderProcessAndFindMainPid`: the first process with this
    name, -1 if there is none. -/
def findMainPid (sys : System) (mainProcName : String) : Int :=
  match (sys.getPidInfos true).find? (·.cmdline = mainProcName) with
  | some info => info.pid
  | none => -1

/-- `DumpImplement::ValidateRenderProcessAndFindMainPid`. -/
def validateRenderProcessAndFindMainPid (renderPid : Int) (opts : DumperOpts) :
    Except String DumperOpts :=
  match ctx.sys.getProcessNameByPid renderPid with
  | none => .error (sendErrorMessage ("Error [RUNTIME]: Cannot get process name for pid " ++
      toString renderPid ++ ".") ++
    sendErrorMessage "Fix: Verify the pid is valid and the process is running.")
  | some renderProcName =>
    match mainProcName renderProcName with
    | none => .error (sendErrorMessage ("Error [ARGUMENT]: Invalid pid " ++ toString renderPid ++
        " for '--arkweb-js' (must be a render process ending with ':render').") ++
      sendErrorMessage ("Fix: Set '--mem-heap <render_pid> --arkweb-js' where " ++
        "<render_pid> is a valid render process."))
    | some mainProcName =>
      let mainPid := findMainPid ctx.sys mainProcName
      if mainPid ≤ 0 then
        .error (sendErrorMessage ("Error [RUNTIME]: Cannot find main process for '" ++ mainProcName ++
            "'.") ++
          sendErrorMessage ("Fix: Verify the render process is correctly associated with a main " ++
            "process."))
      else .ok { opts with
        dumpHeapArgPid := if opts.dumpHeapArgPid > 0 then mainPid else 0
        dumpHeapMemPid := if opts.dumpHeapMemPid > 0 then mainPid else 0 }

/-- `DumpImplement::CheckArkwebJsParameter`. -/
def checkArkwebJsParameter (opts : DumperOpts) : Except String DumperOpts :=
  if opts.isDumpHeapMemGc && opts.dumpRawHeap then
    .error (sendErrorMessage
        "Error [CONFLICT]: '--raw' and '--gc' cannot be used together with '--arkweb-js'." ++
      sendErrorMessage "Fix: Remove either '--raw' or '--gc' from the command.")
  else
    let renderPid := heapPid opts
    validateRenderProcessAndFindMainPid ctx renderPid { opts with dumpHeapRenderPid := renderPid }

/-- `DumpImplement::CheckDumpHeapMemParameter`. -/
def checkDumpHeapMemParameter (argc : Nat) (opts : DumperOpts) : Except String DumperOpts :=
  let argCount := opts.isDumpHeapNative.toNat + opts.isDumpHeapKotlin.toNat +
    opts.isDumpHeapJsvm.toNat + opts.isDumpHeapArkwebJs.toNat
  let validPid := (opts.dumpHeapMemPid > 0 && opts.dumpHeapArgPid = 0) ||
    (opts.dumpHeapMemPid = 0 && opts.dumpHeapArgPid > 0)
  if argc < 4 then
    .error (sendErrorMessage
        "Error [ARGUMENT]: Insufficient arguments for '--mem-heap' (requires at least pid and ARG)." ++
      sendErrorMessage ("Fix: Set '--mem-heap <pid> <ARG>' where <ARG> is one of " ++
        "--native, --kotlin, --jsvm, --arkweb-js."))
  else if argCount ≠ 1 then
    .error (sendErrorMessage
        "Error [ARGUMENT]: Invalid ARG for '--mem-heap' (must specify exactly one ARG)." ++
      sendErrorMessage
        "Fix: Add one of --native, --kotlin, --jsvm, --arkweb-js after the pid.")
  else if !validPid then
    .error (sendErrorMessage
        "Error [ARGUMENT]: Invalid PID for '--mem-heap' (must specify exactly one pid)." ++
      sendErrorMessage "Fix: Set '--mem-heap <pid> <ARG>' where <pid> is a valid process id.")
  else if opts.isDumpHeapArkwebJs then checkArkwebJsParameter ctx opts
  else if opts.isDumpHeapKotlin then do
    checkKmpParameter opts
    .ok opts
  else .ok opts

/-- `DumpImplement::CheckShowLeakthreadParameter`. -/
def checkShowLeakthreadParameter (opts : DumperOpts) : Except String Unit :=
  if opts.memPid ≤ 0 then .error leakthreadArgumentError
  else if !isApplicationPid ctx opts.memPid then .error (notAppErrorMessage "--show-leakthread")
  else .ok ()

/-- `DumpImplement::CheckUnableToDumpAll`. -/
def checkUnableToDumpAll (argc : Nat) (opts : DumperOpts) : Bool :=
  !opts.isSelectAny && !(argc = 1 || (argc = 2 && opts.isDumpZip))

/-- Turn a request down for a check that failed. -/
def rejectAs {α : Type} (status : DumpStatus) (suffix : String) :
    Except String α → Except Rejection α
  | .ok a => .ok a
  | .error text => .error ⟨status, text ++ suffix⟩

/-- The part of `ValidateDumpOptions` that may change the options. -/
def validateHeapMem (argc : Nat) (opts : DumperOpts) : Except Rejection DumperOpts :=
  if opts.isDumpHeapMem then
    rejectAs .dumpHelp (sendErrorMessage "" ++ cmdHelp ctx) (checkDumpHeapMemParameter ctx argc opts)
  else .ok opts

/-- `DumpImplement::ValidateDumpOptions`. -/
def validateDumpOptions (argc : Nat) (opts : DumperOpts) : Except Rejection DumperOpts := do
  checkIf opts.isDumpJsHeapMem (rejectAs .dumpFail "" (checkJsHeapSingleParam opts))
  checkIf opts.isDumpMem (rejectAs .dumpFail "" (checkMemDetailParamSupported ctx opts))
  let opts ← validateHeapMem ctx argc opts
  checkIf opts.showLeakThread
    (rejectAs .dumpHelp (cmdHelp ctx) (checkShowLeakthreadParameter ctx opts))
  checkIf (checkUnableToDumpAll argc opts) (rejectWithHelp ctx "")
  .ok opts

/-! ## The whole command line -/

/-- `DumpImplement::RemoveDuplicateString`. -/
def removeDuplicateStrings (opts : DumperOpts) : DumperOpts :=
  { opts with
    logArgs := removeDuplicateString opts.logArgs
    systemArgs := removeDuplicateString opts.systemArgs
    abilitieNames := removeDuplicateString opts.abilitieNames }

/-- `DumpImplement::CmdParseWithParameter(argc, argv, opts)`. -/
def cmdParseArgs (argv : List String) : Except Rejection DumperOpts := do
  let opts ← parseOptions ctx argv
  checkProcessAlive ctx opts
  rejectAs .dumpHelp (if !opts.isShowSmaps || !opts.isDumpMem then cmdHelp ctx else "")
    (checkDumpPermission ctx opts)
  let opts ← validateDumpOptions ctx argv.length opts
  .ok (removeDuplicateStrings opts)

/-- `DumperOpts::CheckOptions` with `CheckRemainingOptions`: the value it objects to. -/
def checkOptions (opts : DumperOpts) : Option String :=
  let strings := ctx.sys.strings
  let path := strings.trimStr opts.path ' '
  let systemList := ConfigUtils.getSectionNames .builtin ConfigData.configGroupSystem_
  if opts.cpuUsagePid < -1 then some (toString opts.cpuUsagePid)
  else if opts.memPid < -1 then some (toString opts.memPid)
  else if opts.isDumpList && !opts.isDumpService && !opts.isDumpSystemAbility &&
      !opts.isDumpSystem then some "-l"
  else if opts.isEventDetail && opts.isEventList then
    some "--list and --detail cannot be used together"
  else if opts.isDumpFd && opts.isDumpThread then
    some "--fd and --thread cannot be used together"
  else if path ≠ "" && !startWith path "/" then some opts.path
  else
    match opts.abilitieNames.find? fun name => strToId strings ctx.saNameMap name = -1 with
    | some name => some name
    | none =>
      match opts.systemArgs.find? fun arg => !systemList.contains arg with
      | some arg => some arg
      | none =>
        -- `CheckRemainingOptions`: the fields and their least values.
        ([(opts.processPid, -1), (opts.storagePid, -1), (opts.netPid, -1),
          (opts.dumpJsHeapMemPid, 0), (opts.dumpCjHeapMemPid, 0), (opts.threadId, 0),
          (opts.timeInterval, 0), (opts.ipcStatPid, -1)].find? fun (value, least) => value < least).map
          fun (value, _) => toString value

/-- `DumpImplement::CmdParseWithParameter` for a request. -/
def cmdParseWithParameter (argv : List String) : Except Rejection DumperOpts := do
  let opts ← cmdParseArgs ctx argv
  match checkOptions ctx opts with
  | none => .ok opts
  | some errorStr => .error ⟨.dumpInvalidArg, sendErrorMessage (invalidError ++ errorStr)⟩

/-- `DumpImplement::IsHidumperClientProcess`. -/
def isHidumperClientProcess (pid : Int) : Bool :=
  (ctx.sys.getProcessNameByPid pid).any fun procName => contains procName "hidumper"

/-- `DumpImplement::ProcessDumpOptions`. -/
def processDumpOptions (opts : DumperOpts) : DumperOpts :=
  if isHidumperClientProcess ctx ctx.pid then { opts.addSelectAll with isAppendix := true }
  else
    let opts := { opts with isDumpCpuFreq := true, isDumpMem := true, memPid := ctx.pid }
    if ctx.build.hiviewEnable then { opts with isDumpCpuUsage := true, cpuUsagePid := ctx.pid }
    else opts

/-- `DumpImplement::CmdParse`: the options it leaves in the `DumperParameter`. -/
def cmdParse (argv : List String) : Except Rejection DumperOpts := do
  failIf (!checkArgs argv) ⟨.dumpFail, ""⟩
  let opts ← cmdParseWithParameter ctx argv
  .ok (if opts.isSelectAny then opts else processDumpOptions ctx opts)

end CmdParse

end HiDumper.Native
