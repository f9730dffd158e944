import HiDumper.Native.DumpUtils
import HiDumper.Native.GetoptLong

/-!
# Options of the command line

Model of the option handling of `manager/dump_implement.cpp`: the option table and
what each option does to the `DumperOpts`. A request that is turned down ends with
a status and the text the client is sent; a request that is not turned down is sent
nothing here. The parameters of the usage event (`dumperSysEventParams_`) are not
modelled.
-/

namespace HiDumper.Native

/-- The build switches `HIDUMPER_HIVIEWDFX_HIVIEW_ENABLE`,
    `HIDUMPER_HIVIEWDFX_PLUGIN_ENABLE` and `IS_EMULATOR`. -/
structure Build where
  hiviewEnable : Bool
  pluginEnable : Bool
  isEmulator : Bool

/-- What `CmdParse` reads besides the arguments. -/
structure CmdContext where
  build : Build
  sys : System
  /-- `GetUid` of the request. -/
  uid : Int
  /-- `GetPid` of the request. -/
  pid : Int
  /-- `saNameMap_`, whose keys come from a header outside the repository. -/
  saNameMap : List (Int × String)
  /-- What `GetTime` returns. -/
  time : String
  /-- `StringUtils::StringToUnixMs`, which depends on the time zone. -/
  stringToUnixMs : String → Int

/-- How `CmdParse` turns a request down. -/
structure Rejection where
  status : DumpStatus
  text : String
  deriving DecidableEq, Repr

/-! ## Texts -/

def unrecognizedError : String := "hidumper: option pid missed. "
def invalidError : String := "hidumper: invalid arg: "
def requireError : String := "hidumper: option requires an argument: "

/-- `DumpImplement::SendErrorMessage`. -/
def sendErrorMessage (errorStr : String) : String := errorStr ++ "\n"

/-- `DumpImplement::SendPidErrorMessage`. -/
def sendPidErrorMessage (pid : Int) : String := "hidumper: No such process: " ++ toString pid ++ "\n"

/-- `DumpImplement::RemoveCharacterFromStr`. -/
def removeCharacterFromStr (str : String) (character : Char) : String :=
  String.ofList (str.toList.filter (· ≠ character))

/-- The line that `PrintCommonUsage` takes out in user mode. -/
def timeIntervalUsage : String :=
  "  --mem [pid] -t [timeInterval]  |dump process memory change information," ++
  " press Ctrl+C to stop the export. detail information is stored in " ++
  "/data/log/hidumper/record_mem.txt.\n"

/-- `DumpImplement::CmdHelp` with `PrintCommonUsage`. -/
def cmdHelp (ctx : CmdContext) : String :=
  "usage:\n" ++
  "  -h                          |help text for the tool\n" ++
  "  -lc                         |a list of system information clusters\n" ++
  "  -ls                         |a list of system abilities\n" ++
  "  -c                          |all system information clusters\n" ++
  "  -c [base system]            |system information clusters labeled \"base\" and \"system\"\n" ++
  "  -s                          |all system abilities\n" ++
  "  -s [SA0 SA1]                |system abilities labeled \"SA0\" and \"SA1\"\n" ++
  "  -s [SA] -a ['-h']           |system ability labeled \"SA\" with arguments \"-h\" specified\n" ++
  "  -e                          |faultlogs of crash history\n" ++
  "  -e --list [process_name] [-n num] [--since timestamp] [--until timestamp]" ++
  "  |dump list of abnormal exits\n" ++
  "  -e --print [process_name] [-n num] [--since timestamp] [--until timestamp]" ++
  "  |dump faultlogs of abnormal exits\n" ++
  "  -e --print record_id        |dump faultlogs of the specified record\n" ++
  "  --net [pid]                 |dump network information; if pid is specified," ++
  " dump traffic usage of specified pid\n" ++
  "  --storage [pid]             |dump storage information; if pid is specified, dump /proc/pid/io\n" ++
  "  -p                          |processes information, include list and infromation of processes" ++
  " and threads\n" ++
  "  -p [pid]                    |dump threads under pid, includes smap, block channel," ++
  " execute time, mountinfo\n" ++
  "  -p pid ARG [-v]             |dump thread or fd descriptor information;" ++
  " ARG must be one of --thread | --fd; use -v to dump all thread or fd descriptor information\n" ++
  "  --cpufreq                   |dump real CPU frequency of each core\n" ++
  "  --mem [pid] [--prune]       |dump memory usage of total; dump memory usage of specified" ++
  " pid if pid was specified; dump simplified memory information if prune is specified and not support" ++
  " dumped simplified memory information of specified pid\n" ++
  "  --mem [pid] [--show-ashmem]   |show ashmem info when dumping memory of specified pid\n" ++
  "  --mem [pid] [--show-dmabuf]   |show dmabuf info when dumping memory of specified pid\n" ++
  (if ctx.build.pluginEnable then
    "  --mem [pid] [--show-gpumem]   |show gpumem info when dumping memory of specified pid\n"
  else "") ++
  "  --mem [pid] [--show-arktsheap] |show arkts heap info when dumping memory of specified pid\n" ++
  "  --mem [pid] [--show-leakthread] |show leak thread stack info when dumping memory of" ++
  " specified pid\n" ++
  (if ctx.sys.isUserMode then "" else timeIntervalUsage) ++
  "  --zip                       |compress output to /data/log/hidumper\n" ++
  "  --mem-smaps pid [-v]        |display statistic in /proc/pid/smaps, use -v specify more details\n" ++
  "  --mem-jsheap pid [-T tid] [--gc] [--leakobj] [--raw] [--single] [--clean]  |triggerGC," ++
  " dumpHeapSnapshot, dumpRawHeap and dumpLeakList under pid and tid\n" ++
  "  --mem-cjheap pid [--gc]     |the pid should belong to the Cangjie process; triggerGC and" ++
  " dumpHeapSnapshot under pid\n" ++
  (if ctx.build.pluginEnable then
    "  --mem-heap pid ARG [--leakobj] [--raw] [-T tid] [--gc] |ARG must be one of --native | --kotlin" ++
    " | --jsvm | --arkweb-js.\n"
  else "  --mem-heap pid ARG [--leakobj] [--gc] |ARG must be one of --native | --kotlin.\n") ++
  "  --ipc pid ARG               |ipc load statistic; pid must be specified or set to -a dump all" ++
  " processes. ARG must be one of --start-stat | --stop-stat | --stat\n" ++
  if ctx.build.hiviewEnable then
    "  --cpuusage [pid]            |dump cpu usage by processes and category; if PID is specified," ++
    " dump category usage of specified pid\n"
  else ""

/-! ## The option table -/

/-- `LONG_OPTIONS`. -/
def longOptions (build : Build) : List LongOption :=
  [⟨"cpufreq", .noArgument⟩] ++
  (if build.hiviewEnable then [⟨"cpuusage", .optionalArgument⟩] else []) ++
  [⟨"mem", .optionalArgument⟩,
    ⟨"net", .noArgument⟩,
    ⟨"storage", .noArgument⟩,
    ⟨"zip", .noArgument⟩,
    ⟨"mem-smaps", .requiredArgument⟩,
    ⟨"mem-jsheap", .requiredArgument⟩,
    ⟨"mem-cjheap", .requiredArgument⟩,
    ⟨"mem-heap", .optionalArgument⟩,
    ⟨"native", .optionalArgument⟩,
    ⟨"kotlin", .optionalArgument⟩] ++
  (if build.pluginEnable then
    [⟨"jsvm", .optionalArgument⟩, ⟨"arkweb-js", .optionalArgument⟩]
  else []) ++
  [⟨"gc", .noArgument⟩,
    ⟨"leakobj", .noArgument⟩,
    ⟨"clean", .noArgument⟩,
    ⟨"raw", .noArgument⟩,
    ⟨"single", .noArgument⟩,
    ⟨"prune", .noArgument⟩,
    ⟨"show-ashmem", .noArgument⟩,
    ⟨"show-dmabuf", .noArgument⟩] ++
  (if build.pluginEnable then [⟨"show-gpumem", .noArgument⟩] else []) ++
  [⟨"show-arktsheap", .noArgument⟩,
    ⟨"show-leakthread", .noArgument⟩,
    ⟨"ipc", .optionalArgument⟩,
    ⟨"start-stat", .noArgument⟩,
    ⟨"stop-stat", .noArgument⟩,
    ⟨"stat", .noArgument⟩,
    ⟨"list", .noArgument⟩,
    ⟨"print", .noArgument⟩,
    ⟨"since", .requiredArgument⟩,
    ⟨"until", .requiredArgument⟩,
    ⟨"fd", .noArgument⟩,
    ⟨"thread", .noArgument⟩]

/-- `optStr`, whose first character is the mode of `getopt_long`. -/
def optStr : String := "-hlcsa:epvT:t:n:"

/-! ## Values -/

section Options

variable (ctx : CmdContext)

/-- Send a text and the usage, and turn the request down with `DUMP_HELP`. -/
def rejectWithHelp {α : Type} (text : String) : Except Rejection α :=
  .error ⟨.dumpHelp, text ++ cmdHelp ctx⟩

/-- `DumpImplement::SetCmdIntegerParameter`. -/
def setCmdIntegerParameter (str : String) : Except Rejection Int :=
  if !ctx.sys.strings.isNumericStr str then
    .error ⟨.dumpInvalidArg, sendErrorMessage (invalidError ++ str)⟩
  else
    match ctx.sys.strings.strToInt str with
    | none => .error ⟨.dumpFail, ""⟩
    | some value => .ok value

/-- `DumpImplement::SetShowCount`. -/
def setShowCount (str : String) : Except Rejection Int := do
  let value ← setCmdIntegerParameter ctx str
  if value ≤ 0 then .error ⟨.dumpInvalidArg, sendErrorMessage (invalidError ++ str)⟩
  else .ok value

/-- `DumpImplement::IsSADumperOption`: is the last element before the value that has
    a `-` in it `-s` or `-a`? -/
def isSADumperOption (argv : List String) (optind : Nat) : Bool :=
  match ((argv.take (optind - 1)).drop 1).reverse.find? (ctx.sys.strings.isSubStr · "-") with
  | none => false
  | some option => option = "-s" || option = "-a"

/-- The text of `DumpImplement::SendErrorMessageIf`. -/
def errorMessageIf (opts : DumperOpts) (optionValue : String) : String :=
  sendErrorMessage ((if opts.isFaultLog && (opts.isEventList || opts.isEventDetail) then
    invalidError else unrecognizedError) ++ removeCharacterFromStr optionValue '-')

/-- `DumpImplement::HandleOptionParameter`. -/
def handleOptionParameter (argv : List String) (optind : Nat) (optionName optionValue : String)
    (opts : DumperOpts) : Except Rejection DumperOpts :=
  let heapArg : Except Rejection DumperOpts := do
    .ok { opts with dumpHeapArgPid := ← setCmdIntegerParameter ctx optionValue }
  if ctx.build.hiviewEnable && optionName = "--cpuusage" then do
    .ok { opts with cpuUsagePid := ← setCmdIntegerParameter ctx optionValue }
  else if optionName = "--mem" then
    if optionValue = "SIGINT" then .ok { opts with isReceivedSigInt := true }
    else do .ok { opts with memPid := ← setCmdIntegerParameter ctx optionValue }
  else if optionName = "--net" then do
    .ok { opts with netPid := ← setCmdIntegerParameter ctx optionValue }
  else if optionName = "--storage" then do
    .ok { opts with storagePid := ← setCmdIntegerParameter ctx optionValue }
  else if optionName = "-c" then .ok { opts with systemArgs := opts.systemArgs ++ [optionValue] }
  else if optionName = "-p" then do
    .ok { opts with processPid := ← setCmdIntegerParameter ctx optionValue }
  else if optionName = "-T" then do
    .ok { opts with threadId := ← setCmdIntegerParameter ctx optionValue }
  else if optionName = "-t" then do
    .ok { opts with timeInterval := ← setCmdIntegerParameter ctx optionValue }
  else if optionName = "-n" then do
    .ok { opts with showEventCount := ← setShowCount ctx optionValue }
  else if optionName = "--list" then .ok { opts with processName := optionValue }
  else if optionName = "--print" then
    if ctx.sys.strings.isNumericStr optionValue then .ok { opts with eventId := optionValue }
    else .ok { opts with processName := optionValue }
  else if isSADumperOption ctx argv optind then
    .ok { opts with abilitieNames := opts.abilitieNames ++ [optionValue] }
  else if optionName = "--ipc" then do
    .ok { opts with ipcStatPid := ← setCmdIntegerParameter ctx optionValue }
  else if optionName = "--mem-heap" then do
    .ok { opts with dumpHeapMemPid := ← setCmdIntegerParameter ctx optionValue }
  else if optionName = "--native" then heapArg
  else if optionName = "--kotlin" then heapArg
  else if ctx.build.pluginEnable && optionName = "--jsvm" then heapArg
  else if ctx.build.pluginEnable && optionName = "--arkweb-js" then heapArg
  else .error ⟨.dumpFail, errorMessageIf opts optionValue⟩

/-- `DumpImplement::SetCmdParameter`: the option is the element before the value. -/
def setCmdParameter (argv : List String) (optind : Nat) (opts : DumperOpts) :
    Except Rejection DumperOpts :=
  if optind > 1 && optind ≤ argv.length then
    handleOptionParameter ctx argv optind (argv.getD (optind - 2) "") (argv.getD (optind - 1) "") opts
  else .ok opts

/-! ## Long options -/

/-- `DumpImplement::SetMemSmapsParam`. The pid is read from a fixed position. -/
def setMemSmapsParam (argv : List String) (opts : DumperOpts) : Except Rejection DumperOpts :=
  if 2 ≥ argv.length then .error ⟨.dumpFail, ""⟩
  else do .ok { opts with
    isShowSmaps := true, memPid := ← setCmdIntegerParameter ctx (argv.getD 2 "") }

/-- `DumpImplement::SetMemJsheapParam`. -/
def setMemJsheapParam (optarg : Option String) (opts : DumperOpts) : Except Rejection DumperOpts :=
  match optarg with
  | none => .error ⟨.dumpFail, ""⟩
  | some value => do .ok { opts with
    isDumpJsHeapMem := true, dumpJsHeapMemPid := ← setCmdIntegerParameter ctx value }

/-- `DumpImplement::SetMemCjheapParam`. -/
def setMemCjheapParam (optarg : Option String) (opts : DumperOpts) : Except Rejection DumperOpts :=
  match optarg with
  | none => .error ⟨.dumpFail, ""⟩
  | some value => do .ok { opts with
    isDumpCjHeapMem := true, dumpCjHeapMemPid := ← setCmdIntegerParameter ctx value }

/-- An option that needs another one before it; else its name is called invalid. -/
def setDependentParam (name : String) (needed : Bool) (opts : DumperOpts) :
    Except Rejection DumperOpts :=
  if needed then .ok opts
  else rejectWithHelp ctx (sendErrorMessage (name ++ " param invalid\n"))

/-- `DumpImplement::SetNativeParam`. -/
def setNativeParam (opts : DumperOpts) : Except Rejection DumperOpts :=
  setDependentParam ctx "native" opts.isDumpHeapMem { opts with isDumpHeapNative := true }

/-- `DumpImplement::SetKotlinParam`. -/
def setKotlinParam (opts : DumperOpts) : Except Rejection DumperOpts :=
  setDependentParam ctx "kotlin" opts.isDumpHeapMem { opts with isDumpHeapKotlin := true }

/-- `DumpImplement::SetJsvmParam`. -/
def setJsvmParam (opts : DumperOpts) : Except Rejection DumperOpts :=
  setDependentParam ctx "jsvm" opts.isDumpHeapMem { opts with isDumpHeapJsvm := true }

/-- `DumpImplement::SetArkwebJsParam`. -/
def setArkwebJsParam (opts : DumperOpts) : Except Rejection DumperOpts :=
  setDependentParam ctx "arkweb-js" opts.isDumpHeapMem { opts with isDumpHeapArkwebJs := true }

/-- `DumpImplement::SetRawParam`. -/
def setRawParam (opts : DumperOpts) : Except Rejection DumperOpts :=
  if opts.isDumpJsHeapMem then .ok { opts with dumpJsRawHeap := true }
  else setDependentParam ctx "raw" opts.isDumpHeapMem { opts with dumpRawHeap := true }

/-- `DumpImplement::SetGCParam`. -/
def setGCParam (opts : DumperOpts) : Except Rejection DumperOpts :=
  if opts.isDumpJsHeapMem then .ok { opts with isDumpJsHeapMemGC := true }
  else if opts.isDumpCjHeapMem then .ok { opts with isDumpCjHeapMemGC := true }
  else setDependentParam ctx "gc" opts.isDumpHeapMem { opts with isDumpHeapMemGc := true }

/-- `DumpImplement::SetLeakobjParam`. -/
def setLeakobjParam (opts : DumperOpts) : Except Rejection DumperOpts :=
  if opts.isDumpJsHeapMem then .ok { opts with isDumpJsHeapLeakobj := true }
  else setDependentParam ctx "leakobj" (opts.isDumpHeapMem && opts.isDumpHeapNative)
    { opts with isDumpHeapLeakobj := true }

/-- `DumpImplement::SetMemPruneParam`. -/
def setMemPruneParam (opts : DumperOpts) : Except Rejection DumperOpts :=
  if opts.isDumpMem then .ok { opts with dumpMemPrune := true } else .error ⟨.dumpFail, ""⟩

/-- `DumpImplement::SetCleanParam`. -/
def setCleanParam (opts : DumperOpts) : Except Rejection DumperOpts :=
  if opts.isDumpJsHeapMem then .ok { opts with isDumpJsHeapClean := true }
  else .error ⟨.dumpFail, ""⟩

/-- What `--show-leakthread` without a memory pid is answered with. -/
def leakthreadArgumentError : String :=
  sendErrorMessage
    "Error [ARGUMENT]: Invalid arguments for '--show-leakthread' (requires '--mem <pid>')." ++
  sendErrorMessage
    "Fix: Set '--mem <pid> --show-leakthread' where <pid> is a valid application process id."

/-- `DumpImplement::SetShowLeakthreadParam`. -/
def setShowLeakthreadParam (opts : DumperOpts) : Except Rejection DumperOpts :=
  if opts.isDumpMem then .ok { opts with showLeakThread := true }
  else rejectWithHelp ctx leakthreadArgumentError

/-- `DumpImplement::SetIpcStatParam`; `none` if it does not know the parameter. -/
def setIpcStatParam (param : String) (opts : DumperOpts) : Option DumperOpts :=
  if param = "start-stat" then some { opts with isDumpIpcStartStat := true }
  else if param = "stop-stat" then some { opts with isDumpIpcStopStat := true }
  else if param = "stat" then some { opts with isDumpIpcStat := true }
  else none

/-- A bound of the event list given as a time. -/
def setEventTime (optarg : Option String) : Except Rejection Int :=
  match optarg with
  | none => .error ⟨.dumpFail, ""⟩
  | some value =>
    if ctx.stringToUnixMs value < 0 then
      .error ⟨.dumpInvalidArg, sendErrorMessage (invalidError ++ value)⟩
    else .ok (ctx.stringToUnixMs value)

/-- `DumpImplement::SetEventParam`. -/
def setEventParam (param : String) (optarg : Option String) (opts : DumperOpts) :
    Except Rejection DumperOpts :=
  if param = "list" then .ok { opts with isEventList := true }
  else if param = "print" then .ok { opts with isEventDetail := true }
  else if param = "since" then do .ok { opts with startTime := ← setEventTime ctx optarg }
  else if param = "until" then do .ok { opts with endTime := ← setEventTime ctx optarg }
  else .error ⟨.dumpFail, ""⟩

/-- `DumpImplement::ParseEventCmdOption`. -/
def parseEventCmdOption (param : String) (opts : DumperOpts) : Bool :=
  opts.isFaultLog && ["list", "print", "since", "until"].contains param

/-- `ZIP_FOLDER`. -/
def zipFolder : String := "/data/log/hidumper/"

/-- `DumpImplement::ParseSubLongCmdOption`; `none` if it does not know the option. -/
def parseSubLongCmdOption (name : String) (opts : DumperOpts) : Option DumperOpts :=
  if name = "cpufreq" then some { opts with isDumpCpuFreq := true }
  else if ctx.build.hiviewEnable && name = "cpuusage" then some { opts with isDumpCpuUsage := true }
  else if name = "mem" then some { opts with isDumpMem := true }
  else if name = "net" then some { opts with isDumpNet := true }
  else if name = "storage" then some { opts with isDumpStorage := true }
  else if name = "zip" then some { opts with path := zipFolder ++ ctx.time ++ ".zip" }
  else none

/-- What a wrong combination of ipc options is answered with. -/
def ipcArgumentError : String := sendErrorMessage "ipc stat cmd args invalid\n"

/-- The options of `ParseLongCmdOption` from the ipc ones on. -/
def parseIpcOrEventOption (argv : List String) (name : String) (optarg : Option String)
    (opts : DumperOpts) : Except Rejection DumperOpts :=
  if name = "ipc" then
    if argv.length ≠ 4 then rejectWithHelp ctx ipcArgumentError
    else .ok { opts with isDumpIpc := true }
  else
    match setIpcStatParam name opts with
    | some opts =>
      if !opts.isDumpIpc then rejectWithHelp ctx ipcArgumentError else .ok opts
    | none =>
      if parseEventCmdOption name opts then setEventParam ctx name optarg opts
      else .ok opts

/-- `DumpImplement::ParseLongCmdOption`. -/
def parseLongCmdOption (argv : List String) (name : String) (optarg : Option String)
    (opts : DumperOpts) : Except Rejection DumperOpts :=
  match parseSubLongCmdOption ctx name opts with
  | some opts => .ok opts
  | none =>
    if name = "mem-smaps" then setMemSmapsParam ctx argv opts
    else if name = "show-ashmem" then .ok { opts with showAshmem := true }
    else if name = "show-dmabuf" then .ok { opts with showDmaBuf := true }
    else if ctx.build.pluginEnable && name = "show-gpumem" then .ok { opts with showGpumem := true }
    else if name = "show-arktsheap" then .ok { opts with showArktsHeap := true }
    else if name = "show-leakthread" then setShowLeakthreadParam ctx opts
    else if name = "fd" then .ok { opts with isDumpFd := true }
    else if name = "thread" then .ok { opts with isDumpThread := true }
    else if name = "mem-jsheap" then setMemJsheapParam ctx optarg opts
    else if name = "mem-cjheap" then setMemCjheapParam ctx optarg opts
    else if name = "mem-heap" then .ok { opts with isDumpHeapMem := true }
    else if name = "native" then setNativeParam ctx opts
    else if name = "kotlin" then setKotlinParam ctx opts
    else if ctx.build.pluginEnable && name = "jsvm" then setJsvmParam ctx opts
    else if ctx.build.pluginEnable && name = "arkweb-js" then setArkwebJsParam ctx opts
    else if name = "raw" then setRawParam ctx opts
    else if name = "prune" then setMemPruneParam opts
    else if name = "gc" then setGCParam ctx opts
    else if name = "leakobj" then setLeakobjParam ctx opts
    else if name = "single" then .ok { opts with isDumpJsHeapCombine := true }
    else if name = "clean" then setCleanParam opts
    else parseIpcOrEventOption ctx argv name optarg opts

/-! ## Short options -/

/-- `DumpImplement::ParseCmdOptionForA`. -/
def parseCmdOptionForA (argv : List String) (optind : Nat) (optarg : Option String)
    (opts : DumperOpts) : Except Rejection DumperOpts :=
  if opts.isDumpSystemAbility then
    .ok { opts with abilitieArgs := ctx.sys.strings.splitStr (optarg.getD "") " " false true }
  else if opts.isDumpIpc then
    let opts := { opts with isDumpAllIpc := true }
    match optarg with
    | none => .ok opts
    | some value =>
      match ctx.sys.strings.splitStr value "--" false true with
      | [] => .error ⟨.dumpInvalidArg, sendErrorMessage invalidError⟩
      | param :: _ =>
        match setIpcStatParam param opts with
        | some opts => .ok opts
        | none => .error ⟨.dumpInvalidArg, sendErrorMessage (invalidError ++ ":" ++ param)⟩
  else
    let optionName := removeCharacterFromStr (argv.getD (optind - 1) "") '-'
    .error ⟨.dumpInvalidArg, sendErrorMessage (unrecognizedError ++ optionName)⟩

/-- `DumpImplement::ParseShortCmdOption` for the character of a short option. -/
def parseShortCmdOption (argv : List String) (optind : Nat) (c : Char) (optarg : Option String)
    (opts : DumperOpts) : Except Rejection DumperOpts :=
  match c with
  | 'a' => parseCmdOptionForA ctx argv optind optarg opts
  | 'c' => .ok { opts with isDumpSystem := true }
  | 'e' => .ok { opts with isFaultLog := true }
  | 'l' => .ok { opts with isDumpList := true }
  | 's' => .ok { opts with isDumpSystemAbility := true }
  | 'p' => .ok { opts with isDumpProcesses := true }
  | 'v' => .ok { opts with isShowSmapsInfo := true }
  | _ => setCmdParameter ctx argv optind opts

/-- The text of `DumpImplement::CheckIncorrectCmdOption`. -/
def incorrectCmdOption (argv : List String) (optind : Nat) : Option Char → String
  | none =>
    let optLongStr := removeCharacterFromStr (argv.getD (optind - 1) "") '-'
    if optLongStr = "since" || optLongStr = "until" then
      sendErrorMessage (requireError ++ optLongStr)
    else sendErrorMessage (unrecognizedError ++ optLongStr)
  | some optopt =>
    sendErrorMessage ((if optopt ∈ optStr.toList then requireError else unrecognizedError) ++
      String.singleton optopt)

/-- One turn of the loop of `CmdParseWithParameter`. -/
def parseOption (argv : List String) (opts : DumperOpts) (result : GetoptResult) :
    Except Rejection DumperOpts :=
  match result.code with
  | .long name optarg => parseLongCmdOption ctx argv name optarg opts
  | .short 'h' _ => rejectWithHelp ctx ""
  | .short c optarg => parseShortCmdOption ctx argv result.optind c optarg opts
  | .plain _ => setCmdParameter ctx argv result.optind opts
  | .unknown optopt => .error ⟨.dumpInvalidArg, incorrectCmdOption argv result.optind optopt⟩

/-- The loop of `CmdParseWithParameter`, from fresh options. -/
def parseOptions (argv : List String) : Except Rejection DumperOpts :=
  (getoptLong (longOptions ctx.build) (optStr.toList.drop 1) 1 (argv.drop 1)).foldlM
    (parseOption ctx argv) {}

end Options

end HiDumper.Native
