import Mathlib.Data.List.Sort
import HiDumper.Native.DumpImplement

/-!
# CmdParse: the parser of the task framework

Model of `manager/cmd_parse.cpp` with the `DumperOptions` of `manager/dump_context.h`.
The parser has its own option table, defaults, limits and checks; the context, the
results of `getopt_long` and the strings library are those of the other parser
(`CmdOptions`, `DumpImplement`). What a request that is turned down is told is the text
of its `Rejection`; the options of such a request are not looked at again.

`IsSADumperOption` and `RemoveCharacterFromStr` are the same loops in both parsers.
-/

namespace HiDumper.Native

/-- `struct DumperOptions`. `systemArgs` is a `std::set`: in order and without duplicates. -/
structure DumperOptions where
  cpuUsagePid : Int := -1
  memPid : Int := -1
  storagePid : Int := -1
  netPid : Int := -1
  processPid : Int := -1
  dumpJsHeapMemPid : Int := -1
  threadId : Int := -1
  ipcStatPid : Int := -1
  isDumpCpuFreq : Bool := false
  isDumpCpuUsage : Bool := false
  isDumpLog : Bool := false
  isDumpMem : Bool := false
  isDumpStorage : Bool := false
  isDumpNet : Bool := false
  isDumpList : Bool := false
  isDumpService : Bool := false
  isDumpSystemAbility : Bool := false
  isDumpSystem : Bool := false
  isDumpProcesses : Bool := false
  isFaultLog : Bool := false
  isAppendix : Bool := false
  isShowSmaps : Bool := false
  isShowSmapsInfo : Bool := false
  isDumpJsHeapMem : Bool := false
  isDumpJsHeapMemGC : Bool := false
  isDumpJsHeapLeakobj : Bool := false
  isDumpJsHeapCombine : Bool := false
  isDumpAllIpc : Bool := false
  isDumpIpc : Bool := false
  isDumpIpcStartStat : Bool := false
  isDumpIpcStopStat : Bool := false
  isDumpIpcStat : Bool := false
  dumpJsRawHeap : Bool := false
  abilityArgs : List String := []
  abilityNames : List String := []
  systemArgs : List String := []
  deriving DecidableEq

namespace CmdParse

/-- `std::set<std::string>::insert`. -/
def setInsert (set : List String) (value : String) : List String :=
  if value ∈ set then set else set.orderedInsert (· ≤ ·) value

/-- `LONG_OPTIONS`. -/
def longOptions (build : Build) : List LongOption :=
  [⟨"cpufreq", .noArgument⟩] ++
  (if build.hiviewEnable then [⟨"cpuusage", .optionalArgument⟩] else []) ++
  [⟨"mem", .optionalArgument⟩,
    ⟨"net", .noArgument⟩,
    ⟨"storage", .noArgument⟩,
    ⟨"zip", .noArgument⟩,
    ⟨"mem-smaps", .requiredArgument⟩,
    ⟨"mem-jsheap", .requiredArgument⟩,
    ⟨"gc", .noArgument⟩,
    ⟨"leakobj", .noArgument⟩,
    ⟨"raw", .noArgument⟩,
    ⟨"single", .noArgument⟩,
    ⟨"ipc", .optionalArgument⟩,
    ⟨"start-stat", .noArgument⟩,
    ⟨"stop-stat", .noArgument⟩,
    ⟨"stat", .noArgument⟩]

/-- `optStr`, whose first character is the mode of `getopt_long`. -/
def optStr : String := "-hlcsa:epvT:"

/-- The text of `PrintHelpInfo`. -/
def helpInfo (build : Build) : String :=
  "usage:\n" ++
  "  -h                          |help text for the tool\n" ++
  "  -lc                         |a list of system information clusters\n" ++
  "  -ls                         |a list of system abilities\n" ++
  "  -c                          |all system information clusters\n" ++
  "  -c [base system]            |system information clusters labeled \"base\" and \"system\"\n" ++
  "  -s                          |all system abilities\n" ++
  "  -s [SA0 SA1]                |system abilities labeled \"SA0\" and \"SA1\"\n" ++
  "  -s [SA] -a ['-h']           |system ability labeled \"SA\" with arguments \"-h\" specified\n" ++
  "  -e                          |faultlogs of crash history\n" ++
  "  --net [pid]                 |dump network information; if pid is specified," ++
  " dump traffic usage of specified pid\n" ++
  "  --storage [pid]             |dump storage information; if pid is specified, dump /proc/pid/io\n" ++
  "  -p                          |processes information, include list and infromation of processes" ++
  " and threads\n" ++
  "  -p [pid]                    |dump threads under pid, includes smap, block channel," ++
  " execute time, mountinfo\n" ++
  "  --cpufreq                   |dump real CPU frequency of each core\n" ++
  "  --mem [pid] [--prune]       |dump memory usage of total; dump memory usage of specified" ++
  " pid if pid was specified; dump simplified memory information if prune is specified and not support" ++
  " dumped simplified memory information of specified pid\n" ++
  "  --mem [pid] [--show-ashmem]   |show ashmem info when dumping memory of specified pid\n" ++
  timeIntervalUsage ++
  "  --zip                       |compress output to /data/log/hidumper\n" ++
  "  --mem-smaps pid [-v]        |display statistic in /proc/pid/smaps, use -v specify more details\n" ++
  "  --mem-jsheap pid [-T tid] [--gc] [--leakobj] [--raw] [--single]  |triggerGC, dumpHeapSnapshot," ++
  " dumpRawHeap and dumpLeakList under pid and tid\n" ++
  "  --mem-cjheap pid [--gc]     |the pid should belong to the Cangjie process; triggerGC and" ++
  " dumpHeapSnapshot under pid\n" ++
  "  --ipc pid ARG               |ipc load statistic; pid must be specified or set to -a dump all" ++
  " processes. ARG must be one of --start-stat | --stop-stat | --stat\n" ++
  if build.hiviewEnable then
    "  --cpuusage [pid]            |dump cpu usage by processes and category; if PID is specified," ++
    " dump category usage of specified pid\n"
  else ""

section Parse

variable (ctx : CmdContext)

/-- `CmdParse::CheckArgs` with `ARG_MAX_COUNT` and `SINGLE_ARG_MAXLEN`. -/
def checkArgs (argv : List String) : Bool :=
  1 ≤ argv.length && argv.length ≤ 100 &&
    argv.all fun arg => arg ≠ "" && arg.utf8ByteSize ≤ 1024

/-! ## Values -/

/-- `CmdParse::SetCmdIntegerParameter`. -/
def setCmdIntegerParameter (str : String) : Except Rejection Int :=
  if !ctx.sys.strings.isNumericStr str then .error ⟨.dumpInvalidArg, invalidError ++ str⟩
  else
    match ctx.sys.strings.strToInt str with
    | none => .error ⟨.dumpFail, ""⟩
    | some value => .ok value

/-- The branches of `CmdParse::SetCmdParameter`. -/
def handleParameter (argv : List String) (optind : Nat) (prevArg currentArg : String)
    (opts : DumperOptions) : Except Rejection DumperOptions :=
  if ctx.build.hiviewEnable && prevArg = "--cpuusage" then do
    .ok { opts with cpuUsagePid := ← setCmdIntegerParameter ctx currentArg }
  else if prevArg = "--mem" then do
    .ok { opts with memPid := ← setCmdIntegerParameter ctx currentArg }
  else if prevArg = "--net" then do
    .ok { opts with netPid := ← setCmdIntegerParameter ctx currentArg }
  else if prevArg = "--storage" then do
    .ok { opts with storagePid := ← setCmdIntegerParameter ctx currentArg }
  else if prevArg = "-c" then .ok { opts with systemArgs := setInsert opts.systemArgs currentArg }
  else if prevArg = "-p" then do
    .ok { opts with processPid := ← setCmdIntegerParameter ctx currentArg }
  else if prevArg = "-T" then do
    .ok { opts with threadId := ← setCmdIntegerParameter ctx currentArg }
  else if isSADumperOption ctx argv optind then
    .ok { opts with abilityNames := opts.abilityNames ++ [currentArg] }
  else if prevArg = "--ipc" then do
    .ok { opts with ipcStatPid := ← setCmdIntegerParameter ctx currentArg }
  else .error ⟨.dumpFail, unrecognizedError ++ removeCharacterFromStr currentArg '-'⟩

/-- `CmdParse::SetCmdParameter`: the option is the element before the value. -/
def setCmdParameter (argv : List String) (optind : Nat) (opts : DumperOptions) :
    Except Rejection DumperOptions :=
  if optind > 1 && optind ≤ argv.length then
    handleParameter ctx argv optind (argv.getD (optind - 2) "") (argv.getD (optind - 1) "") opts
  else .ok opts

/-! ## Long options -/

/-- The branch of `ParseLongCmdOption` for `--mem-smaps`. -/
def setMemSmapsParam (argv : List String) (opts : DumperOptions) : Except Rejection DumperOptions :=
  if argv.length ≥ 2 then .error ⟨.dumpFail, ""⟩
  else do .ok { opts with
    isShowSmaps := true, memPid := ← setCmdIntegerParameter ctx (argv.getD 2 "") }

/-- `CmdParse::SetMemJsheapParam`. -/
def setMemJsheapParam (optarg : Option String) (opts : DumperOptions) :
    Except Rejection DumperOptions :=
  match optarg with
  | none => .error ⟨.dumpFail, ""⟩
  | some value => do .ok { opts with
    isDumpJsHeapMem := true, dumpJsHeapMemPid := ← setCmdIntegerParameter ctx value }

/-- `CmdParse::SetRawParam`. -/
def setRawParam (opts : DumperOptions) : Except Rejection DumperOptions :=
  if opts.isDumpJsHeapMem then .ok { opts with dumpJsRawHeap := true }
  else .error ⟨.dumpFail, ""⟩

/-- `CmdParse::SetHeapCombineParam`. -/
def setHeapCombineParam (opts : DumperOptions) : Except Rejection DumperOptions :=
  if !opts.dumpJsRawHeap then .error ⟨.dumpFail, ""⟩
  else if opts.threadId ≠ 0 && opts.threadId ≠ opts.dumpJsHeapMemPid then .error ⟨.dumpFail, ""⟩
  else .ok { opts with isDumpJsHeapCombine := true }

/-- `CmdParse::SetIpcStatParam`; `none` if it does not know the parameter. -/
def setIpcStatParam (param : String) (opts : DumperOptions) : Option DumperOptions :=
  if param = "start-stat" then some { opts with isDumpIpcStartStat := true }
  else if param = "stop-stat" then some { opts with isDumpIpcStopStat := true }
  else if param = "stat" then some { opts with isDumpIpcStat := true }
  else none

/-- `CmdParse::ParseSubLongCmdOption`; `none` if it does not know the option. -/
def parseSubLongCmdOption (name : String) (opts : DumperOptions) : Option DumperOptions :=
  if name = "cpufreq" then some { opts with isDumpCpuFreq := true }
  else if ctx.build.hiviewEnable && name = "cpuusage" then some { opts with isDumpCpuUsage := true }
  else if name = "mem" then some { opts with isDumpMem := true }
  else if name = "net" then some { opts with isDumpNet := true }
  else if name = "storage" then some { opts with isDumpStorage := true }
  else if name = "zip" then some opts
  else none

/-- What a wrong combination of ipc options is answered with. -/
def rejectIpc {α : Type} : Except Rejection α :=
  .error ⟨.dumpHelp, "ipc stat cmd args invalid\n" ++ helpInfo ctx.build⟩

/-- `CmdParse::ParseLongCmdOption`. -/
def parseLongCmdOption (argv : List String) (name : String) (optarg : Option String)
    (opts : DumperOptions) : Except Rejection DumperOptions :=
  match parseSubLongCmdOption ctx name opts with
  | some opts => .ok opts
  | none =>
    if name = "mem-smaps" then setMemSmapsParam ctx argv opts
    else if name = "mem-jsheap" then setMemJsheapParam ctx optarg opts
    else if name = "raw" then setRawParam opts
    else if name = "gc" then .ok { opts with isDumpJsHeapMemGC := true }
    else if name = "leakobj" then .ok { opts with isDumpJsHeapLeakobj := true }
    else if name = "single" then setHeapCombineParam opts
    else if name = "ipc" then
      if argv.length ≠ 4 then rejectIpc ctx else .ok { opts with isDumpIpc := true }
    else
      match setIpcStatParam name opts with
      | some opts => if !opts.isDumpIpc then rejectIpc ctx else .ok opts
      | none => .ok opts

/-! ## Short options -/

/-- `CmdParse::ParseCmdOptionForA`. -/
def parseCmdOptionForA (argv : List String) (optind : Nat) (optarg : Option String)
    (opts : DumperOptions) : Except Rejection DumperOptions :=
  if opts.isDumpSystemAbility then
    .ok { opts with abilityArgs := ctx.sys.strings.splitStr (optarg.getD "") " " false true }
  else if opts.isDumpIpc then
    let opts := { opts with isDumpAllIpc := true }
    match optarg with
    | none => .ok opts
    | some value =>
      match ctx.sys.strings.splitStr value "--" false true with
      | [] => .error ⟨.dumpInvalidArg, invalidError⟩
      | param :: _ =>
        match setIpcStatParam param opts with
        | some opts => .ok opts
        | none => .error ⟨.dumpInvalidArg, invalidError ++ ":" ++ param⟩
  else
    let optionName := removeCharacterFromStr (argv.getD (optind - 1) "") '-'
    .error ⟨.dumpInvalidArg, unrecognizedError ++ optionName⟩

/-- `CmdParse::ParseShortCmdOption` for the character of a short option. -/
def parseShortCmdOption (argv : List String) (optind : Nat) (c : Char) (optarg : Option String)
    (opts : DumperOptions) : Except Rejection DumperOptions :=
  match c with
  | 'a' => parseCmdOptionForA ctx argv optind optarg opts
  | 'c' => .ok { opts with isDumpSystem := true }
  | 'e' => .ok { opts with isFaultLog := true }
  | 'l' => .ok { opts with isDumpList := true }
  | 's' => .ok { opts with isDumpSystemAbility := true }
  | 'p' => .ok { opts with isDumpProcesses := true }
  | 'v' => .ok { opts with isShowSmapsInfo := true }
  | _ => setCmdParameter ctx argv optind opts

/-- The text of `CmdParse::CheckIncorrectCmdOption` with `IsShortOptionReqArg`. -/
def incorrectCmdOption (argv : List String) (optind : Nat) : Option Char → String
  | none => unrecognizedError ++ removeCharacterFromStr (argv.getD (optind - 1) "") '-'
  | some optopt =>
    (if optopt ∈ optStr.toList then requireError else unrecognizedError) ++ String.singleton optopt

/-- One turn of the loop of `CmdParseHelper`. -/
def parseOption (argv : List String) (opts : DumperOptions) (result : GetoptResult) :
    Except Rejection DumperOptions :=
  match result.code with
  | .long name optarg => parseLongCmdOption ctx argv name optarg opts
  | .short 'h' _ => .error ⟨.dumpHelp, helpInfo ctx.build⟩
  | .short c optarg => parseShortCmdOption ctx argv result.optind c optarg opts
  | .plain _ => setCmdParameter ctx argv result.optind opts
  | .unknown optopt => .error ⟨.dumpInvalidArg, incorrectCmdOption argv result.optind optopt⟩

/-- The results of all calls of `getopt_long` for a command line. -/
def getoptResults (argv : List String) : List GetoptResult :=
  getoptLong (longOptions ctx.build) (optStr.toList.drop 1) 1 (argv.drop 1)

/-! ## Checks -/

/-- The pids `CheckProcessAlive` looks at. -/
def checkedPids (opts : DumperOptions) : List Int :=
  [opts.cpuUsagePid, opts.memPid, opts.processPid, opts.storagePid, opts.netPid,
    opts.dumpJsHeapMemPid, opts.ipcStatPid]

/-- `CmdParse::CheckProcessAlive`. -/
def checkProcessAlive (opts : DumperOptions) : Except Rejection Unit :=
  match (checkedPids opts).find? fun pid =>
      pid < -1 || (pid > -1 && !ctx.sys.checkProcessAlive pid) with
  | none => .ok ()
  | some pid =>
    .error ⟨.dumpFail, (if pid < -1 then invalidError else "hidumper: No such process: ") ++
      toString pid⟩

/-- `CmdParse::CmdParseHelper`. -/
def cmdParseHelper (argv : List String) : Except Rejection DumperOptions := do
  let opts ← (getoptResults ctx argv).foldlM (parseOption ctx argv) {}
  checkProcessAlive ctx opts
  .ok opts

/-- `CmdParse::VerifyOptions`. -/
def verifyOptions (opts : DumperOptions) : Except Rejection Unit :=
  if opts.isDumpList && !opts.isDumpService && !opts.isDumpSystemAbility && !opts.isDumpSystem then
    .error ⟨.dumpFail, invalidError ++ "-l"⟩
  else
    match opts.abilityNames.find? fun name => strToId ctx.sys.strings ctx.saNameMap name = -1 with
    | some name => .error ⟨.dumpFail, invalidError ++ name⟩
    | none =>
      if opts.systemArgs ≠ [] && !opts.systemArgs.contains "base" &&
          !opts.systemArgs.contains "system" then
        .error ⟨.dumpFail, opts.systemArgs.foldl (fun text arg => text ++ arg ++ " ") invalidError⟩
      else .ok ()

/-- `CmdParse::Parse`: every failure is reported as `DUMP_FAIL`. -/
def parse (argv : List String) : Except Rejection DumperOptions :=
  let run : Except Rejection DumperOptions := do
    Checks.failIf (!checkArgs argv) ⟨.dumpFail, ""⟩
    let opts ← cmdParseHelper ctx argv
    verifyOptions ctx opts
    .ok opts
  match run with
  | .ok opts => .ok opts
  | .error rejection => .error { rejection with status := .dumpFail }

end Parse

end CmdParse

end HiDumper.Native
