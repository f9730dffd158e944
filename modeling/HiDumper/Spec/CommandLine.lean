import HiDumper.Native.CmdParse
import HiDumper.Spec.OptionReads

/-!
# What a command line says

The two parsers of the repository keep the same things of a command line under different
types and with different defaults. A `CommandLine` is what both keep, with `none` for a
number that is not given; it is read without any check. The parsers are then compared with
it turn by turn: each turn stores what the `CommandLine` has, if it passes the checks that
both parsers make (`commonTurn`) and the checks of this parser alone (`legacyTurn`,
`newTurn`).

## Key results

- `parseOption_ok_iff`: a turn of `DumpImplement`
- `cmdParse_parseOption_ok_iff`: a turn of `CmdParse`
-/

namespace HiDumper.Spec

open HiDumper.Native Checks

/-- What the code relies on in `string_ex.h`: numeric strings are those of digits, and they
    stand for no negative number; `TrimStr` and `IsSubStr` do what they say. -/
structure LawfulStrings (strings : StringEx) : Prop where
  isNumericStr : strings.isNumericStr = StringEx.simple.isNumericStr
  strToInt_nonneg : ∀ text value, strings.isNumericStr text = true →
    strings.strToInt text = some value → 0 ≤ value
  trimStr : strings.trimStr = StringEx.simple.trimStr
  isSubStr : strings.isSubStr = StringEx.simple.isSubStr

/-! ## Command lines -/

/-- What the options of a command line say. -/
structure CommandLine where
  isDumpCpuFreq : Bool := false
  isDumpCpuUsage : Bool := false
  isDumpMem : Bool := false
  isDumpStorage : Bool := false
  isDumpNet : Bool := false
  isDumpList : Bool := false
  isDumpSystemAbility : Bool := false
  isDumpSystem : Bool := false
  isDumpProcesses : Bool := false
  isFaultLog : Bool := false
  isShowSmaps : Bool := false
  isShowSmapsInfo : Bool := false
  isDumpJsHeapMem : Bool := false
  isDumpJsHeapMemGC : Bool := false
  isDumpJsHeapLeakobj : Bool := false
  isDumpJsHeapCombine : Bool := false
  dumpJsRawHeap : Bool := false
  isDumpAllIpc : Bool := false
  isDumpIpc : Bool := false
  isDumpIpcStartStat : Bool := false
  isDumpIpcStopStat : Bool := false
  isDumpIpcStat : Bool := false
  abilityArgs : List String := []
  abilityNames : List String := []
  systemArgs : List String := []
  zip : Bool := false
  number : ValueField → Option Nat := fun _ => none
  -- Only the old parser keeps these.
  heapArg : Option Nat := none
  processName : String := ""
  eventId : String := ""
  isReceivedSigInt : Bool := false

/-- What the element after an option is taken for. -/
inductive Parameter where
  | number (field : ValueField)
  | label
  | ability
  | stopWord
  | heapArg
  | processName
  | eventOrProcess
  | unknown
  deriving DecidableEq

section Reading

variable (ctx : CmdContext) (argv : List String)

/-- What `value` is taken for after `prevArg`. -/
def parameterOf (optind : Nat) (prevArg value : String) : Parameter :=
  if ctx.build.hiviewEnable && prevArg = "--cpuusage" then .number .cpuUsagePid
  else if prevArg = "--mem" then if value = "SIGINT" then .stopWord else .number .memPid
  else if prevArg = "--net" then .number .netPid
  else if prevArg = "--storage" then .number .storagePid
  else if prevArg = "-c" then .label
  else if prevArg = "-p" then .number .processPid
  else if prevArg = "-T" then .number .threadId
  else if prevArg = "-t" then .number .timeInterval
  else if prevArg = "-n" then .number .showEventCount
  else if prevArg = "--list" then .processName
  else if prevArg = "--print" then .eventOrProcess
  else if isSADumperOption ctx argv optind then .ability
  else if prevArg = "--ipc" then .number .ipcStatPid
  else if prevArg = "--mem-heap" then .number .dumpHeapMemPid
  else if prevArg = "--native" then .heapArg
  else if prevArg = "--kotlin" then .heapArg
  else if ctx.build.pluginEnable && prevArg = "--jsvm" then .heapArg
  else if ctx.build.pluginEnable && prevArg = "--arkweb-js" then .heapArg
  else .unknown

/-- The element before `optind` and what it is taken for. -/
def parameterAt (optind : Nat) : Option (Parameter × String) :=
  if optind > 1 && optind ≤ argv.length then
    some (parameterOf ctx argv optind (argv.getD (optind - 2) "") (argv.getD (optind - 1) ""),
      argv.getD (optind - 1) "")
  else none

/-- A text that stands for a number. -/
def isInteger (text : String) : Bool :=
  ctx.sys.strings.isNumericStr text && (ctx.sys.strings.strToInt text).isSome

/-- The number a text stands for. -/
def natOf (text : String) : Nat := ((ctx.sys.strings.strToInt text).getD 0).toNat

namespace CommandLine

variable (line : CommandLine)

def setNumber (field : ValueField) (value : Nat) : CommandLine :=
  { line with number := fun other => if other = field then some value else line.number other }

def takeIpcStat (param : String) : CommandLine :=
  match param with
  | "start-stat" => { line with isDumpIpcStartStat := true }
  | "stop-stat" => { line with isDumpIpcStopStat := true }
  | "stat" => { line with isDumpIpcStat := true }
  | _ => line

def takeParameter (value : String) : Parameter → CommandLine
  | .number field => line.setNumber field (natOf ctx value)
  | .label => { line with systemArgs := line.systemArgs ++ [value] }
  | .ability => { line with abilityNames := line.abilityNames ++ [value] }
  | .stopWord => { line with isReceivedSigInt := true }
  | .heapArg => { line with heapArg := some (natOf ctx value) }
  | .processName => { line with processName := value }
  | .eventOrProcess =>
    if ctx.sys.strings.isNumericStr value then { line with eventId := value }
    else { line with processName := value }
  | .unknown => line

def takeValue (optind : Nat) : CommandLine :=
  match parameterAt ctx argv optind with
  | some (param, value) => line.takeParameter ctx value param
  | none => line

def takeLong (name : String) (optarg : Option String) : CommandLine :=
  match name with
  | "cpufreq" => { line with isDumpCpuFreq := true }
  | "cpuusage" => { line with isDumpCpuUsage := true }
  | "mem" => { line with isDumpMem := true }
  | "net" => { line with isDumpNet := true }
  | "storage" => { line with isDumpStorage := true }
  | "zip" => { line with zip := true }
  -- The pid is at a fixed place.
  | "mem-smaps" => { line.setNumber .memPid (natOf ctx (argv.getD 2 "")) with isShowSmaps := true }
  | "mem-jsheap" =>
    { line.setNumber .dumpJsHeapMemPid (natOf ctx (optarg.getD "")) with isDumpJsHeapMem := true }
  | "gc" => { line with isDumpJsHeapMemGC := true }
  | "leakobj" => { line with isDumpJsHeapLeakobj := true }
  | "raw" => { line with dumpJsRawHeap := true }
  | "single" => { line with isDumpJsHeapCombine := true }
  | "ipc" => { line with isDumpIpc := true }
  | _ => line.takeIpcStat name

/-- `-a` gives arguments to the abilities, or asks for the statistics of all processes. -/
def takeForA (optarg : Option String) : CommandLine :=
  if line.isDumpSystemAbility then
    { line with abilityArgs := ctx.sys.strings.splitStr (optarg.getD "") " " false true }
  else
    let line := { line with isDumpAllIpc := true }
    match (ctx.sys.strings.splitStr (optarg.getD "") "--" false true).head? with
    | some param => if optarg.isSome then line.takeIpcStat param else line
    | none => line

def takeShort (optind : Nat) (c : Char) (optarg : Option String) : CommandLine :=
  match c with
  | 'a' => line.takeForA ctx optarg
  | 'c' => { line with isDumpSystem := true }
  | 'e' => { line with isFaultLog := true }
  | 'l' => { line with isDumpList := true }
  | 's' => { line with isDumpSystemAbility := true }
  | 'p' => { line with isDumpProcesses := true }
  | 'v' => { line with isShowSmapsInfo := true }
  | _ => line.takeValue ctx argv optind

/-- What the command line says after one more result of `getopt_long`. -/
def next (result : GetoptResult) : CommandLine :=
  match result.code with
  | .long name optarg => line.takeLong ctx argv name optarg
  | .short c optarg => line.takeShort ctx argv result.optind c optarg
  | .plain _ => line.takeValue ctx argv result.optind
  | .unknown _ => line

end CommandLine

/-! ## Checks of one turn -/

section Turns

variable (line : CommandLine)

/-- The parameters of the ipc statistics. -/
def ipcStats : List String := ["start-stat", "stop-stat", "stat"]

def commonParameter (value : String) : Parameter → Bool
  | .number _ | .heapArg => isInteger ctx value
  | .unknown => false
  | _ => true

def commonValue (optind : Nat) : Bool :=
  (parameterAt ctx argv optind).all fun (param, value) => commonParameter ctx value param

def commonLong (name : String) (optarg : Option String) : Bool :=
  match name with
  | "mem-jsheap" => optarg.any (isInteger ctx)
  | "raw" => line.isDumpJsHeapMem
  | "ipc" => argv.length = 4
  | "start-stat" | "stop-stat" | "stat" => line.isDumpIpc
  | _ => true

def commonForA (optarg : Option String) : Bool :=
  line.isDumpSystemAbility || (line.isDumpIpc && optarg.all fun value =>
    (ctx.sys.strings.splitStr value "--" false true).head?.any ipcStats.contains)

/-- The checks that both parsers make in a turn. -/
def commonTurn (result : GetoptResult) : Bool :=
  match result.code with
  | .long name optarg => commonLong ctx argv line name optarg
  | .short 'h' _ => false
  | .short 'a' optarg => commonForA ctx line optarg
  | .short 'T' _ | .plain _ => commonValue ctx argv result.optind
  | .short _ _ => true
  | .unknown _ => false

/-- `-n` takes positive numbers only. -/
def legacyParameter (value : String) (param : Parameter) : Bool :=
  param ≠ .number .showEventCount || 0 < natOf ctx value

def legacyValue (optind : Nat) : Bool :=
  (parameterAt ctx argv optind).all fun (param, value) => legacyParameter ctx value param

def legacyLong (name : String) : Bool :=
  match name with
  | "gc" | "leakobj" => line.isDumpJsHeapMem
  | "mem-smaps" => 2 < argv.length && isInteger ctx (argv.getD 2 "")
  | _ => true

/-- The checks of `DumpImplement` alone: `--gc` and `--leakobj` need a `--mem-jsheap` before
    them, and `--mem-smaps` a pid. -/
def legacyTurn (result : GetoptResult) : Bool :=
  match result.code with
  | .long name _ => legacyLong ctx argv line name
  | .short 'T' _ | .plain _ => legacyValue ctx argv result.optind
  | _ => true

/-- The numbers that both parsers have an option for. -/
def isCommonField (field : ValueField) : Bool :=
  field ∈ [.cpuUsagePid, .memPid, .netPid, .storagePid, .processPid, .threadId, .ipcStatPid]

/-- `CmdParse` has no `--mem SIGINT`, and none of the options `-t`, `-n`, `--list`, `--print`
    and `--mem-heap`. -/
def newParameter : Parameter → Bool
  | .number field => isCommonField field
  | .label | .ability | .unknown => true
  | _ => false

def newValue (optind : Nat) : Bool :=
  (parameterAt ctx argv optind).all fun (param, _) => newParameter param

def newLong (name : String) : Bool :=
  match name with
  | "mem-smaps" => false
  | "single" => line.dumpJsRawHeap &&
    (line.number .threadId = some 0 || line.number .threadId = line.number .dumpJsHeapMemPid)
  | _ => true

/-- The checks of `CmdParse` alone: `--single` needs a `--raw` before it, and a `-T` with 0 or
    the pid of the heap; `--mem-smaps` always fails. -/
def newTurn (result : GetoptResult) : Bool :=
  match result.code with
  | .long name _ => newLong line name
  | .short 'T' _ | .plain _ => newValue ctx argv result.optind
  | _ => true

end Turns

end Reading

end HiDumper.Spec
