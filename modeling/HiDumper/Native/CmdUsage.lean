import Mathlib.Data.List.Infix

/-!
# DumpCommonUtils: reporting the use of commands

Model of `ReportCmdUsage` and `ClearHisyseventTmpFile` of
`services/native/src/dump_common_utils.cpp`. A usage is reported unless its line is
already in the file `HISYSEVENT_TMP_FILE`, which is emptied from time to time.

Times are seconds (`time_t`). `localtime_r` is a parameter, with the fields of `struct tm`
that the source compares. What the system answers to a call, and the name it has for the
calling process, come with the call: the file, the event and the clock belong to other
repositories. A call is short: all its steps are at one time. Loading gives the whole
content of the file.
-/

namespace HiDumper.Native

/-- `DumperSysEventParams`. -/
structure DumperSysEventParams where
  errorCode : Int := 0
  callerPpid : Int := -1
  opt : String := ""
  subOpt : String := ""
  target : String := ""
  arguments : String := ""
  errorMsg : String := ""
  deriving DecidableEq, Repr

/-- The date of a `struct tm`. -/
structure Tm where
  year : Int
  mon : Int
  mday : Int
  deriving DecidableEq, Repr

/-- What the system answers in one call. -/
structure UsageAnswers where
  /-- `GetLastWriteTime` found the file. -/
  lastWriteTime : Bool := true
  /-- The stream with `std::ios::trunc` could be opened. -/
  truncated : Bool := true
  /-- `open` gave a descriptor. -/
  opened : Bool := true
  /-- `LoadStringFromFd`. -/
  loaded : Bool := true
  /-- `callerProcess` after `GetProcessNameByPid`. -/
  callerProcess : String := "unknown"
  /-- `HiSysEventWrite`. -/
  ret : Int := 0
  /-- `SaveStringToFd`. -/
  saved : Bool := true
  deriving DecidableEq, Repr

/-- One call of `ReportCmdUsage`. -/
structure UsageCall where
  param : DumperSysEventParams
  /-- `system_clock::now()` as a `time_t`. -/
  now : Int
  answers : UsageAnswers := {}
  deriving DecidableEq, Repr

/-- `HISYSEVENT_TMP_FILE`. -/
structure UsageFile where
  content : List Char
  lastWriteTime : Int
  deriving DecidableEq, Repr

/-- The event `CMD_USAGE`, with the time at which it was written. -/
structure CmdUsageEvent where
  param : DumperSysEventParams
  callerProcess : String
  time : Int
  deriving DecidableEq, Repr

/-- The file, if it exists, and the events so far. -/
structure UsageState where
  file : Option UsageFile := none
  events : List CmdUsageEvent := []
  deriving DecidableEq, Repr

namespace DumpCommonUtils

/-- `ONE_DAY_TO_SECONDS`. -/
def oneDayToSeconds : Int := 24 * 60 * 60

variable (localtime : Int → Tm)

/-- The condition under which `ClearHisyseventTmpFile` empties the file. -/
def isClearTime (lastWriteTime currentTime : Int) : Bool :=
  let currentTimeData := localtime currentTime
  let lastTimeData := localtime lastWriteTime
  currentTime - lastWriteTime > oneDayToSeconds ||
    (currentTimeData.year == lastTimeData.year && currentTimeData.mon == lastTimeData.mon &&
      currentTimeData.mday - lastTimeData.mday ≥ 1)

/-- `DumpCommonUtils::ClearHisyseventTmpFile`. -/
def clearHisyseventTmpFile (call : UsageCall) : Option UsageFile → Option UsageFile
  | none => none
  | some file =>
    if !call.answers.lastWriteTime then some file
    else if isClearTime localtime file.lastWriteTime call.now then
      if call.answers.truncated then some { content := [], lastWriteTime := call.now }
      else some file
    else some file

/-- The line that stands for the usage. -/
def usageOption (param : DumperSysEventParams) : List Char :=
  if param.errorCode = 0 then
    ("OPT:" ++ param.opt ++ " SUB_OPT:" ++ param.subOpt ++ "\n").toList
  else ("ERROR_MESSAGE:" ++ param.errorMsg ++ "\n").toList

/-- What of a string is left in its `c_str()`. -/
def cStr (text : List Char) : List Char := text.takeWhile (· != '\x00')

/-- `DumpCommonUtils::ReportCmdUsage`. `O_CREAT` makes the file at the time of the call;
    opening a file that exists does not count as a write. -/
def reportCmdUsage (state : UsageState) (call : UsageCall) : UsageState :=
  let state := { state with file := clearHisyseventTmpFile localtime call state.file }
  if !call.answers.opened then state
  else
    let file := state.file.getD { content := [], lastWriteTime := call.now }
    let state := { state with file := some file }
    if !call.answers.loaded then state
    else
      let option := usageOption call.param
      if option <:+: file.content then state
      else if call.answers.ret ≠ 0 then state
      else
        let event := { param := call.param, callerProcess := call.answers.callerProcess,
                       time := call.now }
        let state := { state with events := state.events ++ [event] }
        if !call.answers.saved then state
        else
          { state with
            file := some { content := file.content ++ cStr option, lastWriteTime := call.now } }

/-- The calls of a run, from a system without the file. -/
def reportCmdUsages (calls : List UsageCall) : UsageState :=
  calls.foldl (reportCmdUsage localtime) {}

end DumpCommonUtils

end HiDumper.Native
