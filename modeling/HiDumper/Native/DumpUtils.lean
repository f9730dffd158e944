import HiDumper.Native.DumperOpts

/-!
# DumpCommonUtils and DumpUtils: what the system says about processes

Model of the process and application queries of `dump_common_utils.cpp` and
`dump_utils.cpp`, over one snapshot of the system: the `/proc` files as texts,
the answers of the bundle manager and the system parameters. The functions of
the string library the sources link against (`string_ex.h`) are not part of the
repository: they are the fields of `StringEx`.
-/

namespace HiDumper.Native

/-! ## The system -/

/-- `string_ex.h`. Where a C++ function leaves its output argument alone and
    returns `false`, the result is `none`. -/
structure StringEx where
  isNumericStr : String → Bool
  strToInt : String → Option Int
  /-- `SplitStr(str, sep, strs, canEmpty, needTrim)`. -/
  splitStr : String → String → Bool → Bool → List String
  /-- `TrimStr(str, cTrim)`. -/
  trimStr : String → Char → String
  isSubStr : String → String → Bool

/-- The library for separators of one character and decimal numbers without a sign. -/
def StringEx.simple : StringEx where
  isNumericStr str := str ≠ "" && str.toList.all (·.isDigit)
  strToInt str :=
    if str ≠ "" && str.toList.all (·.isDigit) then
      some (str.toList.foldl (fun n c => 10 * n + (c.toNat - '0'.toNat : Nat)) 0)
    else none
  splitStr str sep canEmpty needTrim :=
    let strip := fun l : List Char => (l.dropWhile (· = ' ')).reverse.dropWhile (· = ' ') |>.reverse
    let parts := str.toList.splitOnP (· ∈ sep.toList)
    let parts := if needTrim then parts.map strip else parts
    (if canEmpty then parts else parts.filter (· ≠ [])).map String.ofList
  trimStr str c :=
    String.ofList ((str.toList.dropWhile (· = c)).reverse.dropWhile (· = c)).reverse
  isSubStr str sub := str ≠ "" && sub ≠ "" && contains str sub

/-- The fields of `AppExecFwk::ApplicationInfo` that are read. -/
structure ApplicationInfo where
  appProvisionType : String
  profileable : Bool
  appDistributionType : String

/-- A snapshot of what the process sees of the system. Files and folders that
    cannot be opened are `none`. -/
structure System where
  strings : StringEx
  /-- Names in `/proc/`. -/
  procNames : Option (List String)
  /-- Does `/proc/<pid>` exist? -/
  procExists : Int → Bool
  /-- Content of `/proc/<pid>/status`. -/
  procStatus : Int → Option String
  /-- Content of `/proc/<pid>/cmdline`. -/
  procCmdline : Int → Option String
  /-- Names in `/sys/devices/system/cpu/`. -/
  cpuNames : Option (List String)
  /-- The bundle manager's `GetApplicationInfoV9`; `none` also when it cannot be reached. -/
  applicationInfo : String → Option ApplicationInfo
  /-- Parameter `const.debuggable`, `"0"` when it is not set. -/
  debuggable : String
  /-- Parameter `const.security.developermode.state`, empty when it is not set. -/
  developerMode : String

/-! ## Reading `/proc` -/

/-- Drop what follows a NUL up to the end of its line, the line break included:
    `getline` delivers whole lines, but each goes through a C string. -/
def cutLinesAtNul : Bool → List Char → List Char
  | _, [] => []
  | true, c :: cs => cutLinesAtNul (c ≠ '\n') cs
  | false, c :: cs => if c = '\x00' then cutLinesAtNul true cs else c :: cutLinesAtNul false cs

/-- The text `FileUtils::LoadStringFromProcCb(file, false, false, append)` collects
    from a file with content `content`. -/
def loadStringFromProcCb (content : String) : String :=
  String.ofList (cutLinesAtNul false content.toList)

/-- `DumpCommonUtils::PidInfo`; the defaults are those of `Reset`. -/
structure PidInfo where
  pid : Int := -1
  uid : Int := -1
  gid : Int := -1
  ppid : Int := -1
  name : String := ""
  cmdline : String := ""
  deriving Repr, DecidableEq

namespace System

/-- `DumpCommonUtils::GetLinesInFile` on a file with content `content`. -/
def getLinesInFile (sys : System) (content : String) : List String :=
  sys.strings.splitStr (loadStringFromProcCb content) "\n" false true

/-- Take one line of a status file into `info`; `none` where the loop of
    `GetProcessInfo` continues with the next line at once. -/
def readStatusLine (sys : System) (info : PidInfo) (line : String) : Option PidInfo :=
  match sys.strings.splitStr line ":" false true with
  | key :: value :: _ =>
    let val := sys.strings.trimStr value '\t'
    match sys.strings.splitStr val "\t" true true with
    | [] => none
    | val0 :: _ =>
      if key = "Pid" then some { info with pid := (sys.strings.strToInt val0).getD info.pid }
      else if key = "PPid" then some { info with ppid := (sys.strings.strToInt val0).getD info.ppid }
      else if key = "Uid" then some { info with uid := (sys.strings.strToInt val0).getD info.uid }
      else if key = "Gid" then some { info with gid := (sys.strings.strToInt val0).getD info.gid }
      else if key = "Name" then some { info with name := val }
      else none
  | _ => none

/-- The loop of `GetProcessInfo`: it stops at the first line that makes `info`
    complete. -/
def readStatusLines (sys : System) : PidInfo → List String → Bool × PidInfo
  | info, [] => (false, info)
  | info, line :: lines =>
    match sys.readStatusLine info line with
    | none => readStatusLines sys info lines
    | some info' =>
      if info'.pid > -1 && info'.ppid > -1 && info'.uid > -1 && info'.gid > -1 then (true, info')
      else readStatusLines sys info' lines

/-- `DumpCommonUtils::GetProcessInfo`: what it returns, and what it leaves in `info`. -/
def getProcessInfo (sys : System) (pid : Int) : Bool × PidInfo :=
  match sys.procStatus pid with
  | none => (false, {})
  | some content => sys.readStatusLines {} (sys.getLinesInFile content)

/-- `DumpCommonUtils::GetProcessNameByPid`. -/
def getProcessNameByPid (sys : System) (pid : Int) : Option String :=
  match sys.procCmdline pid with
  | none => none
  | some cmdline =>
    match sys.strings.splitStr (loadStringFromProcCb cmdline) " " false false with
    | [] => none
    | first :: _ =>
      match (sys.strings.splitStr first "/" false false).getLast? with
      | none => none
      | some lastName => some (if contains first "/bin" then lastName else first)

/-- The entry `GetPidInfos` makes for one name in `/proc/`. -/
def pidInfoOfName (sys : System) (all : Bool) (name : String) : PidInfo :=
  let info := (sys.getProcessInfo ((sys.strings.strToInt name).getD (-1))).2
  if all then { info with cmdline := (sys.getProcessNameByPid info.pid).getD info.cmdline }
  else info

/-- `DumpCommonUtils::GetPidInfos`: the entries it appends. -/
def getPidInfos (sys : System) (all : Bool) : List PidInfo :=
  ((sys.procNames.getD []).filter fun name => name ≠ "" && sys.strings.isNumericStr name).map
    (sys.pidInfoOfName all)

/-- `DumpCommonUtils::GetCpuInfos`: the ids of the entries it appends. -/
def getCpuInfos (sys : System) : List Int :=
  (sys.cpuNames.getD []).filterMap fun name =>
    if startWith name "cpu" then
      let cpuId := String.ofList (name.toList.drop 3)
      if cpuId = "" || !sys.strings.isNumericStr cpuId then none
      else some ((sys.strings.strToInt cpuId).getD (-1))
    else none

/-! ## Applications -/

/-- `DumpUtils::IsUserMode`. -/
def isUserMode (sys : System) : Bool := sys.debuggable = "0"

/-- `DumpUtils::IsDeveloperModeEnabled`. -/
def isDeveloperModeEnabled (sys : System) : Bool := sys.developerMode = "true"

/-- `DumpUtils::GetBundleNameByPid`: up to the first `:`, then up to the first NUL. -/
def getBundleNameByPid (sys : System) (pid : Int) : Option String :=
  if pid ≤ 0 then none
  else
    match sys.procCmdline pid with
    | none => none
    | some cmdline =>
      if cmdline = "" then none
      else some (String.ofList ((cmdline.toList.takeWhile (· ≠ ':')).takeWhile (· ≠ '\x00')))

/-- `DumpUtils::GetApplicationInfoBase`. -/
def getApplicationInfoBase (sys : System) (pid : Int) : Option ApplicationInfo :=
  (sys.getBundleNameByPid pid).bind sys.applicationInfo

/-- `DumpUtils::CheckAppDebugVersion`. -/
def checkAppDebugVersion (sys : System) (pid : Int) : Bool :=
  (sys.getApplicationInfoBase pid).any fun appInfo => appInfo.appProvisionType = "debug"

/-- `DumpUtils::CheckAppProfileable`. -/
def checkAppProfileable (sys : System) (pid : Int) : Bool :=
  (sys.getApplicationInfoBase pid).any (·.profileable)

/-- `DumpUtils::CheckAppInhouse`. -/
def checkAppInhouse (sys : System) (pid : Int) : Bool :=
  (sys.getApplicationInfoBase pid).any fun appInfo => appInfo.appDistributionType = "enterprise"

/-- `DumpUtils::CheckProcessAlive`. -/
def checkProcessAlive (sys : System) (pid : Int) : Bool := sys.procExists pid

end System

/-! ## Strings -/

/-- The loop of `RemoveDuplicateString`, where `seen` is `tmpSet`. -/
def removeDuplicates (seen : List String) : List String → List String
  | [] => []
  | str :: rest =>
    if str ∈ seen then removeDuplicates seen rest else str :: removeDuplicates (str :: seen) rest

/-- `DumpUtils::RemoveDuplicateString`. -/
def removeDuplicateString (strList : List String) : List String := removeDuplicates [] strList

/-- `DumpUtils::StrToId`, over the map from ids to names. -/
def strToId (strings : StringEx) (saNameMap : List (Int × String)) (name : String) : Int :=
  match saNameMap.find? (·.2 = name) with
  | some entry => entry.1
  | none => (strings.strToInt name).getD (-1)

end HiDumper.Native
