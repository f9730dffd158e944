import HiDumper.ForStd.Fields
import HiDumper.ForStd.Scanf
import HiDumper.Native.DumpUtils
import HiDumper.Native.FdLinks

/-!
# Values from the status of a process

Model of `FileUtils::GetProcValue`, which looks for a key in `/proc/<pid>/status`, and of the
functions of `MemoryInfo` that call it: `GetProcName`, `GetProcUid`, `GetProcValue` and the
check of the uid in `GetDmaBufByProc`. The rows that `GetDmaBufByProc` makes for a process
that passes the check are an input.
-/

namespace HiDumper.Native

namespace FileUtils

/-- `UNKNOWN`. -/
def unknown : String := "unknown"

/-- `VALUES_MIN_LEN`. -/
def valuesMinLen : Nat := 1

/-- The lines that `getline` delivers, each as a C string and without its line break. -/
def contentLines (text : String) : List String :=
  (FdThreadDumper.getlines text).map fun line =>
    String.ofList (line.toList.takeWhile (· ≠ '\x00'))

/-- `FileUtils::GetProcValue` on a file, `none` if it does not exist or does not open. -/
def getProcValue (strings : StringEx) (file : Option String) (key : String) : String :=
  match file with
  | none => unknown
  | some text =>
    -- The loop stops at the first line with the key; behind the last one `content` is empty.
    let content := ((contentLines text).find? fun content => contains content key).getD ""
    if content.isEmpty then unknown
    else
      match (strings.splitStr content ":" false false)[valuesMinLen]? with
      | none => unknown
      | some value =>
        if value.toList.length ≤ valuesMinLen then unknown
        else String.ofList (value.toList.drop valuesMinLen)

end FileUtils

namespace MemoryInfo

/-- `UNKNOWN_PROCESS`. -/
def unknownProcess : String := "unknown"

/-- `APP_UID`. -/
def appUid : Int := 20000

/-- `MemoryInfo::GetProcName`. -/
def getProcName (sys : System) (pid : Int) : String :=
  let procName := (sys.getProcessNameByPid pid).getD unknownProcess
  if procName = unknownProcess then
    FileUtils.getProcValue sys.strings (sys.procStatus pid) "Name"
  else procName

/-- What `GetProcUid` makes of a value: the number that its first word is. -/
def uidOfValue (strings : StringEx) (procUid : String) : Int :=
  if procUid = unknownProcess then -1
  else
    let value := (procUid.toList.fields Scanf.isSpace).head?.getD []
    (strings.strToInt (String.ofList value)).getD (-1)

/-- `MemoryInfo::GetProcUid`. -/
def getProcUid (sys : System) (pid : Int) : Int :=
  uidOfValue sys.strings (FileUtils.getProcValue sys.strings (sys.procStatus pid) "Uid")

/-- `MemoryInfo::GetProcValue`. The unit is cut off with the last three characters, and a
    text shorter than that is kept. -/
def getProcValue (sys : System) (pid : Int) (key : String) : UInt64 :=
  let value := FileUtils.getProcValue sys.strings (sys.procStatus pid) key
  if value = unknownProcess then 0
  else
    let value := if value.length < 3 then value.toList else value.toList.take (value.length - 3)
    let number := (value.reverse.takeWhile (· ≠ ' ')).reverse
    match sys.strings.strToInt (String.ofList number) with
    | none => 0
    | some number => UInt64.ofInt number

/-- `MemoryInfo::GetDmaBufByProc`, where `dmaBufRows` is what it does behind the check;
    `none` for `false`. -/
def getDmaBufByProc (sys : System) (dmaBufRows : Int → Option (List (List String))) (pid : Int) :
    Option (List (List String)) :=
  if getProcUid sys pid < appUid then none else dmaBufRows pid

end MemoryInfo

end HiDumper.Native
