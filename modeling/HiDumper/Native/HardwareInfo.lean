import HiDumper.ForStd.Fields
import HiDumper.ForStd.Scanf
import HiDumper.Native.DumpUtils
import Mathlib.Data.UInt

/-!
# Memory that is reserved for hardware

Model of `GetHardwareInfo` in `executor/memory/get_hardware_info.cpp`, of what it calls in
`MemoryUtil` and of `StringUtils::HexToDec`. The device tree is searched for nodes with
`no-map`, the `reg` of each is printed with `xxd`, and the sizes in it are added up by
several threads. The lines of the commands are an input. `size_t` and `uint64_t` are
`UInt64`; the `double`s of `pow` are taken as exact. `none` is a call that does not return:
undefined behaviour, an exception, or a loop without an end.
-/

namespace HiDumper.Native

/-! ## Numbers in texts -/

namespace StringUtils

/-- What a character counts for in `HexToDec`. -/
def hexDigit (c : Char) : Int :=
  if '0' ≤ c ∧ c ≤ '9' then (c.toNat : Int) - '0'.toNat else (c.toNat : Int) - 'A'.toNat + 10

/-- The conversion of a `double` without a fraction to `uint64_t`. It is undefined out of
    range. -/
def toUInt64 (x : Int) : Option UInt64 :=
  if 0 ≤ x ∧ x < UInt64.size then some (UInt64.ofNat x.toNat) else none

/-- `StringUtils::HexToDec`: add the number in `str` to `value`. -/
def hexToDec : List Char → UInt64 → Option UInt64
  | [], value => some value
  | c :: str, value =>
    (toUInt64 (value.toNat + hexDigit c * 16 ^ str.length)).bind (hexToDec str)

end StringUtils

/-! ## What is outside -/

/-- What `GetHardwareInfo` works on. -/
structure HardwareSource where
  strings : StringEx
  /-- `MemoryUtil::RunCMD`: the lines of a command, `none` if it cannot be run. -/
  runCmd : String → Option (List String)
  /-- `std::thread::hardware_concurrency()`. -/
  hardwareThreads : UInt64
  /-- `HARDWARE_USAGE_THREAD_NUM_` of `MemoryFilter`. -/
  hardwareUsageThreadNum : UInt64 := 5

/-- `MemoryUtil::BYTE_TO_KB_`. -/
def byteToKb : UInt64 := 1024

/-- `MemoryUtil::GetMaxThreadNum`. -/
def getMaxThreadNum (hardwareThreads threadNum : UInt64) : UInt64 :=
  let maxThreadNum :=
    if hardwareThreads = 0 then threadNum
    else if hardwareThreads < threadNum then hardwareThreads
    else threadNum
  if maxThreadNum = 0 then 1 else maxThreadNum

/-! ## GetHardwareInfo -/

namespace GetHardwareInfo

variable (src : HardwareSource)

/-- `DATAS_MIN_LEN`. -/
def datasMinLen : Nat := 1

/-- `GetHardwareInfo::WORD_SIZE`. -/
def wordSize : Nat := 4

/-- `GetHardwareInfo::FindFilePaths`. -/
def findFilePaths : Option (List String) := src.runCmd "find /proc/device-tree/ -name \"no-map\""

/-- `GetHardwareInfo::GetResverRegPath`. -/
def getResverRegPath (path : String) : String :=
  let strs := src.strings.splitStr path "/" false false
  if strs.length = 0 then ""
  else (strs.dropLast ++ ["reg"]).foldl (fun path str => path ++ "/" ++ str) ""

/-- `GetHardwareInfo::GetValue`. -/
def getValue (str : String) : Option UInt64 :=
  let words := str.toList.fields Scanf.isSpace
  if wordSize ≤ words.length then words[3]?.bind fun tempWord => StringUtils.hexToDec tempWord 0
  else some 0

/-- `GetHardwareInfo::RegStrToRegValue`: the result, and `value` after it. -/
def regStrToRegValue : List String → UInt64 → Option (Bool × UInt64)
  | [], value => some (true, value)
  | str :: infos, value =>
    match (src.strings.splitStr str ":" false false)[datasMinLen]? with
    | none => some (false, value)
    | some tempValueStr => do
      let tempValue ← getValue tempValueStr
      regStrToRegValue infos (value + tempValue)

/-- `GetHardwareInfo::GetResverRegValue`: the result, and `value` after it. -/
def getResverRegValue (path : String) (value : UInt64) : Option (Bool × UInt64) :=
  match src.runCmd ("xxd -g 4 " ++ path) with
  | none => some (false, value)
  | some valueStrs => do
    let (_, value) ← regStrToRegValue src valueStrs value
    some (true, value)

/-- The loop of `CalcHardware`. -/
def addRegValue (totalValue : UInt64) (path : String) : Option UInt64 :=
  let path := getResverRegPath src path
  if path.isEmpty then some totalValue
  else do
    let (_, value) ← getResverRegValue src path 0
    some (totalValue + value)

/-- `GetHardwareInfo::CalcHardware`. -/
def calcHardware (paths : List String) : Option UInt64 := paths.foldlM (addRegValue src) 0

/-- The loop of `GetGroupOfPaths`. `at` throws behind the end of the list, and a loop up to
    the largest `size_t` never ends. -/
def groupLoop (paths : List String) (last i : UInt64) (groupPaths : List String) :
    Option (List String) :=
  if i ≤ last then do
    let groupPaths ←
      if i ≤ UInt64.ofNat paths.length - 1 then paths[i.toNat]?.map fun path => groupPaths ++ [path]
      else some groupPaths
    if i.toNat + 1 = UInt64.size then none else groupLoop paths last (i + 1) groupPaths
  else some groupPaths
termination_by UInt64.size - i.toNat
decreasing_by
  have hlt := i.toNat_lt_size
  have hnext : (i + 1).toNat = i.toNat + 1 := by
    rw [UInt64.toNat_add]
    exact Nat.mod_eq_of_lt (by simp only [UInt64.size] at *; simp; omega)
  omega

/-- `GetHardwareInfo::GetGroupOfPaths`. -/
def getGroupOfPaths (index size : UInt64) (paths : List String) : Option (List String) :=
  if (index + 1) * size ≤ 0 then some []
  else groupLoop paths ((index + 1) * size - 1) (index * size) []

/-- The groups that `GetHardwareUsage` makes for a list that is not empty. -/
def groupsOfPaths (threadNum : UInt64) (paths : List String) : Option (List (List String)) :=
  let groupSize := (UInt64.ofNat paths.length - 1) / threadNum + 1
  (List.range threadNum.toNat).mapM fun i => getGroupOfPaths (UInt64.ofNat i) groupSize paths

/-- `threadNum` in `GetHardwareUsage`. -/
def threadNum : UInt64 :=
  let threadNum := getMaxThreadNum src.hardwareThreads src.hardwareUsageThreadNum
  if threadNum = 0 then 1 else threadNum

/-- `GetHardwareInfo::GetHardwareUsage`: the result and `totalValue`. Each thread adds up a
    group of its own, whenever it runs; the results are added in the order of the groups. -/
def getHardwareUsage : Option (Bool × UInt64) :=
  match findFilePaths src with
  | none => some (false, 0)
  | some paths =>
    if 0 < paths.length then do
      let groups ← groupsOfPaths (threadNum src) paths
      let results ← groups.mapM (calcHardware src)
      some (true, results.foldl (· + ·) 0 / byteToKb)
    else some (true, 0)

end GetHardwareInfo

end HiDumper.Native
