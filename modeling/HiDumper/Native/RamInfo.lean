import HiDumper.Native.MemoryGroups

/-!
# The RAM of the device

Model of `executor/memory/get_ram_info.cpp`, with the lists of keys of `MemoryFilter`. The
values are `uint64_t` and wrap around; `lost` is an `int64_t`. The maps are `std::map`s; their
values are only added up, so the order of the entries does not matter.
-/

namespace HiDumper.Native

namespace MemoryFilter

/-- `CALC_TOTAL_PSS_`. -/
def calcTotalPss : List String := ["Pss"]

/-- `CALC_TOTAL_SWAP_PSS_`. -/
def calcTotalSwapPss : List String := ["SwapPss"]

/-- `CALC_KERNEL_USED_`. -/
def calcKernelUsed : List String :=
  ["Shmem", "Slab", "VmallocUsed", "PageTables", "KernelStack"]

/-- `CALC_FREE_`. -/
def calcFree : List String := ["MemFree"]

/-- `CALC_CACHED_`. -/
def calcCached : List String := ["Buffers", "Cached", "KReclaimable", "SReclaimable"]

/-- `CALC_KRECL_`. -/
def calcKrecl : List String := ["KReclaimable"]

/-- `CALC_SRECL_`. -/
def calcSrecl : List String := ["SReclaimable"]

/-- `CALC_MAPPED_`. -/
def calcMapped : List String := ["Mapped"]

/-- `CALC_TOTAL_`. -/
def calcTotal : List String := ["MemTotal"]

/-- `CALC_ZARM_TOTAL_`. -/
def calcZarmTotal : List String := []

end MemoryFilter

/-- `GetRamInfo::Ram`. -/
structure Ram where
  total : UInt64 := 0
  free : UInt64 := 0
  used : UInt64 := 0
  totalPss : UInt64 := 0
  kernelUsed : UInt64 := 0
  cachedInfo : UInt64 := 0
  freeInfo : UInt64 := 0
  lost : Int64 := 0
  deriving DecidableEq, Repr

namespace GetRamInfo

open MemoryFilter

/-- `GetRamInfo::GetGroupMapValue`. -/
def getGroupMapValue (infos : GroupMap) (keys : List String) : UInt64 :=
  infos.entries.foldl (fun totalValue info =>
    keys.foldl (fun totalValue str =>
      match info.2.lookup str with
      | some value => totalValue + value
      | none => totalValue) totalValue) 0

/-- `GetRamInfo::GetValueMapValue`. -/
def getValueMapValue (infos : ValueMap) (strs : List String) : UInt64 :=
  strs.foldl (fun totalValue str =>
    match infos.lookup str with
    | some value => if str = "Mapped" then totalValue - value else totalValue + value
    | none => totalValue) 0

/-- `GetRamInfo::GetTotalPss`. -/
def getTotalPss (infos : GroupMap) : UInt64 := getGroupMapValue infos calcTotalPss

/-- `GetRamInfo::GetTotalSwapPss`. -/
def getTotalSwapPss (infos : GroupMap) : UInt64 := getGroupMapValue infos calcTotalSwapPss

/-- `GetRamInfo::GetFreeInfo`. -/
def getFreeInfo (infos : ValueMap) : UInt64 := getValueMapValue infos calcFree

/-- `GetRamInfo::GetKernelUsedInfo`. -/
def getKernelUsedInfo (infos : ValueMap) : UInt64 := getValueMapValue infos calcKernelUsed

/-- `GetRamInfo::GetKreclInfo`. -/
def getKreclInfo (infos : ValueMap) : UInt64 := getValueMapValue infos calcKrecl

/-- `GetRamInfo::GetMappedInfo`. -/
def getMappedInfo (infos : ValueMap) : UInt64 := getValueMapValue infos calcMapped

/-- `GetRamInfo::GetSreclInfo`. -/
def getSreclInfo (infos : ValueMap) : UInt64 := getValueMapValue infos calcSrecl

/-- `GetRamInfo::GetTotalRam`. -/
def getTotalRam (infos : ValueMap) : UInt64 := getValueMapValue infos calcTotal

/-- `GetRamInfo::GetZramTotalInfo`. -/
def getZramTotalInfo (infos : ValueMap) : UInt64 := getValueMapValue infos calcZarmTotal

/-- `GetRamInfo::GetCachedInfo`. -/
def getCachedInfo (infos : ValueMap) : UInt64 :=
  let totalValue := getValueMapValue infos calcCached
  let kReclaimable := getKreclInfo infos
  let totalValue := if kReclaimable ≠ 0 then totalValue - getSreclInfo infos else totalValue
  let mapped := 0 - getMappedInfo infos
  if totalValue > mapped then totalValue - mapped else 0

/-- `GetRamInfo::GetUsedRam`. -/
def getUsedRam (smapsInfo : GroupMap) (meminfo : ValueMap) (ram : Ram) : Ram × UInt64 :=
  let ram := { ram with
    totalPss := getTotalPss smapsInfo
    kernelUsed := getKernelUsedInfo meminfo }
  (ram, ram.totalPss + ram.kernelUsed)

/-- `GetRamInfo::GetFreeRam`. -/
def getFreeRam (meminfo : ValueMap) (ram : Ram) : Ram × UInt64 :=
  let ram := { ram with
    cachedInfo := getCachedInfo meminfo
    freeInfo := getFreeInfo meminfo }
  (ram, ram.cachedInfo + ram.freeInfo)

/-- `GetRamInfo::GetLostRam`. -/
def getLostRam (smapsInfo : GroupMap) (meminfo : ValueMap) : Int64 :=
  let totalRam := getTotalRam meminfo
  let totalPss := getTotalPss smapsInfo
  let totalSwapPss := getTotalSwapPss smapsInfo
  let freeInfo := getFreeInfo meminfo
  let cachedInfo := getCachedInfo meminfo
  let kernelUsedInfo := getKernelUsedInfo meminfo
  let zramTotalInfo := getZramTotalInfo meminfo
  totalRam.toInt64 -
    ((totalPss - totalSwapPss) + freeInfo + cachedInfo + kernelUsedInfo + zramTotalInfo).toInt64

/-- `GetRamInfo::GetRam`. -/
def getRam (smapsInfo : GroupMap) (meminfo : ValueMap) : Ram :=
  let ram : Ram := { total := getTotalRam meminfo }
  let (ram, used) := getUsedRam smapsInfo meminfo ram
  let (ram, free) := getFreeRam meminfo { ram with used := used }
  { ram with free := free, lost := getLostRam smapsInfo meminfo }

end GetRamInfo

end HiDumper.Native
