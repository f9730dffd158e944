import HiDumper.ForStd.MapSums
import HiDumper.ForStd.Scanf
import Mathlib.Data.UInt

/-!
# DMA memory by process

Model of `executor/memory/dma_info.cpp`. The lines of `/proc/process_dmabuf_info` are an
input, without their line breaks, `none` if the file cannot be opened. Sizes are `uint64_t`
and wrap around; `%llu` is read into the 32-bit `pid`, of which the low half is left.
-/

namespace HiDumper.Native

/-- `MemInfoData::DmaInfo`. -/
structure MemInfoData.DmaInfo where
  size : UInt64 := 0
  ino : UInt64 := 0
  pid : UInt32 := 0
  name : String := ""
  deriving DecidableEq, Repr

/-- The members of `DmaInfo`. -/
structure DmaInfo where
  dmaInfos : UnorderedMap UInt64 MemInfoData.DmaInfo := ∅
  dmaMap : UnorderedMap UInt32 UInt64 := ∅
  initialized : Bool := false

namespace DmaInfo

/-- `BYTE_PER_KB`. -/
def bytePerKb : UInt64 := 1024

/-- What `sscanf_s` with the format `%255s %llu %*llu %llu %llu` reads of a line. A conversion
    that fails leaves the values from it on. -/
def scanDmaInfo (str : String) : MemInfoData.DmaInfo :=
  match Scanf.wordUpTo 255 str.toList with
  | none => {}
  | some (name, s) =>
    let dmaInfo : MemInfoData.DmaInfo := { name := String.ofList name }
    match Scanf.unsigned s with
    | none => dmaInfo
    | some (pid, s) =>
      let dmaInfo := { dmaInfo with pid := pid.toUInt32 }
      match Scanf.unsigned s with
      | none => dmaInfo
      | some (_, s) =>
        match Scanf.unsigned s with
        | none => dmaInfo
        | some (size, s) =>
          let dmaInfo := { dmaInfo with size := size }
          match Scanf.unsigned s with
          | none => dmaInfo
          | some (ino, _) => { dmaInfo with ino := ino }

/-- What `CreateDmaInfo` does with the values it has read. -/
def addDmaInfo (dmaInfos : UnorderedMap UInt64 MemInfoData.DmaInfo)
    (dmaInfo : MemInfoData.DmaInfo) : UnorderedMap UInt64 MemInfoData.DmaInfo :=
  match dmaInfos.lookup dmaInfo.ino with
  | none => dmaInfos.insert dmaInfo.ino dmaInfo
  | some found =>
    if (dmaInfo.name ≠ "composer_host" ∧ dmaInfo.name ≠ "render_service") ∨
        (dmaInfo.name = "render_service" ∧ found.name = "composer_host") then
      dmaInfos.insert dmaInfo.ino { found with pid := dmaInfo.pid }
    else dmaInfos

/-- `DmaInfo::CreateDmaInfo`. The number of conversions is not zero: without a name it is
    `EOF`. -/
def createDmaInfo (dmaInfos : UnorderedMap UInt64 MemInfoData.DmaInfo) (str : String) :
    UnorderedMap UInt64 MemInfoData.DmaInfo :=
  let dmaInfo := scanDmaInfo str
  addDmaInfo dmaInfos { dmaInfo with size := dmaInfo.size / bytePerKb }

/-- One round of the loop over `dmaInfos_`. -/
def addToDmaMap (dmaMap : UnorderedMap UInt32 UInt64)
    (it : Sigma fun _ : UInt64 => MemInfoData.DmaInfo) : UnorderedMap UInt32 UInt64 :=
  dmaMap.upsert it.2.pid it.2.size (· + it.2.size)

/-- `DmaInfo::ParseDmaInfo`. -/
def parseDmaInfo (dma : DmaInfo) (lines : Option (List String)) : DmaInfo × Bool :=
  if dma.initialized then (dma, true)
  else
    let dmaInfos := (lines.getD []).foldl createDmaInfo dma.dmaInfos
    ({ dmaInfos := dmaInfos
       dmaMap := dmaInfos.entries.foldl addToDmaMap dma.dmaMap
       initialized := true }, lines.isSome)

/-- `DmaInfo::GetTotalDma`. -/
def getTotalDma (dma : DmaInfo) : UInt64 :=
  dma.dmaMap.entries.foldl (fun totalDma it => totalDma + it.2) 0

/-- `DmaInfo::GetDmaByPid`. -/
def getDmaByPid (dma : DmaInfo) (pid : Int32) : UInt64 :=
  (dma.dmaMap.lookup pid.toUInt32).getD 0

end DmaInfo

end HiDumper.Native
