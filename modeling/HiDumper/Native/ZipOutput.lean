import Mathlib
import HiDumper.ForStd.StreamCoding
import HiDumper.Native.Common

/-!
# The compressed output

Model of `executor/zip_output.cpp` and of the compressor behind it, `util/dump_compressor.cpp`.
A `std::string` and the filled part of a `CompressBuffer` are lists of bytes. zlib is a
parameter: the stream that `deflateInit2` opens, `compressBound` and whether `deflateInit2`
succeeds. `memcpy_s` and `memmove_s` fail on a destination of size zero and on one that is too
small; `memset_s` and `new` do not fail.

The descriptor that `FdToWrite` opens is an input, and so is what `write` accepts of each
buffer. `Execute` ignores what `CompressAndWriteToFd` and `CompressBigLine` return.
-/

namespace HiDumper.Native

/-- The functions of zlib that `DumpCompressor` calls. -/
structure ZLib where
  deflate : StreamEncoder UInt8 UInt8
  /-- `deflateInit2(...) == Z_OK`. -/
  deflateInit : Bool
  compressBound : Nat → Nat

/-- Whether `memcpy_s` and `memmove_s` give `EOK`. -/
def memcpyS (destMax count : Nat) : Bool := destMax ≠ 0 && count ≤ destMax

namespace DumpCompressor

/-- `MAX_COMPRESS_BUFFER_SIZE`. -/
def maxCompressBufferSize : Nat := 32 * 1024

/-- `CHUNK`. -/
def chunk : Nat := 16384

/-- `DumpCompressor::Init`: the size of `zData_`. -/
def init (zlib : ZLib) (srcBuffer : List UInt8) : Option Nat :=
  let bound := zlib.compressBound srcBuffer.length
  if bound = 0 then none
  else if zlib.deflateInit then some (if bound < chunk then chunk else bound)
  else none

/-- `DumpCompressor::FillBuffer`: whether `flush` is `Z_FINISH`, the input and `src_pos`. -/
def fillBuffer (srcBuffer : List UInt8) (srcPos : Nat) : Bool × List UInt8 × Nat :=
  if srcBuffer.length - srcPos < chunk then (true, srcBuffer.drop srcPos, srcBuffer.length)
  else (false, (srcBuffer.drop srcPos).take chunk, srcPos + chunk)

/-- `DumpCompressor::DeflateBuffer`: the stream and `zData_` up to `dstPos`. -/
def deflateBuffer (zlib : ZLib) (zDataSize : Nat) (flush : Bool) (zStream : zlib.deflate.State)
    (nextIn zData : List UInt8) : Option (zlib.deflate.State × List UInt8) :=
  match zlib.deflate.call zStream nextIn chunk flush with
  | none => none
  | some (zStream, nextIn, buffOut) =>
    if _hcopy : memcpyS (zDataSize - zData.length) buffOut.length then
      -- `avail_out == 0`
      if _hfull : buffOut.length = chunk then
        deflateBuffer zlib zDataSize flush zStream nextIn (zData ++ buffOut)
      else some (zStream, zData ++ buffOut)
    else none
termination_by zDataSize - zData.length
decreasing_by
  simp only [memcpyS, Bool.and_eq_true, decide_eq_true_eq] at _hcopy
  simp only [List.length_append, _hfull, chunk]
  omega

/-- The loop of `DumpCompressor::Compress`: `zData_` up to `dstPos`. -/
def compressLoop (zlib : ZLib) (zDataSize : Nat) (srcBuffer : List UInt8)
    (srcPos : Nat) (zStream : zlib.deflate.State) (zData : List UInt8) : Option (List UInt8) :=
  match deflateBuffer zlib zDataSize (fillBuffer srcBuffer srcPos).1 zStream
      (fillBuffer srcBuffer srcPos).2.1 zData with
  | none => none
  | some (zStream, zData) =>
    if _hflush : (fillBuffer srcBuffer srcPos).1 then some zData
    else compressLoop zlib zDataSize srcBuffer (fillBuffer srcBuffer srcPos).2.2 zStream zData
termination_by srcBuffer.length - srcPos
decreasing_by
  unfold fillBuffer at *
  split at _hflush
  · exact absurd rfl _hflush
  · rename_i hlength
    rw [if_neg hlength]
    simp only [chunk] at hlength ⊢
    omega

/-- `DumpCompressor::Compress`: the contents of the destination, `none` for `DUMP_FAIL`. -/
def compress (zlib : ZLib) (srcBuffer destBuffer : List UInt8) : Option (List UInt8) :=
  match init zlib srcBuffer with
  | none => none
  | some zDataSize =>
    match compressLoop zlib zDataSize srcBuffer 0 zlib.deflate.start [] with
    | none => none
    | some zData =>
      if memcpyS (maxCompressBufferSize - destBuffer.length) zData.length then
        some (destBuffer ++ zData)
      else none

end DumpCompressor

open DumpCompressor

/-- A `ZipOutput` with its file. -/
structure ZipOutputExecutor where
  mFilePath : String := ""
  srcBuffer : List UInt8 := []
  destBuffer : List UInt8 := []
  /-- Whether `fd_` is open. -/
  isOpen : Bool := false
  file : List UInt8 := []
  /-- How often `write` was called. -/
  writes : Nat := 0

/-- What a `ZipOutput` runs in. -/
structure ZipOutputEnv where
  zlib : ZLib
  /-- Whether `DumpUtils::FdToWrite` opens a file. -/
  fdToWrite : String → Bool
  /-- How many bytes a call of `write` accepts at most; `none` is a negative result. -/
  write : Nat → Option Nat

namespace ZipOutputExecutor

variable (env : ZipOutputEnv)

/-- `ZipOutput::ClearBuffer`. -/
def clearBuffer (z : ZipOutputExecutor) : ZipOutputExecutor :=
  { z with srcBuffer := [], destBuffer := [] }

/-- The call of `write` with the destination buffer. -/
def writeDest (z : ZipOutputExecutor) : DumpStatus × ZipOutputExecutor :=
  match env.write z.writes with
  | none => (.dumpFail, { z with writes := z.writes + 1 })
  | some n => (.dumpOk, { z with writes := z.writes + 1, file := z.file ++ z.destBuffer.take n })

/-- `ZipOutput::CompressAndWriteToFd`. -/
def compressAndWriteToFd (z : ZipOutputExecutor) : DumpStatus × ZipOutputExecutor :=
  if z.srcBuffer.length > 0 then
    match compress env.zlib z.srcBuffer z.destBuffer with
    | some destBuffer =>
      let (ret, z) := writeDest env { z with destBuffer := destBuffer }
      (ret, z.clearBuffer)
    | none => (.dumpFail, z.clearBuffer)
  else (.dumpOk, z)

/-- How much of a line the loop of `CompressBigLine` takes. -/
def processSize (z : ZipOutputExecutor) (remainSize : Nat) : Nat :=
  if z.srcBuffer.length + remainSize > maxCompressBufferSize then
    maxCompressBufferSize - z.srcBuffer.length
  else remainSize

/-- The loop of `ZipOutput::CompressBigLine`, and whether it has come to its end. -/
def bigLineLoop (remainSize : Nat) (content : List UInt8) (z : ZipOutputExecutor) :
    ZipOutputExecutor × Bool :=
  if remainSize > 0 then
    let size := z.processSize remainSize
    if _hcopy : memcpyS (maxCompressBufferSize - z.srcBuffer.length) size then
      bigLineLoop (remainSize - size) (content.drop size)
        (compressAndWriteToFd env { z with srcBuffer := z.srcBuffer ++ content.take size }).2
    else (z, false)
  else (z, true)
termination_by remainSize
decreasing_by
  simp only [memcpyS, Bool.and_eq_true, decide_eq_true_eq] at _hcopy
  unfold processSize at *
  split <;> omega

/-- `ZipOutput::CompressBigLine`. -/
def compressBigLine (content : List UInt8) (size : Nat) (z : ZipOutputExecutor) :
    DumpStatus × ZipOutputExecutor :=
  match bigLineLoop env (size - 1) content z with
  | (z, false) => (.dumpFail, z)
  | (z, true) =>
    (.dumpOk, (compressAndWriteToFd env { z with srcBuffer := z.srcBuffer ++ [10] }).2)

/-- The loop of `ZipOutput::Execute` and what follows it. The sizes are `uint16_t`. -/
def executeLines : List (List UInt8) → ZipOutputExecutor → DumpStatus × ZipOutputExecutor
  | [], z => (.dumpOk, (compressAndWriteToFd env z).2)
  | line :: lines, z =>
    let content := line.takeWhile (· ≠ 0)
    let contentSize := content.length % 2 ^ 16
    let size := (content.length + 1) % 2 ^ 16
    let z :=
      if z.srcBuffer.length + size > maxCompressBufferSize then (compressAndWriteToFd env z).2
      else z
    if size > maxCompressBufferSize then
      executeLines lines (compressBigLine env content size (compressAndWriteToFd env z).2).2
    else if memcpyS (maxCompressBufferSize - z.srcBuffer.length) contentSize then
      executeLines lines { z with srcBuffer := z.srcBuffer ++ content.take contentSize ++ [10] }
    else (.dumpFail, z)

/-- `ZipOutput::Execute`. -/
def execute (dumpDatas : List (List (List UInt8))) (z : ZipOutputExecutor) :
    DumpStatus × ZipOutputExecutor :=
  if z.isOpen then executeLines env (dumpDatas.map List.flatten) z
  else (.dumpFail, z)

/-- `ZipOutput::PreExecute` for the path of the parameter. -/
def preExecute (path : String) (z : ZipOutputExecutor) : DumpStatus × ZipOutputExecutor :=
  if z.mFilePath = "" then
    let z := { z.clearBuffer with mFilePath := path, isOpen := env.fdToWrite path }
    (if z.isOpen then .dumpOk else .dumpFail, z)
  else (.dumpOk, z)

end ZipOutputExecutor

end HiDumper.Native
