import Mathlib.Data.List.Basic
import Mathlib.Algebra.Group.Int.Defs

/-!
# DumpCpuData: the parcel of a CPU dump

Model of `services/native/src/dump_cpu_data.cpp`. `Parcel` belongs to another
repository: a parcel is any type with the read primitives of `ParcelReader`, which fail
without effect when the data they want is missing. A 32-bit word is a `BitVec`, read as
signed or as unsigned by whoever reads it. `new (std::nothrow)` always succeeds here.
-/

namespace HiDumper.Native

/-- The read primitives of `Parcel` that `DumpCpuData` uses: the value and the rest of
    the parcel, or `none`. -/
structure ParcelReader (Parcel : Type) where
  readString : Parcel → Option (String × Parcel)
  readInt32 : Parcel → Option (BitVec 32 × Parcel)
  readStringVector : Parcel → Option (List String × Parcel)

/-- `DumpCpuData` with the values of its default constructor. -/
structure DumpCpuData where
  startTime : String := ""
  endTime : String := ""
  cpuUsagePid : Int := -1
  dumpCPUDatas : List (List String) := []
  deriving DecidableEq, Repr

/-- `INT_MAX`. -/
def cpuDataIntMax : Int := 2 ^ 31 - 1

namespace DumpCpuData

variable {Parcel : Type} (reader : ParcelReader Parcel)

/-- The loop of `DumpCpuData::ReadStringMatrix` with the rounds that are left. A row that
    cannot be read ends it; the rows before stay in the matrix. -/
def readRows : Nat → List (List String) → Parcel → Bool × List (List String) × Parcel
  | 0, martrixVec, data => (true, martrixVec, data)
  | rounds + 1, martrixVec, data =>
    match reader.readStringVector data with
    | none => (false, martrixVec, data)
    | some (vec, data) => readRows rounds (martrixVec ++ [vec]) data

/-- `DumpCpuData::ReadStringMatrix`. The word is read as an `int`, so the comparison with
    `INT_MAX` never holds and a negative size makes no rounds. -/
def readStringMatrix (martrixVec : List (List String)) (data : Parcel) :
    Bool × List (List String) × Parcel :=
  match reader.readInt32 data with
  | none => (false, martrixVec, data)
  | some (size, data) =>
    if size.toInt > cpuDataIntMax then (false, martrixVec, data)
    else readRows reader size.toInt.toNat [] data

/-- `DumpCpuData::ReadFromParcel`. The result of `ReadStringMatrix` is not looked at. -/
def readFromParcel (info : DumpCpuData) (parcel : Parcel) : Bool × DumpCpuData × Parcel :=
  match reader.readString parcel with
  | none => (false, info, parcel)
  | some (startTime, parcel) =>
    let info := { info with startTime := startTime }
    match reader.readString parcel with
    | none => (false, info, parcel)
    | some (endTime, parcel) =>
      let info := { info with endTime := endTime }
      match reader.readInt32 parcel with
      | none => (false, info, parcel)
      | some (cpuUsagePid, parcel) =>
        let info := { info with cpuUsagePid := cpuUsagePid.toInt }
        let matrix := readStringMatrix reader info.dumpCPUDatas parcel
        (true, { info with dumpCPUDatas := matrix.2.1 }, matrix.2.2)

/-- `DumpCpuData::Unmarshalling`: the object, or `none` for `nullptr`. -/
def unmarshalling (parcel : Parcel) : Option DumpCpuData :=
  let read := readFromParcel reader {} parcel
  if !read.1 then none else some read.2.1

end DumpCpuData

/-! ## Writing

What a write appends to the parcel is a list over the unit that the parcel is made of. -/

/-- The write primitives of `Parcel` that `DumpCpuData` uses: what the write appends, or
    `none` when it fails. -/
structure ParcelWriter (α : Type) where
  writeString : String → Option (List α)
  writeInt32 : BitVec 32 → Option (List α)
  writeUint32 : BitVec 32 → Option (List α)
  writeStringVector : List String → Option (List α)

namespace DumpCpuData

variable {α : Type} (writer : ParcelWriter α)

/-- The loop of `DumpCpuData::WriteStringMatrix`. -/
def writeRows : List (List String) → Option (List α)
  | [] => some []
  | parcelable :: martrixVec => do
    let row ← writer.writeStringVector parcelable
    let rows ← writeRows martrixVec
    some (row ++ rows)

/-- `DumpCpuData::WriteStringMatrix`: the size goes out with `WriteUint32`, cut to 32
    bits. -/
def writeStringMatrixTo (martrixVec : List (List String)) : Option (List α) := do
  let size ← writer.writeUint32 (BitVec.ofNat 32 martrixVec.length)
  let rows ← writeRows writer martrixVec
  some (size ++ rows)

/-- `DumpCpuData::Marshalling`; `none` where it returns `false`. -/
def marshallingTo (info : DumpCpuData) : Option (List α) := do
  let startTime ← writer.writeString info.startTime
  let endTime ← writer.writeString info.endTime
  let cpuUsagePid ← writer.writeInt32 (BitVec.ofInt 32 info.cpuUsagePid)
  let dumpCPUDatas ← writeStringMatrixTo writer info.dumpCPUDatas
  some (startTime ++ (endTime ++ (cpuUsagePid ++ dumpCPUDatas)))

end DumpCpuData

/-! ## A parcel as the sequence of what was written -/

/-- What one write puts into a parcel. -/
inductive ParcelItem where
  | string (value : String)
  | word (value : BitVec 32)
  | stringVector (value : List String)
  deriving DecidableEq, Repr

/-- Reads give back the items in the order they were written. -/
def itemReader : ParcelReader (List ParcelItem) where
  readString
    | .string value :: rest => some (value, rest)
    | _ => none
  readInt32
    | .word value :: rest => some (value, rest)
    | _ => none
  readStringVector
    | .stringVector value :: rest => some (value, rest)
    | _ => none

/-- Every write appends one item. Both integer writes put the same word there. -/
def itemWriter : ParcelWriter ParcelItem where
  writeString value := some [.string value]
  writeInt32 value := some [.word value]
  writeUint32 value := some [.word value]
  writeStringVector value := some [.stringVector value]

end HiDumper.Native
