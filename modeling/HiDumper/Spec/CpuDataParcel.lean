import HiDumper.Native.DumpCpuData
import Mathlib.Algebra.Group.Nat.Defs

/-!
# Which parcels become a CPU dump

A parcel is read whole when the two times, the pid, the number of rows and as many rows
as that number says can be read. The number is the unsigned word that
`WriteStringMatrix` writes. `Unmarshalling` drops the result of `ReadStringMatrix`, so
it returns an object as soon as the header can be read, with the rows that were there.

## Key results

- `readRows_eq`: the loop of `ReadStringMatrix` against reading all rows
- `unmarshalling_eq`: `Unmarshalling` fails on the header only
- `unmarshalling_whole_iff`: the parcels of which no object is a part only
- `unmarshalling_marshallingTo`: what `Marshalling` writes is read back, up to its end
-/

namespace HiDumper.Spec

open HiDumper.Native DumpCpuData

variable {Parcel : Type} (reader : ParcelReader Parcel)

/-- The two times and the pid. -/
def readHeader (parcel : Parcel) : Option (DumpCpuData × Parcel) := do
  let (startTime, parcel) ← reader.readString parcel
  let (endTime, parcel) ← reader.readString parcel
  let (cpuUsagePid, parcel) ← reader.readInt32 parcel
  some ({ startTime := startTime, endTime := endTime, cpuUsagePid := cpuUsagePid.toInt }, parcel)

/-- A number of rows, all or none of them. -/
def readAllRows : Nat → Parcel → Option (List (List String) × Parcel)
  | 0, parcel => some ([], parcel)
  | n + 1, parcel => do
    let (row, parcel) ← reader.readStringVector parcel
    let (rows, parcel) ← readAllRows n parcel
    some (row :: rows, parcel)

/-- The times, the pid, the number of rows and all rows it declares. -/
def readWhole (parcel : Parcel) : Option DumpCpuData := do
  let (info, parcel) ← readHeader reader parcel
  let (count, parcel) ← reader.readInt32 parcel
  let (rows, _) ← readAllRows reader count.toNat parcel
  some { info with dumpCPUDatas := rows }

variable {reader}

/-- As many rows are read as were asked for. -/
private theorem length_of_readAllRows {n : Nat} {parcel rest : Parcel} {rows : List (List String)}
    (h : readAllRows reader n parcel = some (rows, rest)) : rows.length = n := by
  induction n generalizing parcel rows with
  | zero =>
    simp only [readAllRows, Option.some.injEq, Prod.mk.injEq] at h
    rw [← h.1, List.length_nil]
  | succ n ih =>
    simp only [readAllRows, Option.bind_eq_bind, Option.bind_eq_some_iff, Option.some.injEq,
      Prod.mk.injEq] at h
    obtain ⟨⟨row, afterRow⟩, -, ⟨rows', rest'⟩, hrows, rfl, rfl⟩ := h
    rw [List.length_cons, ih hrows]

/-- When all rows can be read, the loop appends them. -/
theorem readRows_eq {n : Nat} {parcel rest : Parcel} {rows : List (List String)}
    (h : readAllRows reader n parcel = some (rows, rest)) (martrixVec : List (List String)) :
    readRows reader n martrixVec parcel = (true, martrixVec ++ rows, rest) := by
  induction n generalizing parcel rows martrixVec with
  | zero =>
    simp only [readAllRows, Option.some.injEq, Prod.mk.injEq] at h
    obtain ⟨rfl, rfl⟩ := h
    rw [readRows, List.append_nil]
  | succ n ih =>
    simp only [readAllRows, Option.bind_eq_bind, Option.bind_eq_some_iff, Option.some.injEq,
      Prod.mk.injEq] at h
    obtain ⟨⟨row, afterRow⟩, hrow, ⟨rows', rest'⟩, hrows, rfl, rfl⟩ := h
    simp only [readRows, hrow]
    rw [ih hrows, List.append_assoc, List.singleton_append]

/-- `Unmarshalling` fails when the header cannot be read, and in no other case. -/
theorem unmarshalling_eq (parcel : Parcel) :
    unmarshalling reader parcel = (readHeader reader parcel).map fun read =>
      { read.1 with dumpCPUDatas := (readStringMatrix reader [] read.2).2.1 } := by
  rcases hstart : reader.readString parcel with _ | ⟨startTime, afterStart⟩
  · simp [unmarshalling, readFromParcel, readHeader, hstart]
  rcases hend : reader.readString afterStart with _ | ⟨endTime, afterEnd⟩
  · simp [unmarshalling, readFromParcel, readHeader, hstart, hend]
  rcases hpid : reader.readInt32 afterEnd with _ | ⟨cpuUsagePid, afterPid⟩
  · simp [unmarshalling, readFromParcel, readHeader, hstart, hend, hpid]
  · simp [unmarshalling, readFromParcel, readHeader, hstart, hend, hpid]

/-- A count word from `2 ^ 31` on is negative as an `int`, so no row is read. -/
private theorem toInt_toNat_of_le {count : BitVec 32} (h : 2 ^ 31 ≤ count.toNat) :
    count.toInt.toNat = 0 := by
  rw [BitVec.toInt_eq_toNat_cond]
  split <;> omega

/-- Below `2 ^ 31` a word is the same number with a sign and without. -/
private theorem toInt_toNat_of_lt {count : BitVec 32} (h : count.toNat < 2 ^ 31) :
    count.toInt.toNat = count.toNat := by
  rw [BitVec.toInt_eq_toNat_cond]
  split <;> omega

/-- An `int` is at most `INT_MAX`, so the check of the source lets every size through. -/
private theorem readStringMatrix_eq {parcel rest : Parcel} {count : BitVec 32}
    (h : reader.readInt32 parcel = some (count, rest)) (martrixVec : List (List String)) :
    readStringMatrix reader martrixVec parcel = readRows reader count.toInt.toNat [] rest := by
  have hle : ¬count.toInt > cpuDataIntMax := by
    have := BitVec.toInt_lt (x := count)
    simp only [cpuDataIntMax]
    omega
  simp only [readStringMatrix, h, if_neg hle]

/-- `Unmarshalling` returns no object that has a part of the declared rows only, if and
    only if the header cannot be read or the number of rows fits an `int` and all of them
    can be read. -/
theorem unmarshalling_whole_iff (reader : ParcelReader Parcel) (parcel : Parcel) :
    (∀ info, unmarshalling reader parcel = some info → readWhole reader parcel = some info) ↔
      readHeader reader parcel = none ∨
        ∃ header afterHeader count afterCount,
          readHeader reader parcel = some (header, afterHeader) ∧
          reader.readInt32 afterHeader = some (count, afterCount) ∧
          count.toNat < 2 ^ 31 ∧ (readAllRows reader count.toNat afterCount).isSome = true := by
  rw [unmarshalling_eq]
  rcases hheader : readHeader reader parcel with _ | ⟨header, afterHeader⟩
  · simp
  constructor
  · -- The header is there, so the code returns an object, which must be the whole dump.
    intro hwhole
    have hread := hwhole _ rfl
    simp only [readWhole, hheader, Option.bind_eq_bind, Option.bind_some,
      Option.bind_eq_some_iff, Option.some.injEq, DumpCpuData.mk.injEq, true_and] at hread
    obtain ⟨⟨count, afterCount⟩, hcount, ⟨rows, rest⟩, hrows, hmatrix⟩ := hread
    refine Or.inr ⟨header, afterHeader, count, afterCount, rfl, hcount, ?_, by simp [hrows]⟩
    -- From `2 ^ 31` on the matrix is empty, but the rows are not.
    by_contra hlarge
    rw [Nat.not_lt] at hlarge
    rw [readStringMatrix_eq hcount, toInt_toNat_of_le hlarge, readRows] at hmatrix
    have hlength : rows.length = count.toNat := length_of_readAllRows hrows
    rw [show rows = [] from hmatrix, List.length_nil] at hlength
    omega
  · rintro (hnone | ⟨header', afterHeader', count, afterCount, hsome, hcount, hlt, hrows⟩)
    · exact nomatch hnone
    rw [Option.some.injEq, Prod.mk.injEq] at hsome
    obtain ⟨rfl, rfl⟩ := hsome
    obtain ⟨⟨rows, rest⟩, hrows⟩ := Option.isSome_iff_exists.mp hrows
    intro info hinfo
    rw [Option.map_some, Option.some.injEq] at hinfo
    subst hinfo
    rw [readStringMatrix_eq hcount, toInt_toNat_of_lt hlt, readRows_eq hrows]
    simp [readWhole, hheader, hcount, hrows]

/-- Two rows are declared and one is there: the object has the one row. -/
theorem unmarshalling_truncated :
    ¬∀ info, unmarshalling itemReader
        [.string "0", .string "1", .word 100, .word 2, .stringVector ["cpu"]] = some info →
      readWhole itemReader
        [.string "0", .string "1", .word 100, .word 2, .stringVector ["cpu"]] = some info := by
  intro h
  have hinfo := h ⟨"0", "1", 100, [["cpu"]]⟩ (by decide)
  exact absurd hinfo (by decide)

/-! ## Round trip -/

/-- The write and read primitives of the parcel are inverse: a write succeeds, and the
    read that goes with it gives the value back and stops where the written data ends.
    A word has the same form whether it was written as signed or as unsigned. -/
structure ReadsBack {α : Type} (writer : ParcelWriter α) (reader : ParcelReader (List α)) :
    Prop where
  string : ∀ value, ∃ data, writer.writeString value = some data ∧
    ∀ rest, reader.readString (data ++ rest) = some (value, rest)
  int32 : ∀ value, ∃ data, writer.writeInt32 value = some data ∧
    ∀ rest, reader.readInt32 (data ++ rest) = some (value, rest)
  uint32 : ∀ value, ∃ data, writer.writeUint32 value = some data ∧
    ∀ rest, reader.readInt32 (data ++ rest) = some (value, rest)
  stringVector : ∀ value, ∃ data, writer.writeStringVector value = some data ∧
    ∀ rest, reader.readStringVector (data ++ rest) = some (value, rest)

/-- Items are read as they were written. -/
private theorem readsBack_item : ReadsBack itemWriter itemReader where
  string _ := ⟨_, rfl, fun _ => rfl⟩
  int32 _ := ⟨_, rfl, fun _ => rfl⟩
  uint32 _ := ⟨_, rfl, fun _ => rfl⟩
  stringVector _ := ⟨_, rfl, fun _ => rfl⟩

section RoundTrip

variable {α : Type} {writer : ParcelWriter α} {reader : ParcelReader (List α)}

/-- Rows that were written are read back, and what follows them is left. -/
private theorem readAllRows_writeRows (hback : ReadsBack writer reader)
    (rows : List (List String)) :
    ∃ data, writeRows writer rows = some data ∧
      ∀ rest, readAllRows reader rows.length (data ++ rest) = some (rows, rest) := by
  induction rows with
  | nil => exact ⟨[], rfl, fun _ => rfl⟩
  | cons row rows ih =>
    obtain ⟨rowData, hrow, hreadRow⟩ := hback.stringVector row
    obtain ⟨rowsData, hrows, hreadRows⟩ := ih
    refine ⟨rowData ++ rowsData, by simp [writeRows, hrow, hrows], fun rest => ?_⟩
    rw [List.append_assoc, List.length_cons]
    simp [readAllRows, hreadRow, hreadRows]

/-- The matrix is read whole while its size fits an `int`. -/
private theorem readStringMatrix_writeStringMatrixTo (hback : ReadsBack writer reader)
    {martrixVec : List (List String)} (hrows : martrixVec.length < 2 ^ 31) :
    ∃ data, writeStringMatrixTo writer martrixVec = some data ∧
      ∀ before rest, readStringMatrix reader before (data ++ rest) = (true, martrixVec, rest) := by
  obtain ⟨sizeData, hsize, hreadSize⟩ := hback.uint32 (BitVec.ofNat 32 martrixVec.length)
  obtain ⟨rowsData, hrowsData, hreadRows⟩ := readAllRows_writeRows hback martrixVec
  refine ⟨sizeData ++ rowsData, by simp [writeStringMatrixTo, hsize, hrowsData],
    fun before rest => ?_⟩
  -- The word written unsigned is read signed: below `2 ^ 31` both are the size.
  have hcount : (BitVec.ofNat 32 martrixVec.length).toNat = martrixVec.length := by
    rw [BitVec.toNat_ofNat]
    omega
  rw [List.append_assoc, readStringMatrix_eq (hreadSize _), toInt_toNat_of_lt (by omega), hcount,
    readRows_eq (hreadRows rest), List.nil_append]

private theorem readFromParcel_marshallingTo (hback : ReadsBack writer reader) {info : DumpCpuData}
    (hpid : (BitVec.ofInt 32 info.cpuUsagePid).toInt = info.cpuUsagePid)
    (hrows : info.dumpCPUDatas.length < 2 ^ 31) :
    ∃ data, marshallingTo writer info = some data ∧
      ∀ before rest, readFromParcel reader before (data ++ rest) = (true, info, rest) := by
  obtain ⟨startData, hstart, hreadStart⟩ := hback.string info.startTime
  obtain ⟨endData, hend, hreadEnd⟩ := hback.string info.endTime
  obtain ⟨pidData, hpidData, hreadPid⟩ := hback.int32 (BitVec.ofInt 32 info.cpuUsagePid)
  obtain ⟨matrixData, hmatrix, hreadMatrix⟩ := readStringMatrix_writeStringMatrixTo hback hrows
  refine ⟨startData ++ (endData ++ (pidData ++ matrixData)),
    by simp [marshallingTo, hstart, hend, hpidData, hmatrix], fun before rest => ?_⟩
  simp only [List.append_assoc, readFromParcel, hreadStart, hreadEnd, hreadPid, hreadMatrix, hpid]

/-- Over primitives that are inverse `Marshalling` succeeds, and wherever the written data
    stands, `Unmarshalling` gives an equal object and leaves what follows the data unread.
    The pid is an `int`, and the rows are at most `INT_MAX`. -/
theorem unmarshalling_marshallingTo (writer : ParcelWriter α) (reader : ParcelReader (List α))
    (hback : ReadsBack writer reader) (info : DumpCpuData)
    (hpid : -2 ^ 31 ≤ info.cpuUsagePid ∧ info.cpuUsagePid < 2 ^ 31)
    (hrows : (info.dumpCPUDatas.length : Int) ≤ cpuDataIntMax) :
    ∃ data, marshallingTo writer info = some data ∧
      ∀ rest, unmarshalling reader (data ++ rest) = some info ∧
        (readFromParcel reader {} (data ++ rest)).2.2 = rest := by
  have hword : (BitVec.ofInt 32 info.cpuUsagePid).toInt = info.cpuUsagePid := by
    rw [BitVec.toInt_ofInt]
    exact Int.bmod_eq_of_le (by omega) (by omega)
  have hlength : info.dumpCPUDatas.length < 2 ^ 31 := by
    simp only [cpuDataIntMax] at hrows
    omega
  obtain ⟨data, hdata, hread⟩ := readFromParcel_marshallingTo hback hword hlength
  refine ⟨data, hdata, fun rest => ?_⟩
  simp [unmarshalling, hread]

end RoundTrip

/-- A dump with an empty row and an empty cell, with more data after it. -/
theorem unmarshalling_marshallingTo_emptyCells :
    ∃ data, marshallingTo itemWriter ⟨"0", "1", -1, [[], ["cpu", ""]]⟩ = some data ∧
      ∀ rest, unmarshalling itemReader (data ++ rest) = some ⟨"0", "1", -1, [[], ["cpu", ""]]⟩ ∧
        (readFromParcel itemReader {} (data ++ rest)).2.2 = rest :=
  unmarshalling_marshallingTo itemWriter itemReader readsBack_item
    ⟨"0", "1", -1, [[], ["cpu", ""]]⟩ (by decide) (by decide)

end HiDumper.Spec
