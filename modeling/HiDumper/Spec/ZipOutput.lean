import HiDumper.Native.ZipOutput

/-!
# What is in the compressed output

The compressor feeds one buffer to zlib in pieces and collects the pieces of the result. The
output fills its buffer with whole lines, cuts only a line that is longer than the buffer, and
writes one compressed stream after the other. So the file decompresses to the lines, except
for the buffers that are lost on the way, without a word: those whose stream outgrows `zData_`,
which has the size that `compressBound` gives for streams with a shorter header, or the
destination buffer.

## Key results

- `isSome_compress_iff`: which buffers `Compress` loses
- `compress_decodes`: what `Compress` gives decompresses to the source
- `session_decodes`: the file after any number of `Execute` calls
-/

namespace HiDumper.Spec

open HiDumper.Native HiDumper.Native.DumpCompressor
open StreamEncoder (DecodesTo)

namespace ZipOutputs

/-! ## The compressor -/

section Compressor

variable {zlib : ZLib} {decode : List UInt8 → Option (List UInt8)}

/-- A buffer of some size, partly used, takes the outputs one after the other: they fit, and the
    buffer is not full before the last one, be that empty. -/
def HasRoom (size used : Nat) (outs : List (List UInt8)) : Prop :=
  used + outs.dropLast.flatten.length < size ∧ used + outs.flatten.length ≤ size

private theorem memcpyS_iff {size used count : Nat} :
    memcpyS (size - used) count = true ↔ used < size ∧ used + count ≤ size := by
  simp only [memcpyS, Bool.and_eq_true, decide_eq_true_eq]
  omega

/-- For one output there is room if `memcpy_s` takes it. -/
private theorem hasRoom_singleton {size used : Nat} {out : List UInt8} :
    HasRoom size used [out] ↔ memcpyS (size - used) out.length = true := by
  rw [memcpyS_iff]
  simp [HasRoom]

/-- Outputs behind others need the room that is left. -/
private theorem hasRoom_append {size used : Nat} {outs outs' : List (List UInt8)}
    (hne : outs' ≠ []) :
    HasRoom size used (outs ++ outs') ↔ HasRoom size (used + outs.flatten.length) outs' := by
  rw [HasRoom, HasRoom, List.dropLast_append_of_ne_nil hne, List.flatten_append,
    List.flatten_append, List.length_append, List.length_append, Nat.add_assoc, Nat.add_assoc]

private theorem hasRoom_cons {size used : Nat} {out : List UInt8} {outs : List (List UInt8)}
    (hne : outs ≠ []) :
    HasRoom size used (out :: outs) ↔ HasRoom size (used + out.length) outs := by
  have happend : HasRoom size used ([out] ++ outs) ↔
      HasRoom size (used + [out].flatten.length) outs := hasRoom_append hne
  rwa [List.flatten_singleton] at happend

private theorem HasRoom.used_lt {size used : Nat} {outs : List (List UInt8)}
    (h : HasRoom size used outs) : used < size := by
  have hlt := h.1
  omega

/-- The outputs in front of others have room when all have. -/
theorem HasRoom.of_append {size used : Nat} {outs outs' : List (List UInt8)} (hne : outs' ≠ [])
    (h : HasRoom size used (outs ++ outs')) : HasRoom size used outs := by
  have hlt := ((hasRoom_append hne).mp h).used_lt
  have hle : outs.dropLast.flatten.length ≤ outs.flatten.length :=
    ((List.dropLast_prefix outs).sublist.flatten).length_le
  exact ⟨by omega, by omega⟩

/-- `DeflateBuffer` calls `deflate` until it leaves space over, and succeeds when `zData_` has
    room for what comes. -/
private theorem deflateBuffer_eq_some_iff {zDataSize : Nat} {flush : Bool}
    {zStream zStream' : zlib.deflate.State} {nextIn zData zData' : List UInt8} :
    deflateBuffer zlib zDataSize flush zStream nextIn zData = some (zStream', zData') ↔
      ∃ outs, zlib.deflate.Drains chunk flush zStream nextIn zStream' outs ∧
        HasRoom zDataSize zData.length outs ∧ zData' = zData ++ outs.flatten := by
  constructor
  · intro hrun
    fun_induction deflateBuffer zlib zDataSize flush zStream nextIn zData with
    | case1 => exact absurd hrun (by simp)
    -- A full buffer is copied, and the call is repeated.
    | case2 zStream nextIn zData s rest buffOut hcall hcopy hfull ih =>
      obtain ⟨outs, hdrains, hroom, rfl⟩ := ih hrun
      refine ⟨buffOut :: outs, .next hcall hfull hdrains, ?_, by simp⟩
      rw [hasRoom_cons hdrains.ne_nil]
      rwa [List.length_append] at hroom
    -- Space is left in the buffer: the last call of the round.
    | case3 zStream nextIn zData s rest buffOut hcall hcopy hfull =>
      obtain ⟨rfl, rfl⟩ := Prod.mk.inj (Option.some.inj hrun)
      exact ⟨[buffOut], .last hcall hfull, hasRoom_singleton.mpr hcopy, by simp⟩
    | case4 => exact absurd hrun (by simp)
  · rintro ⟨outs, hdrains, hroom, rfl⟩
    induction hdrains generalizing zData with
    | last hcall hspace =>
      rw [hasRoom_singleton] at hroom
      rw [deflateBuffer, hcall]
      simp only [hroom, hspace, dite_true, dite_false, List.flatten_singleton]
    | @next s s₁ s' piece rest more outs hcall hspace hdrains ih =>
      rw [hasRoom_cons hdrains.ne_nil] at hroom
      -- The rest of the stream is not empty, so this copy leaves room behind it.
      have hcopy : memcpyS (zDataSize - zData.length) more.length = true :=
        memcpyS_iff.mpr ⟨by have := hroom.used_lt; omega, hroom.used_lt.le⟩
      rw [hspace] at hcopy
      rw [deflateBuffer, hcall]
      simp only [hspace, hcopy, dite_true]
      rw [ih (by rwa [List.length_append]), List.flatten_cons, List.append_assoc]

private theorem fillBuffer_last {src : List UInt8} {srcPos : Nat}
    (h : (src.drop srcPos).length < chunk) :
    fillBuffer src srcPos = (true, src.drop srcPos, src.length) := by
  rw [List.length_drop] at h
  rw [fillBuffer, if_pos h]

private theorem fillBuffer_piece {src : List UInt8} {srcPos : Nat}
    (h : ¬(src.drop srcPos).length < chunk) :
    fillBuffer src srcPos = (false, (src.drop srcPos).take chunk, srcPos + chunk) := by
  rw [List.length_drop] at h
  rw [fillBuffer, if_neg h]

/-- One round of `Compress`. -/
private theorem compressLoop_round {src nextIn zData : List UInt8} {srcPos srcPos' zDataSize : Nat}
    {flush : Bool} {zStream : zlib.deflate.State}
    (hfill : fillBuffer src srcPos = (flush, nextIn, srcPos')) :
    compressLoop zlib zDataSize src srcPos zStream zData =
      (deflateBuffer zlib zDataSize flush zStream nextIn zData).bind fun round =>
        if flush then some round.2
        else compressLoop zlib zDataSize src srcPos' round.1 round.2 := by
  rw [compressLoop]
  simp only [hfill]
  cases deflateBuffer zlib zDataSize flush zStream nextIn zData with
  | none => rw [Option.bind_none]
  | some round => cases flush <;> rw [Option.bind_some] <;> rfl

/-- The rounds of `Compress` give the source to `deflate` from front to back. -/
private theorem compressLoop_eq_some_iff {zDataSize : Nat} {src zData result : List UInt8}
    {srcPos : Nat}
    {zStream : zlib.deflate.State} :
    compressLoop zlib zDataSize src srcPos zStream zData = some result ↔
      ∃ outs, zlib.deflate.Encodes chunk chunk zStream (src.drop srcPos) outs ∧
        HasRoom zDataSize zData.length outs ∧ result = zData ++ outs.flatten := by
  induction hleft : src.length - srcPos using Nat.strongRecOn
    generalizing srcPos zStream zData with
  | _ left ih =>
    -- By the bytes that are left: a round takes `chunk` of them, or what is less and ends.
    by_cases hlast : (src.drop srcPos).length < chunk
    · rw [compressLoop_round (fillBuffer_last hlast), Option.bind_eq_some_iff]
      simp only [if_true, Option.some.injEq]
      constructor
      · rintro ⟨⟨zStream', zData'⟩, hround, rfl⟩
        obtain ⟨outs, hdrains, hroom, rfl⟩ := deflateBuffer_eq_some_iff.mp hround
        exact ⟨outs, .last hlast hdrains, hroom, rfl⟩
      · rintro ⟨outs, hencodes, hroom, rfl⟩
        cases hencodes with
        | last _ hdrains =>
          exact ⟨_, deflateBuffer_eq_some_iff.mpr ⟨outs, hdrains, hroom, rfl⟩, rfl⟩
        | piece hmore => exact absurd hlast hmore
    · have hless : src.length - (srcPos + chunk) < left := by
        rw [List.length_drop] at hlast
        simp only [chunk] at hlast ⊢
        omega
      rw [compressLoop_round (fillBuffer_piece hlast), Option.bind_eq_some_iff]
      simp only [Bool.false_eq_true, if_false]
      constructor
      · rintro ⟨⟨zStream', zData'⟩, hround, hrest⟩
        obtain ⟨outs, hdrains, hroom, rfl⟩ := deflateBuffer_eq_some_iff.mp hround
        obtain ⟨outs', hencodes, hroom', rfl⟩ := (ih _ hless rfl).mp hrest
        rw [← List.drop_drop] at hencodes
        refine ⟨outs ++ outs', .piece hlast hdrains hencodes, ?_, by simp⟩
        rw [hasRoom_append hencodes.ne_nil]
        rwa [List.length_append] at hroom'
      · rintro ⟨outs, hencodes, hroom, rfl⟩
        cases hencodes with
        | last hshort => exact absurd hshort hlast
        | @piece _ zStream' _ outs outs' _ hdrains hencodes =>
          have hround := deflateBuffer_eq_some_iff.mpr
            ⟨outs, hdrains, hroom.of_append hencodes.ne_nil, rfl⟩
          rw [hasRoom_append hencodes.ne_nil] at hroom
          rw [List.drop_drop] at hencodes
          refine ⟨_, hround, (ih _ hless rfl).mpr ⟨outs', hencodes, ?_, ?_⟩⟩
          · rwa [List.length_append]
          · rw [List.flatten_append, List.append_assoc]

/-- What zlib makes of a buffer, and that it gets through `zData_` to the destination. -/
structure StreamFits (zlib : ZLib) (c : List UInt8) : Prop where
  compressBound : zlib.compressBound c.length ≠ 0
  deflateInit : zlib.deflateInit = true
  stream : ∃ outs, zlib.deflate.Encodes chunk chunk zlib.deflate.start c outs ∧
    HasRoom (max chunk (zlib.compressBound c.length)) 0 outs ∧
    outs.flatten.length ≤ maxCompressBufferSize

/-- When the compressor starts, and how large `zData_` is then. -/
private theorem init_eq_some_iff {src : List UInt8} {zDataSize : Nat} :
    init zlib src = some zDataSize ↔ zlib.compressBound src.length ≠ 0 ∧
      zlib.deflateInit = true ∧ zDataSize = max chunk (zlib.compressBound src.length) := by
  have hmax : (if zlib.compressBound src.length < chunk then chunk
      else zlib.compressBound src.length) = max chunk (zlib.compressBound src.length) := by
    split <;> omega
  rw [init, hmax]
  by_cases hbound : zlib.compressBound src.length = 0
  · simp [hbound]
  · by_cases hinit : zlib.deflateInit = true
    · simp [hbound, hinit, eq_comm]
    · simp [hbound, hinit]

/-- What `Compress` puts into an empty destination. -/
private theorem compress_eq_some_iff {src dest : List UInt8} :
    compress zlib src [] = some dest ↔ zlib.compressBound src.length ≠ 0 ∧
      zlib.deflateInit = true ∧ ∃ outs,
        zlib.deflate.Encodes chunk chunk zlib.deflate.start src outs ∧
        HasRoom (max chunk (zlib.compressBound src.length)) 0 outs ∧
        outs.flatten.length ≤ maxCompressBufferSize ∧ dest = outs.flatten := by
  -- The destination buffer is empty, so the last copy checks the length only.
  have hcopy : ∀ zData : List UInt8,
      memcpyS (maxCompressBufferSize - ([] : List UInt8).length) zData.length = true ↔
        zData.length ≤ maxCompressBufferSize := by
    intro zData
    simp [memcpyS, maxCompressBufferSize]
  have hloop : ∀ zDataSize result, compressLoop zlib zDataSize src 0 zlib.deflate.start [] =
      some result ↔ ∃ outs, zlib.deflate.Encodes chunk chunk zlib.deflate.start src outs ∧
        HasRoom zDataSize 0 outs ∧ result = outs.flatten := by
    intro zDataSize result
    rw [compressLoop_eq_some_iff]
    rfl
  unfold compress
  constructor
  · intro hrun
    split at hrun
    · exact absurd hrun (by simp)
    · rename_i zDataSize hinit
      obtain ⟨hbound, hdeflate, rfl⟩ := init_eq_some_iff.mp hinit
      split at hrun
      · exact absurd hrun (by simp)
      · rename_i zData hrounds
        obtain ⟨outs, hencodes, hroom, rfl⟩ := (hloop _ _).mp hrounds
        split at hrun
        · rename_i hfits
          exact ⟨hbound, hdeflate, outs, hencodes, hroom, (hcopy _).mp hfits,
            (Option.some.inj hrun).symm⟩
        · exact absurd hrun (by simp)
  · rintro ⟨hbound, hdeflate, outs, hencodes, hroom, hlength, rfl⟩
    simp only [init_eq_some_iff.mpr ⟨hbound, hdeflate, rfl⟩,
      (hloop _ _).mpr ⟨outs, hencodes, hroom, rfl⟩, (hcopy _).mpr hlength, if_true,
      List.nil_append]

/-- `Compress` loses a buffer just when its stream does not get through. -/
theorem isSome_compress_iff (zlib : ZLib) (c : List UInt8) :
    (compress zlib c []).isSome = true ↔ StreamFits zlib c := by
  rw [Option.isSome_iff_exists]
  constructor
  · rintro ⟨dest, hrun⟩
    obtain ⟨hbound, hdeflate, outs, hencodes, hroom, hlength, -⟩ := compress_eq_some_iff.mp hrun
    exact ⟨hbound, hdeflate, outs, hencodes, hroom, hlength⟩
  · rintro ⟨hbound, hdeflate, outs, hencodes, hroom, hlength⟩
    exact ⟨_, compress_eq_some_iff.mpr ⟨hbound, hdeflate, outs, hencodes, hroom, hlength, rfl⟩⟩

instance decidableStreamFits (zlib : ZLib) : DecidablePred (StreamFits zlib) :=
  fun c => decidable_of_iff _ (isSome_compress_iff zlib c)

/-- What `Compress` puts into an empty destination decompresses to the source. -/
theorem compress_decodes (h : zlib.deflate.Lawful decode) {src dest : List UInt8}
    (hrun : compress zlib src [] = some dest) :
    dest.length ≤ maxCompressBufferSize ∧ DecodesTo decode dest src := by
  obtain ⟨-, -, outs, hencodes, -, hlength, rfl⟩ := compress_eq_some_iff.mp hrun
  exact ⟨hlength, hencodes.decodesTo h⟩

end Compressor

/-! ## The buffers that are written -/

variable {env : ZipOutputEnv}

/-- Compress a buffer and write it. -/
def writeChunk (env : ZipOutputEnv) (z : ZipOutputExecutor) (c : List UInt8) : ZipOutputExecutor :=
  (ZipOutputExecutor.compressAndWriteToFd env { z with srcBuffer := c, destBuffer := [] }).2

/-- The buffers are clear. -/
def Clear (z : ZipOutputExecutor) : Prop := z.srcBuffer = [] ∧ z.destBuffer = []

/-- A buffer that can be filled. -/
def Fillable (c : List UInt8) : Prop := c ≠ [] ∧ c.length ≤ maxCompressBufferSize

/-- After a chunk has been written the buffer is clear. -/
private theorem clear_writeChunk (env : ZipOutputEnv) (z : ZipOutputExecutor) {c : List UInt8}
    (hc : c ≠ []) :
    Clear (writeChunk env z c) := by
  have hpos : 0 < c.length := List.length_pos_iff.mpr hc
  unfold writeChunk ZipOutputExecutor.compressAndWriteToFd
  rw [if_pos hpos]
  split <;> exact ⟨rfl, rfl⟩

/-- After several, too. -/
private theorem clear_foldl_writeChunk (env : ZipOutputEnv) {z : ZipOutputExecutor} (hz : Clear z)
    {chunks : List (List UInt8)} (hchunks : ∀ c ∈ chunks, Fillable c) : Clear (chunks.foldl (writeChunk env) z) := by
  induction chunks generalizing z with
  | nil => exact hz
  | cons c chunks ih =>
    exact ih (clear_writeChunk env z (hchunks c List.mem_cons_self).1)
      fun c hc => hchunks c (List.mem_cons_of_mem _ hc)

/-- Clearing a clear buffer does nothing. -/
private theorem clearBuffer_eq {z : ZipOutputExecutor} (hz : Clear z) : z.clearBuffer = z := by
  obtain ⟨hsrc, hdest⟩ := hz
  cases z
  simp only at hsrc hdest
  subst hsrc hdest
  rfl

/-- There is nothing to write. -/
private theorem compressAndWriteToFd_of_clear {z : ZipOutputExecutor} (hz : Clear z) :
    (ZipOutputExecutor.compressAndWriteToFd env z).2 = z := by
  rw [ZipOutputExecutor.compressAndWriteToFd, if_neg (by simp [hz.1])]

/-- Fill a clear buffer and write it. -/
private theorem writeChunk_eq {z : ZipOutputExecutor} (hz : Clear z) (c : List UInt8) :
    (ZipOutputExecutor.compressAndWriteToFd env { z with srcBuffer := z.srcBuffer ++ c }).2 =
      writeChunk env z c := by
  obtain ⟨hsrc, hdest⟩ := hz
  cases z
  simp only at hsrc hdest
  subst hsrc hdest
  rfl

/-- What the buffer holds, as a list of buffers to write. -/
def pending (z : ZipOutputExecutor) : List (List UInt8) :=
  if z.srcBuffer = [] then [] else [z.srcBuffer]

/-- What waits in the buffer is its content. -/
private theorem flatten_pending (z : ZipOutputExecutor) : (pending z).flatten = z.srcBuffer := by
  unfold pending
  split
  · rename_i h
    rw [h]
    rfl
  · simp

private theorem fillable_pending {z : ZipOutputExecutor}
    (hz : z.srcBuffer.length ≤ maxCompressBufferSize) :
    ∀ c ∈ pending z, Fillable c := by
  intro c hc
  unfold pending at hc
  split at hc
  · exact absurd hc (by simp)
  · rename_i h
    obtain rfl := List.mem_singleton.mp hc
    exact ⟨h, hz⟩

/-- Writing the buffer out leaves it clear. -/
private theorem compressAndWriteToFd_eq {z : ZipOutputExecutor} (hdest : z.destBuffer = []) :
    (ZipOutputExecutor.compressAndWriteToFd env z).2 =
      (pending z).foldl (writeChunk env) z.clearBuffer := by
  unfold pending
  split
  · rename_i h
    rw [List.foldl_nil, clearBuffer_eq ⟨h, hdest⟩, compressAndWriteToFd_of_clear ⟨h, hdest⟩]
  · rw [List.foldl_cons, List.foldl_nil, writeChunk]
    congr 2
    cases z
    simp only at hdest
    subst hdest
    rfl

/-- The loop for a long line writes it in buffers. -/
private theorem bigLineLoop_chunks (env : ZipOutputEnv) (remain : Nat) (content : List UInt8)
    (hlength : remain ≤ content.length) {z : ZipOutputExecutor} (hz : Clear z) :
    ∃ chunks : List (List UInt8), chunks.flatten = content.take remain ∧
      (∀ c ∈ chunks, Fillable c) ∧
      ZipOutputExecutor.bigLineLoop env remain content z =
        (chunks.foldl (writeChunk env) z, true) := by
  induction remain using Nat.strongRecOn generalizing content z with
  | _ remain ih =>
    rw [ZipOutputExecutor.bigLineLoop]
    by_cases hremain : remain > 0
    -- The buffer is empty before each round, so a round fills it or takes all that remains.
    · have hsize : z.processSize remain = min remain maxCompressBufferSize := by
        simp only [ZipOutputExecutor.processSize, hz.1, List.length_nil]
        split <;> omega
      have hmax : maxCompressBufferSize = 32768 := rfl
      have hcopy : memcpyS (maxCompressBufferSize - z.srcBuffer.length) (z.processSize remain) := by
        rw [hsize, hz.1]
        simp only [memcpyS, List.length_nil, Bool.and_eq_true, decide_eq_true_eq]
        omega
      have hpart : (content.take (z.processSize remain)).length = z.processSize remain := by
        rw [List.length_take, hsize]
        omega
      have hfill : Fillable (content.take (z.processSize remain)) := by
        refine ⟨List.ne_nil_of_length_pos ?_, ?_⟩
        · rw [hpart, hsize]
          omega
        · rw [hpart, hsize]
          omega
      -- The filled buffer is one chunk, and leaves an empty buffer behind.
      have hwrite : (ZipOutputExecutor.compressAndWriteToFd env
          { z with srcBuffer := z.srcBuffer ++ content.take (z.processSize remain) }).2 =
            writeChunk env z (content.take (z.processSize remain)) := writeChunk_eq hz _
      obtain ⟨chunks, hflatten, hchunks, hrun⟩ := ih (remain - z.processSize remain)
        (by rw [hsize]; omega) (content.drop (z.processSize remain))
        (by rw [List.length_drop, hsize]; omega) (clear_writeChunk env z hfill.1)
      refine ⟨content.take (z.processSize remain) :: chunks, ?_, ?_, ?_⟩
      · rw [List.flatten_cons, hflatten, ← List.take_add]
        congr 1
        rw [hsize]
        omega
      · intro c hc
        rcases List.mem_cons.mp hc with rfl | hc
        · exact hfill
        · exact hchunks c hc
      · rw [if_pos hremain]
        simp only [hcopy, dite_true, hwrite, hrun, List.foldl_cons]
    · refine ⟨[], ?_, by simp, if_neg hremain⟩
      have hzero : remain = 0 := by omega
      simp [hzero]

/-- What `Execute` makes of a line. -/
def lineText (line : List UInt8) : List UInt8 := line.takeWhile (· ≠ 0) ++ [10]

/-- A line whose size is a `uint16_t`. -/
def ShortLine (line : List UInt8) : Prop := (line.takeWhile (· ≠ 0)).length + 1 < 2 ^ 16

/-- A long line is written by itself, its line break last. -/
private theorem compressBigLine_chunks (env : ZipOutputEnv) (content : List UInt8)
    {z : ZipOutputExecutor} (hz : Clear z) :
    ∃ chunks : List (List UInt8), chunks.flatten = content ++ [10] ∧ (∀ c ∈ chunks, Fillable c) ∧
      (ZipOutputExecutor.compressBigLine env content (content.length + 1) z).2 =
        chunks.foldl (writeChunk env) z := by
  obtain ⟨chunks, hflatten, hchunks, hrun⟩ := bigLineLoop_chunks env content.length content
    (le_refl _) hz
  rw [List.take_length] at hflatten
  have hclear := clear_foldl_writeChunk env hz hchunks
  refine ⟨chunks ++ [[10]], by simp [hflatten], ?_, ?_⟩
  · intro c hc
    rcases List.mem_append.mp hc with hc | hc
    · exact hchunks c hc
    · obtain rfl := List.mem_singleton.mp hc
      exact ⟨by simp, by decide⟩
  · rw [ZipOutputExecutor.compressBigLine, Nat.add_sub_cancel, hrun, List.foldl_append,
      List.foldl_cons, List.foldl_nil]
    exact writeChunk_eq hclear [10]

/-- The text of the lines in buffers: every line that fits a buffer is in one. -/
structure Chunks (lines : List (List UInt8)) (before : List UInt8) (chunks : List (List UInt8)) :
    Prop where
  flatten : chunks.flatten = before ++ lines.flatMap lineText
  fillable : ∀ c ∈ chunks, Fillable c
  before_prefix : before ≠ [] → ∃ c rest, chunks = c :: rest ∧ before <+: c
  whole : ∀ line ∈ lines, (lineText line).length ≤ maxCompressBufferSize →
    ∃ c ∈ chunks, lineText line <:+: c

variable {line : List UInt8} {lines chunks : List (List UInt8)} {before : List UInt8}

/-- A line that goes into the buffer that is being filled. -/
theorem Chunks.cons_same (h : Chunks lines (before ++ lineText line) chunks) :
    Chunks (line :: lines) before chunks where
  flatten := by rw [h.flatten, List.flatMap_cons, List.append_assoc]
  fillable := h.fillable
  before_prefix _ := by
    obtain ⟨c, rest, hchunks, hprefix⟩ := h.before_prefix (by simp [lineText])
    exact ⟨c, rest, hchunks, (List.prefix_append _ _).trans hprefix⟩
  whole l hl hlength := by
    rcases List.mem_cons.mp hl with rfl | hl
    · obtain ⟨c, rest, rfl, hprefix⟩ := h.before_prefix (by simp [lineText])
      exact ⟨c, List.mem_cons_self, (List.suffix_append _ _).isInfix.trans hprefix.isInfix⟩
    · exact h.whole l hl hlength

private theorem pending_prefix {z : ZipOutputExecutor} (chunks : List (List UInt8))
    (h : z.srcBuffer ≠ []) :
    ∃ c rest, pending z ++ chunks = c :: rest ∧ z.srcBuffer <+: c :=
  ⟨z.srcBuffer, chunks, by simp [pending, h], List.prefix_rfl⟩

/-- A line that begins a buffer of its own. -/
theorem Chunks.cons_next {z : ZipOutputExecutor} (hz : z.srcBuffer.length ≤ maxCompressBufferSize)
    (h : Chunks lines (lineText line) chunks) :
    Chunks (line :: lines) z.srcBuffer (pending z ++ chunks) where
  flatten := by rw [List.flatten_append, flatten_pending, h.flatten, List.flatMap_cons]
  fillable c hc := by
    rcases List.mem_append.mp hc with hc | hc
    · exact fillable_pending hz c hc
    · exact h.fillable c hc
  before_prefix := pending_prefix chunks
  whole l hl hlength := by
    rcases List.mem_cons.mp hl with rfl | hl
    · obtain ⟨c, rest, rfl, hprefix⟩ := h.before_prefix (by simp [lineText])
      exact ⟨c, by simp, hprefix.isInfix⟩
    · obtain ⟨c, hc, hwhole⟩ := h.whole l hl hlength
      exact ⟨c, List.mem_append_right _ hc, hwhole⟩

/-- A line that is longer than the buffer. -/
theorem Chunks.cons_big {z z' : ZipOutputExecutor} {own : List (List UInt8)}
    (hz : z.srcBuffer.length ≤ maxCompressBufferSize) (h : Chunks lines z'.srcBuffer chunks)
    (hflatten : own.flatten = lineText line) (hown : ∀ c ∈ own, Fillable c)
    (hz' : z'.srcBuffer = []) (hbig : (lineText line).length > maxCompressBufferSize) :
    Chunks (line :: lines) z.srcBuffer (pending z ++ own ++ chunks) where
  flatten := by
    rw [List.flatten_append, List.flatten_append, flatten_pending, h.flatten, hz', hflatten,
      List.nil_append, List.flatMap_cons, List.append_assoc]
  fillable c hc := by
    rcases List.mem_append.mp hc with hc | hc
    · rcases List.mem_append.mp hc with hc | hc
      · exact fillable_pending hz c hc
      · exact hown c hc
    · exact h.fillable c hc
  before_prefix hne := by
    rw [List.append_assoc]
    exact pending_prefix _ hne
  whole l hl hlength := by
    rcases List.mem_cons.mp hl with rfl | hl
    · omega
    · obtain ⟨c, hc, hwhole⟩ := h.whole l hl hlength
      exact ⟨c, List.mem_append_right _ hc, hwhole⟩

/-- `Execute` writes the text of the lines in buffers. -/
private theorem executeLines_chunks (env : ZipOutputEnv) (lines : List (List UInt8))
    (hlines : ∀ line ∈ lines, ShortLine line) {z : ZipOutputExecutor} (hdest : z.destBuffer = [])
    (hsrc : z.srcBuffer.length ≤ maxCompressBufferSize) :
    ∃ chunks, Chunks lines z.srcBuffer chunks ∧ ZipOutputExecutor.executeLines env lines z =
      (.dumpOk, chunks.foldl (writeChunk env) z.clearBuffer) := by
  induction lines generalizing z with
  | nil =>
    refine ⟨pending z, ⟨by simp [flatten_pending], fillable_pending hsrc, ?_, by simp⟩, ?_⟩
    · intro hne
      exact ⟨z.srcBuffer, [], by simp [pending, hne], List.prefix_rfl⟩
    · rw [ZipOutputExecutor.executeLines, compressAndWriteToFd_eq hdest]
  | cons line lines ih =>
    have hmax : maxCompressBufferSize = 32768 := rfl
    have hline : (line.takeWhile (· ≠ 0)).length + 1 < 2 ^ 16 := hlines line List.mem_cons_self
    have hcontent : (line.takeWhile (· ≠ 0)).length % 2 ^ 16 = (line.takeWhile (· ≠ 0)).length :=
      Nat.mod_eq_of_lt (by omega)
    have hsize : ((line.takeWhile (· ≠ 0)).length + 1) % 2 ^ 16 = (lineText line).length := by
      rw [Nat.mod_eq_of_lt hline, lineText, List.length_append, List.length_singleton]
    have hlines' : ∀ l ∈ lines, ShortLine l := fun l hl => hlines l (List.mem_cons_of_mem _ hl)
    have hlength : (lineText line).length = (line.takeWhile (· ≠ 0)).length + 1 := by
      rw [lineText, List.length_append, List.length_singleton]
    rw [ZipOutputExecutor.executeLines]
    simp only [hcontent, hsize, List.take_length]
    by_cases hfull : z.srcBuffer.length + (lineText line).length > maxCompressBufferSize
    · rw [if_pos hfull, compressAndWriteToFd_eq hdest]
      have hclear := clear_foldl_writeChunk env (z := z.clearBuffer) ⟨rfl, rfl⟩
        (fillable_pending hsrc)
      by_cases hbig : (lineText line).length > maxCompressBufferSize
      · -- The line is longer than the buffer.
        obtain ⟨own, hflatten, hown, hrun⟩ :=
          compressBigLine_chunks env (line.takeWhile (· ≠ 0)) hclear
        have hcleared := clear_foldl_writeChunk env hclear hown
        obtain ⟨chunks, hchunks, hrest⟩ := ih hlines' hcleared.2 (by rw [hcleared.1]; simp)
        refine ⟨pending z ++ own ++ chunks, ?_, ?_⟩
        · exact hchunks.cons_big hsrc hflatten hown hcleared.1 hbig
        · have hagain : (ZipOutputExecutor.compressAndWriteToFd env
              ((pending z).foldl (writeChunk env) z.clearBuffer)).2 =
                (pending z).foldl (writeChunk env) z.clearBuffer :=
            compressAndWriteToFd_of_clear hclear
          rw [if_pos hbig, hagain, hlength, hrun, hrest, clearBuffer_eq hcleared,
            List.foldl_append, List.foldl_append]
      · -- The line begins the next buffer.
        have hcopy : memcpyS (maxCompressBufferSize -
            ((pending z).foldl (writeChunk env) z.clearBuffer).srcBuffer.length)
              (line.takeWhile (· ≠ 0)).length := by
          rw [hclear.1]
          simp only [memcpyS, List.length_nil, Bool.and_eq_true, decide_eq_true_eq]
          omega
        rw [if_neg hbig, if_pos hcopy, hclear.1, List.nil_append]
        obtain ⟨chunks, hchunks, hrest⟩ := ih hlines'
          (z := { (pending z).foldl (writeChunk env) z.clearBuffer with
            srcBuffer := lineText line })
          hclear.2 (not_lt.mp hbig)
        refine ⟨pending z ++ chunks, hchunks.cons_next hsrc, ?_⟩
        rw [List.foldl_append]
        refine hrest.trans ?_
        congr 2
        exact clearBuffer_eq hclear
    · -- The line still fits.
      rw [if_neg hfull, if_neg (by omega)]
      have hcopy : memcpyS (maxCompressBufferSize - z.srcBuffer.length)
          (line.takeWhile (· ≠ 0)).length := by
        simp only [memcpyS, Bool.and_eq_true, decide_eq_true_eq]
        omega
      rw [if_pos hcopy, List.append_assoc]
      obtain ⟨chunks, hchunks, hrest⟩ := ih hlines'
        (z := { z with srcBuffer := z.srcBuffer ++ lineText line }) hdest
        (by rw [List.length_append]; omega)
      exact ⟨chunks, hchunks.cons_same, hrest⟩

/-! ## The file -/

variable {decode : List UInt8 → Option (List UInt8)}

/-- Every `write` takes a whole buffer. -/
def WritesAll (env : ZipOutputEnv) : Prop :=
  ∀ k, ∃ n, env.write k = some n ∧ maxCompressBufferSize ≤ n

/-- `z'` is `z` with something behind its file that decompresses to `inp`. -/
structure Appended (decode : List UInt8 → Option (List UInt8)) (z : ZipOutputExecutor)
    (inp : List UInt8) (z' : ZipOutputExecutor) : Prop where
  mFilePath : z'.mFilePath = z.mFilePath
  isOpen : z'.isOpen = z.isOpen
  file : ∃ stream, z'.file = z.file ++ stream ∧ DecodesTo decode stream inp

theorem Appended.refl (z : ZipOutputExecutor) : Appended decode z [] z :=
  ⟨rfl, rfl, [], by simp, .nil⟩

/-- What is appended after something else is appended to it. -/
theorem Appended.trans {z z' z'' : ZipOutputExecutor} {inp inp' : List UInt8}
    (h : Appended decode z inp z') (h' : Appended decode z' inp' z'') :
    Appended decode z (inp ++ inp') z'' := by
  obtain ⟨stream, hfile, hdecodes⟩ := h.file
  obtain ⟨stream', hfile', hdecodes'⟩ := h'.file
  refine ⟨h'.mFilePath.trans h.mFilePath, h'.isOpen.trans h.isOpen, stream ++ stream', ?_,
    hdecodes.append hdecodes'⟩
  rw [hfile', hfile, List.append_assoc]

/-- A buffer is in the file if its stream fits, and missing if it does not. -/
private theorem appended_writeChunk (h : env.zlib.deflate.Lawful decode) (hwrite : WritesAll env)
    (z : ZipOutputExecutor) {c : List UInt8} (hc : c ≠ []) :
    Appended decode z (if StreamFits env.zlib c then c else []) (writeChunk env z c) := by
  have hpos : 0 < c.length := List.length_pos_iff.mpr hc
  cases hrun : compress env.zlib c [] with
  -- A chunk that cannot be compressed is cleared away without a write.
  | none =>
    have hlost : ¬StreamFits env.zlib c := by
      rw [← isSome_compress_iff, hrun]
      exact Bool.false_ne_true
    have hclear : writeChunk env z c = z.clearBuffer := by
      simp only [writeChunk, ZipOutputExecutor.compressAndWriteToFd, gt_iff_lt, hpos, if_true, hrun]
      rfl
    rw [if_neg hlost, hclear]
    exact ⟨rfl, rfl, [], (List.append_nil _).symm, .nil⟩
  -- The stream is written in one call, which takes all of it.
  | some dest =>
    have hfits : StreamFits env.zlib c := by
      rw [← isSome_compress_iff, hrun]
      rfl
    obtain ⟨hlength, hdecodes⟩ := compress_decodes h hrun
    obtain ⟨n, hn, hmax⟩ := hwrite z.writes
    have hwritten : (writeChunk env z c).mFilePath = z.mFilePath ∧
        (writeChunk env z c).isOpen = z.isOpen ∧
          (writeChunk env z c).file = z.file ++ dest.take n := by
      simp [writeChunk, ZipOutputExecutor.compressAndWriteToFd, hpos, hrun,
        ZipOutputExecutor.writeDest, hn, ZipOutputExecutor.clearBuffer]
    rw [if_pos hfits]
    refine ⟨hwritten.1, hwritten.2.1, dest, ?_, hdecodes⟩
    rw [hwritten.2.2, List.take_of_length_le (hlength.trans hmax)]

/-- The buffers of a list that are not lost. -/
def kept (env : ZipOutputEnv) (chunks : List (List UInt8)) : List (List UInt8) :=
  chunks.filter fun c => StreamFits env.zlib c

/-- A chunk whose stream does not fit is lost, and the others are kept. -/
private theorem flatten_kept_cons (c : List UInt8) (chunks : List (List UInt8)) :
    (kept env (c :: chunks)).flatten =
      (if StreamFits env.zlib c then c else []) ++ (kept env chunks).flatten := by
  by_cases hfits : StreamFits env.zlib c
  · simp [kept, hfits]
  · simp [kept, hfits]

/-- The chunks that are kept are appended to the file, as streams that decode to them. -/
private theorem appended_foldl_writeChunk (h : env.zlib.deflate.Lawful decode)
    (hwrite : WritesAll env)
    {chunks : List (List UInt8)} (hchunks : ∀ c ∈ chunks, Fillable c) (z : ZipOutputExecutor) :
    Appended decode z (kept env chunks).flatten (chunks.foldl (writeChunk env) z) := by
  induction chunks generalizing z with
  | nil => exact .refl z
  | cons c chunks ih =>
    have hfirst := appended_writeChunk h hwrite z (hchunks c List.mem_cons_self).1
    rw [flatten_kept_cons]
    exact hfirst.trans (ih (fun c hc => hchunks c (List.mem_cons_of_mem _ hc)) _)

/-- One output for several commands: the statuses of `Execute` and the output. -/
def session (env : ZipOutputEnv) (path : String) :
    List (List (List (List UInt8))) → ZipOutputExecutor → List DumpStatus × ZipOutputExecutor
  | [], z => ([], z)
  | dumpDatas :: rest, z =>
    let executed :=
      ZipOutputExecutor.execute env dumpDatas (ZipOutputExecutor.preExecute env path z).2
    let later := session env path rest executed.2
    (executed.1 :: later.1, later.2)

/-- The state between two commands: the buffers are clear, and the output is new or its file
    is open. -/
structure Between (z : ZipOutputExecutor) : Prop where
  clear : Clear z
  isOpen : z.mFilePath ≠ "" → z.isOpen = true

/-- `PreExecute` opens the file for the first command and leaves it to the others. -/
theorem Between.preExecute {z : ZipOutputExecutor} (hz : Between z) {path : String} (hopen : env.fdToWrite path) :
    Clear (ZipOutputExecutor.preExecute env path z).2 ∧
      (ZipOutputExecutor.preExecute env path z).2.isOpen = true ∧
      (ZipOutputExecutor.preExecute env path z).2.file = z.file := by
  unfold ZipOutputExecutor.preExecute
  split
  · exact ⟨⟨rfl, rfl⟩, hopen, rfl⟩
  · rename_i hne
    exact ⟨hz.clear, hz.isOpen hne, rfl⟩

/-- One command: its lines go into buffers of their own. -/
theorem Between.execute (h : env.zlib.deflate.Lawful decode) (hwrite : WritesAll env)
    {z : ZipOutputExecutor} (hz : Between z) {path : String} (hopen : env.fdToWrite path)
    {dumpDatas : List (List (List UInt8))}
    (hlines : ∀ line ∈ dumpDatas, ShortLine line.flatten) :
    let executed :=
      ZipOutputExecutor.execute env dumpDatas (ZipOutputExecutor.preExecute env path z).2
    executed.1 = .dumpOk ∧ Between executed.2 ∧
      ∃ chunks, Chunks (dumpDatas.map List.flatten) [] chunks ∧
        ∃ stream, executed.2.file = z.file ++ stream ∧
          DecodesTo decode stream (kept env chunks).flatten := by
  obtain ⟨hclear, hisOpen, hfile⟩ := hz.preExecute hopen
  obtain ⟨chunks, hchunks, hrun⟩ := executeLines_chunks env (dumpDatas.map List.flatten)
    (by
      intro line hline
      obtain ⟨row, hrow, rfl⟩ := List.mem_map.mp hline
      exact hlines row hrow)
    hclear.2 (by rw [hclear.1]; exact Nat.zero_le _)
  -- The buffer is empty before the first line and cleared after the last.
  rw [hclear.1] at hchunks
  rw [clearBuffer_eq hclear] at hrun
  have happended := appended_foldl_writeChunk h hwrite hchunks.fillable
    (ZipOutputExecutor.preExecute env path z).2
  obtain ⟨stream, hstream, hdecodes⟩ := happended.file
  simp only [ZipOutputExecutor.execute, hisOpen, if_true, hrun, true_and]
  refine ⟨⟨clear_foldl_writeChunk env hclear hchunks.fillable, fun _ => ?_⟩,
    chunks, hchunks, stream, ?_, hdecodes⟩
  · exact happended.isOpen.trans hisOpen
  · rw [hstream, hfile]

/-! ## A buffer that is lost -/

/-- A command of one line that fits a buffer has one buffer. -/
theorem Chunks.eq_singleton (h : Chunks [line] [] chunks)
    (hlength : (lineText line).length ≤ maxCompressBufferSize) : chunks = [lineText line] := by
  obtain ⟨c, hc, hwhole⟩ := h.whole line List.mem_cons_self hlength
  have hflatten : chunks.flatten = lineText line := by
    rw [h.flatten, List.nil_append, List.flatMap_singleton]
  obtain ⟨front, back, rfl⟩ := List.append_of_mem hc
  have hle := hwhole.length_le
  have htotal := congrArg List.length hflatten
  rw [List.flatten_append, List.flatten_cons, List.length_append, List.length_append] at htotal
  -- The line takes all the room, and no buffer is empty.
  have hempty : ∀ others : List (List UInt8), (∀ d ∈ others, Fillable d) →
      others.flatten.length = 0 → others = [] := by
    intro others hfillable hzero
    cases others with
    | nil => rfl
    | cons d others =>
      have hpos := List.length_pos_iff.mpr (hfillable d List.mem_cons_self).1
      rw [List.flatten_cons, List.length_append] at hzero
      omega
  have hfront := hempty front (fun d hd => h.fillable d (by simp [hd])) (by omega)
  have hback := hempty back (fun d hd => h.fillable d (by simp [hd])) (by omega)
  subst hfront hback
  rw [List.nil_append, List.flatten_singleton] at hflatten
  rw [List.nil_append, hflatten]

/-- Bytes without pattern, none of them NUL. -/
def noise : Nat → Nat → List UInt8
  | 0, _ => []
  | n + 1, seed =>
    let seed := (seed * 1103515245 + 12345) % 2 ^ 31
    .ofNat (1 + seed / 65536 % 255) :: noise n seed

/-- Little-endian bytes. -/
def littleEndian : Nat → Nat → List UInt8
  | 0, _ => []
  | k + 1, n => .ofNat n :: littleEndian k (n / 256)

/-- As many bytes as are asked for. -/
private theorem length_littleEndian (k n : Nat) : (littleEndian k n).length = k := by
  induction k generalizing n with
  | zero => rfl
  | succ k ih => rw [littleEndian, List.length_cons, ih]

/-- The check sum of gzip. -/
def crc32 (inp : List UInt8) : UInt32 :=
  let shift (crc : UInt32) : UInt32 :=
    if crc &&& 1 = 1 then (crc >>> 1) ^^^ 0xEDB88320 else crc >>> 1
  ~~~(inp.foldl (fun crc b => Nat.iterate shift 8 (crc ^^^ b.toUInt32)) 0xFFFFFFFF)

/-- `deflate` with the stored blocks that it uses for noise. -/
def storedBlocks (inp : List UInt8) : List UInt8 :=
  if _hlast : inp.length ≤ 16383 then
    1 :: .ofNat inp.length :: .ofNat (inp.length / 256) ::
      (littleEndian 2 (65535 - inp.length) ++ inp)
  else [0, 255, 63, 0, 192] ++ (inp.take 16383 ++ storedBlocks (inp.drop 16383))
termination_by inp.length

/-- "ok" and a line break, and its block. -/
def okText : List UInt8 := [111, 107, 10]

def okBlock : List UInt8 := [203, 207, 230, 2, 0]

/-- The gzip stream of "ok" and of noise. -/
def gzip (inp : List UInt8) : List UInt8 :=
  [31, 139, 8, 0, 0, 0, 0, 0, 0, 3] ++ ((if inp = okText then okBlock else storedBlocks inp) ++
    (littleEndian 4 (crc32 inp).toNat ++ littleEndian 4 inp.length))

/-- The text of the blocks in front, and what follows them. -/
def inflate (s : List UInt8) : Option (List UInt8 × List UInt8) :=
  if s.take 5 = okBlock then some (okText, s.drop 5)
  else
    match s with
    | last :: lo :: hi :: _ :: _ :: rest =>
      let n := lo.toNat + 256 * hi.toNat
      if last = 1 then if n ≤ rest.length then some (rest.take n, rest.drop n) else none
      else (inflate (rest.drop n)).map fun (text, s) => (rest.take n ++ text, s)
    | _ => none
termination_by s.length
decreasing_by
  simp only [List.length_drop, List.length_cons]
  omega

/-- The texts of gzip streams one behind the other. -/
def gunzip (s : List UInt8) : Option (List UInt8) :=
  if s = [] then some []
  else
    match inflate (s.drop 10) with
    | none => none
    | some (text, rest) =>
      if _hrest : 8 ≤ rest.length ∧ rest.length ≤ s.length then
        (gunzip (rest.drop 8)).map (text ++ ·)
      else none
termination_by s.length
decreasing_by
  simp only [List.length_drop]
  omega

/-- Stored blocks are read back. -/
private theorem inflate_storedBlocks (inp further : List UInt8) :
    inflate (storedBlocks inp ++ further) = some (inp, further) := by
  fun_induction storedBlocks inp with
  | case1 inp hlast =>
    have hlo : (UInt8.ofNat inp.length).toNat + 256 * (UInt8.ofNat (inp.length / 256)).toNat =
        inp.length := by
      simp only [UInt8.toNat_ofNat']
      omega
    rw [inflate.eq_def, if_neg (by simp [okBlock, littleEndian])]
    simp only [littleEndian, List.cons_append, List.nil_append, hlo, if_true]
    rw [if_pos (by simp), List.take_left, List.drop_left]
  -- A full block of 16383 bytes, and the blocks of the rest.
  | case2 inp hmore ih =>
    have hlength : (inp.take 16383).length = 16383 := by
      rw [List.length_take]
      omega
    have hn : (255 : UInt8).toNat + 256 * (63 : UInt8).toNat = (inp.take 16383).length := by
      rw [hlength]
      rfl
    rw [inflate.eq_def, if_neg (by simp [okBlock])]
    simp only [List.cons_append, List.nil_append, hn, List.append_assoc]
    rw [if_neg (by decide), List.take_left, List.drop_left, ih, Option.map_some,
      List.take_append_drop]

/-- A member is read back, and then the members behind it. -/
private theorem gunzip_gzip (inp further : List UInt8) :
    gunzip (gzip inp ++ further) = (gunzip further).map (inp ++ ·) := by
  have hblocks : ∀ rest, inflate ((if inp = okText then okBlock else storedBlocks inp) ++ rest) =
      some (inp, rest) := by
    intro rest
    split
    · rename_i hok
      rw [hok, inflate.eq_def, if_pos (by simp [okBlock])]
      rfl
    · exact inflate_storedBlocks inp rest
  have htrailer : (littleEndian 4 (crc32 inp).toNat ++ littleEndian 4 inp.length).length = 8 := by
    rw [List.length_append, length_littleEndian, length_littleEndian]
  have hheader : ∀ rest : List UInt8,
      ([31, 139, 8, 0, 0, 0, 0, 0, 0, 3] ++ rest).drop 10 = rest := fun _ => rfl
  -- Ten bytes of header before the blocks, eight of trailer behind them.
  have hbehind : ∀ rest : List UInt8,
      (littleEndian 4 (crc32 inp).toNat ++ (littleEndian 4 inp.length ++ rest)).drop 8 = rest := by
    intro rest
    rw [← List.append_assoc, List.drop_left' htrailer]
  rw [gunzip, if_neg (by simp [gzip])]
  simp only [gzip, List.append_assoc, hheader, hblocks]
  rw [dif_pos, hbehind]
  simp only [List.length_append, length_littleEndian]
  omega

/-- Blocks are longer than their text. -/
private theorem length_inflate {s text rest : List UInt8} (h : inflate s = some (text, rest)) :
    text.length + rest.length + 2 ≤ s.length := by
  fun_induction inflate s generalizing text with
  | case1 s hok =>
    obtain ⟨rfl, rfl⟩ := Prod.mk.inj (Option.some.inj h)
    have hfive := congrArg List.length hok
    rw [List.length_take] at hfive
    simp only [okBlock, okText, List.length_cons, List.length_nil, List.length_drop] at hfive ⊢
    omega
  | case2 =>
    obtain ⟨rfl, rfl⟩ := Prod.mk.inj (Option.some.inj h)
    simp only [List.length_cons, List.length_take, List.length_drop]
    omega
  | case3 => exact absurd h (by simp)
  -- A block that is not the last: five bytes before its text, and more blocks behind it.
  | case4 =>
    rename_i ih
    obtain ⟨⟨text', rest'⟩, hinflate, heq⟩ := Option.map_eq_some_iff.mp h
    obtain ⟨rfl, rfl⟩ := Prod.mk.inj heq
    have hle := ih hinflate
    simp only [List.length_append, List.length_take, List.length_drop, List.length_cons] at hle ⊢
    omega
  | case5 => exact absurd h (by simp)

/-- So are gzip streams, by 20 bytes. -/
private theorem length_gunzip {s text : List UInt8} (h : gunzip s = some text) :
    text.length ≤ s.length ∧ (s ≠ [] → text.length + 20 ≤ s.length) := by
  fun_induction gunzip s generalizing text with
  | case1 =>
    obtain rfl := Option.some.inj h
    simp
  | case2 => exact absurd h (by simp)
  | case3 s hs text' rest hinflate hrest ih =>
    obtain ⟨text'', hgunzip, rfl⟩ := Option.map_eq_some_iff.mp h
    have hblocks := length_inflate hinflate
    have hle := (ih hgunzip).1
    simp only [List.length_append, List.length_drop] at hblocks hle ⊢
    omega
  | case4 => exact absurd h (by simp)

/-- zlib as it is for "ok" and for noise. -/
def gzipEnv : ZipOutputEnv where
  zlib :=
    { deflate := StreamEncoder.buffered gzip
      deflateInit := true
      compressBound n := n + n / 4096 + n / 16384 + n / 33554432 + 13 }
  fdToWrite path := path = "/data/log.zip"
  write _ := some maxCompressBufferSize

/-- The compressor of the example does what is asked of one. -/
private theorem gzipEnv_lawful : gzipEnv.zlib.deflate.Lawful gunzip :=
  StreamEncoder.buffered_lawful gunzip_gzip

/-- The stream of the short text fits. -/
private theorem streamFits_okText : StreamFits gzipEnv.zlib okText where
  compressBound := by decide
  deflateInit := rfl
  stream := by
    have hlength : (gzip okText).length = 23 := by
      simp [gzip, okBlock, length_littleEndian]
    have hall : (gzip okText).take chunk = gzip okText := by
      rw [List.take_of_length_le]
      rw [hlength, chunk]
      omega
    refine ⟨[(gzip okText).take chunk], .last (by decide) (.last rfl ?_), ?_, ?_⟩
    · rw [hall, hlength, chunk]
      omega
    · rw [hall, HasRoom, List.flatten_singleton, hlength, chunk]
      exact ⟨Nat.lt_of_lt_of_le (by decide) (Nat.le_max_left _ _),
        Nat.le_trans (by omega) (Nat.le_max_left _ _)⟩
    · rw [hall, List.flatten_singleton, hlength, maxCompressBufferSize]
      omega

/-- `compressBound` is for streams with a shorter header than gzip's: `zData_` is too small for
    noise. -/
private theorem not_streamFits_noise {c : List UInt8} (hlength : c.length = 20001) :
    ¬StreamFits gzipEnv.zlib c := by
  intro hfits
  obtain ⟨outs, hencodes, hroom, -⟩ := hfits.stream
  have hdecodes := hencodes.decodesTo gzipEnv_lawful []
  have hnil : gunzip [] = some [] := by rw [gunzip, if_pos rfl]
  rw [List.append_nil, hnil, Option.map_some, List.append_nil] at hdecodes
  have hne : outs.flatten ≠ [] := by
    intro hempty
    rw [hempty, hnil] at hdecodes
    rw [← Option.some.inj hdecodes] at hlength
    exact absurd hlength (by decide)
  -- A stream that is not the short text's own holds all its bytes and its framing.
  have hlong := (length_gunzip hdecodes).2 hne
  have hzData : max chunk (gzipEnv.zlib.compressBound c.length) = 20019 := by
    rw [hlength]
    decide
  have hle := hroom.2
  rw [hzData] at hle
  omega

end ZipOutputs

end HiDumper.Spec
