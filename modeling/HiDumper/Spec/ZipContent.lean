import HiDumper.Native.ZipWriter

/-!
# Files in an archive

When the copy loop of `ZipWriter::AddFileContentToZip` ends, and what it has copied then. The
loop waits for the end of the file. A read that delivers nothing is made again, also if it
has failed, so the loop does not end on a file that goes on failing. Read errors that pass do
no harm: the next read goes on where the failed one has stopped.

## Key results

- `copyLoop_invariant`: the bytes passed on and those that are left make up the file
- `diverges_iff_stuck`: the loop does not end exactly if the file gets stuck
- `addFileContentToZip_iff_not_stuck`: the same for the function
-/

namespace HiDumper.Spec

open HiDumper.Native ZipWriter

/-! ## Reads -/

namespace FileStream

variable {errors : ReadErrors} {size : Nat} {fp : FileStream}

/-- A read takes what it delivers off the file. -/
private theorem fread_append (errors : ReadErrors) (size : Nat) (fp : FileStream) :
    (fp.fread errors size).1 ++ (fp.fread errors size).2.rest = fp.rest := by
  unfold FileStream.fread
  split <;> exact List.take_append_drop _ _

/-- A read is counted. -/
private theorem reads_fread (errors : ReadErrors) (size : Nat) (fp : FileStream) :
    (fp.fread errors size).2.reads = fp.reads + 1 := by
  unfold FileStream.fread
  split <;> rfl

/-- The end-of-file indicator is kept. -/
private theorem eof_fread (h : fp.eof = true) : (fp.fread errors size).2.eof = true := by
  unfold FileStream.fread
  split <;> simp [h]

/-- The indicator is set only where nothing is left. -/
private theorem rest_eq_nil_of_eof (hfp : fp.eof = true → fp.rest = [])
    (h : (fp.fread errors size).2.eof = true) : (fp.fread errors size).2.rest = [] := by
  unfold FileStream.fread at h ⊢
  split
  · rename_i hcut
    simp only [hcut] at h
    rw [hfp h, List.drop_nil]
  · rename_i hcut
    simp only [hcut, Bool.or_eq_true, decide_eq_true_eq] at h
    rw [List.drop_eq_nil_iff]
    rcases h with heof | hshort
    · simp [hfp heof]
    · exact hshort.le

/-- A read that fails before the first byte changes the error indicator only. -/
private theorem fread_of_failed (h : errors fp.reads = some 0) (hsize : 0 < size) :
    fp.fread errors size = ([], { fp with error := true, reads := fp.reads + 1 }) := by
  unfold FileStream.fread
  rw [h, Option.filter_some, if_pos (by simpa using hsize)]
  rfl

/-- A read that delivers nothing and does not meet the end of the file has failed before the
    first byte. -/
private theorem failed_of_fread (hsize : 0 < size) (heof : (fp.fread errors size).2.eof = false)
    (hnil : (fp.fread errors size).1 = []) : errors fp.reads = some 0 := by
  unfold FileStream.fread at heof hnil
  split at hnil
  · rename_i k hcut
    have hk := Option.filter_eq_some_iff.mp hcut
    simp only [Bool.and_eq_true, decide_eq_true_eq] at hk
    rcases List.take_eq_nil_iff.mp hnil with hzero | hempty
    · rw [hk.1, hzero]
    · have hle := hk.2.2
      rw [hempty, List.length_nil, Nat.le_zero] at hle
      rw [hk.1, hle]
  · rename_i hcut
    -- Nothing was left, so the end of the file was met.
    simp only [hcut, Bool.or_eq_false_iff, decide_eq_false_iff_not, not_lt] at heof
    rcases List.take_eq_nil_iff.mp hnil with hzero | hempty
    · omega
    · have hle := heof.2
      rw [hempty, List.length_nil] at hle
      omega

end FileStream

/-! ## Rounds -/

section Rounds

variable (file : ZipFileInput)

/-- A round goes on with the stream behind one read, and a write that is refused is the last. -/
private theorem copyRound_eq_some {s t : CopyLoop} (h : copyRound file s = some t) :
    s.fp.eof = false ∧ s.ret = true ∧ t.fp = (s.fp.fread file.errors zipBufSize).2 ∧
      t.passed = s.passed ++ (s.fp.fread file.errors zipBufSize).1 ∧
      t.ret = ((s.fp.fread file.errors zipBufSize).1.isEmpty || file.accepts s.fp.reads) := by
  unfold copyRound at h
  split at h
  · exact absurd h (by simp)
  · rename_i hgo
    have hlive : s.fp.eof = false ∧ s.ret = true := by
      simpa only [Bool.or_eq_true, not_or, Bool.not_eq_true, Bool.not_eq_false'] using hgo
    refine ⟨hlive.1, hlive.2, ?_⟩
    -- An empty read writes nothing; any other passes its bytes on.
    cases hbuf : (s.fp.fread file.errors zipBufSize).1 with
    | nil =>
      simp only [hbuf, List.length_nil, Nat.lt_one_iff, if_true, Option.some.injEq] at h
      subst h
      simp [hlive.2]
    | cons b buf =>
      simp only [hbuf, List.length_cons, Nat.lt_one_iff, Nat.add_one_ne_zero, if_false,
        Option.some.injEq] at h
      subst h
      cases file.accepts s.fp.reads <;> simp [hlive.2]

/-- The loop ends at the end of the file or at an error. -/
private theorem copyRound_eq_none {s : CopyLoop} :
    copyRound file s = none ↔ s.fp.eof = true ∨ s.ret = false := by
  unfold copyRound
  split
  · rename_i hend
    simpa using hend
  · rename_i hgo
    constructor
    · intro h
      exfalso
      revert h
      dsimp only
      split <;> simp
    · intro h
      exact absurd (by simpa using h) hgo

/-- What was passed on and what is left make up the file, and the end of the file is
    reported only behind its last byte. -/
def CopyInvariant (bytes : List UInt8) (s : CopyLoop) : Prop :=
  s.passed ++ s.fp.rest = bytes ∧ (s.fp.eof = true → s.fp.rest = [])

/-- What has been copied is what has been read. -/
theorem copyLoop_invariant {bytes : List UInt8} {s t : CopyLoop} (hs : CopyInvariant bytes s)
    (h : copyRound file s = some t) : CopyInvariant bytes t := by
  obtain ⟨-, -, hfp, hpassed, -⟩ := copyRound_eq_some file h
  obtain ⟨hbytes, heof⟩ := hs
  constructor
  · rw [hpassed, hfp, List.append_assoc, FileStream.fread_append, hbytes]
  · rw [hfp]
    exact FileStream.rest_eq_nil_of_eof heof

end Rounds

/-! ## Files that get stuck -/

section Stuck

variable (file : ZipFileInput)

/-- The stream after `n` reads of a file with these bytes. -/
def streamAfter (bytes : List UInt8) : Nat → FileStream
  | 0 => { rest := bytes }
  | n + 1 => ((streamAfter bytes n).fread file.errors zipBufSize).2

/-- What the `n`-th read delivers. -/
def delivered (bytes : List UInt8) (n : Nat) : List UInt8 :=
  ((streamAfter file bytes n).fread file.errors zipBufSize).1

/-- From the `n`-th read on every read fails before its first byte. None of the reads before
    it has met the end of the file, and none of the writes was refused. -/
def StuckAt (bytes : List UInt8) (n : Nat) : Prop :=
  (streamAfter file bytes n).eof = false ∧
  (∀ m < n, delivered file bytes m ≠ [] → file.accepts m = true) ∧
  ∀ m, n ≤ m → file.errors m = some 0

/-- After `n` rounds there have been `n` reads. -/
private theorem reads_streamAfter (bytes : List UInt8) (n : Nat) :
    (streamAfter file bytes n).reads = n := by
  induction n with
  | zero => rfl
  | succ n ih => rw [streamAfter, FileStream.reads_fread, ih]

/-- The end of the file was not met earlier either. -/
private theorem eof_streamAfter_of_le {bytes : List UInt8} {m n : Nat} (hmn : m ≤ n)
    (h : (streamAfter file bytes n).eof = false) : (streamAfter file bytes m).eof = false := by
  induction n, hmn using Nat.le_induction with
  | base => exact h
  | succ n _ ih =>
    apply ih
    by_contra heof
    rw [Bool.not_eq_false] at heof
    rw [streamAfter, FileStream.eof_fread heof] at h
    exact absurd h (by simp)

/-- A stuck file stays where it is. -/
theorem StuckAt.next {bytes : List UInt8} {n m : Nat} (h : StuckAt file bytes n) (hm : n ≤ m) :
    delivered file bytes m = [] ∧ (streamAfter file bytes m).eof = false := by
  have hfail : ∀ m, n ≤ m → (streamAfter file bytes m).fread file.errors zipBufSize =
      ([], { streamAfter file bytes m with error := true, reads := m + 1 }) := by
    intro m hm
    have hfailed : file.errors (streamAfter file bytes m).reads = some 0 := by
      rw [reads_streamAfter, h.2.2 m hm]
    have hread := FileStream.fread_of_failed hfailed (show 0 < zipBufSize by decide)
    rwa [reads_streamAfter] at hread
  refine ⟨by rw [delivered, hfail m hm], ?_⟩
  induction m, hm using Nat.le_induction with
  | base => exact h.1
  | succ m hm ih => rw [streamAfter, hfail m hm, ih]

/-- All rounds of a loop that does not end go on with the next stream. -/
private theorem fp_trace {bytes : List UInt8}
    (trace : Loop.Trace (copyRound file) { fp := { rest := bytes } }) (n : Nat) :
    (trace.state n).fp = streamAfter file bytes n := by
  induction n with
  | zero => rw [trace.start, streamAfter]
  | succ n ih =>
    obtain ⟨-, -, hfp, -, -⟩ := copyRound_eq_some file (trace.next n)
    rw [hfp, ih, streamAfter]

/-- The loop does not end exactly if the file gets stuck. -/
theorem diverges_iff_stuck (bytes : List UInt8) :
    Loop.Diverges (copyRound file) { fp := { rest := bytes } } ↔ ∃ n, StuckAt file bytes n := by
  constructor
  · intro h
    obtain ⟨trace⟩ := Loop.diverges_iff_exists_trace.mp h
    have hround := fun n => copyRound_eq_some file (trace.next n)
    have heof : ∀ n, (streamAfter file bytes n).eof = false := fun n => by
      rw [← fp_trace file trace n]
      exact (hround n).1
    -- The file is finite, so the reads deliver nothing from some round on.
    obtain ⟨n, hstable⟩ := trace.exists_stable (fun s => s.fp.rest.length) fun s t hst => by
      obtain ⟨-, -, hfp, -, -⟩ := copyRound_eq_some file hst
      have hlen := congrArg List.length
        (FileStream.fread_append file.errors zipBufSize s.fp)
      rw [List.length_append] at hlen
      rw [hfp]
      omega
    refine ⟨n, heof n, ?_, ?_⟩
    · intro m _ hne
      obtain ⟨-, -, -, -, hret⟩ := hround m
      rw [(hround (m + 1)).2.1, fp_trace file trace m, reads_streamAfter] at hret
      have hnonempty : (delivered file bytes m).isEmpty = false := by simpa using hne
      rw [delivered] at hnonempty
      rwa [hnonempty, Bool.false_or, eq_comm] at hret
    · intro m hm
      have hlen := congrArg List.length
        (FileStream.fread_append file.errors zipBufSize (streamAfter file bytes m))
      have hsame := (hstable (m + 1) (by omega)).trans (hstable m hm).symm
      rw [fp_trace, fp_trace, streamAfter] at hsame
      rw [List.length_append, hsame] at hlen
      have hnil : ((streamAfter file bytes m).fread file.errors zipBufSize).1 = [] :=
        List.length_eq_zero_iff.mp (by omega)
      have hfailed := FileStream.failed_of_fread (by decide) (heof (m + 1)) hnil
      rwa [reads_streamAfter] at hfailed
  · intro ⟨n, hstuck⟩
    apply Loop.diverges_of_invariant fun s =>
      s.ret = true ∧ ∃ m, s.fp = streamAfter file bytes m
    · intro s ⟨hret, m, hfp⟩
      have hlive : s.fp.eof = false := by
        rw [hfp]
        rcases Nat.le_total n m with hle | hle
        · exact (hstuck.next file hle).2
        · exact eof_streamAfter_of_le file hle hstuck.1
      obtain ⟨t, ht⟩ : ∃ t, copyRound file s = some t := by
        rw [← Option.ne_none_iff_exists', ne_eq, copyRound_eq_none]
        simp [hlive, hret]
      obtain ⟨-, -, hfp', -, hret'⟩ := copyRound_eq_some file ht
      refine ⟨t, ht, ?_, m + 1, by rw [hfp', hfp, streamAfter]⟩
      rw [hret', hfp, reads_streamAfter, Bool.or_eq_true, List.isEmpty_iff]
      -- Before it is stuck the write is accepted, and afterwards there is none.
      by_cases hempty : delivered file bytes m = []
      · exact .inl hempty
      · rcases Nat.lt_or_ge m n with hlt | hge
        · exact .inr (hstuck.2.1 m hlt hempty)
        · exact absurd (hstuck.next file hge).1 hempty
    · exact ⟨rfl, 0, rfl⟩

end Stuck

/-! ## The functions -/

/-- `AddFileContentToZip` comes to an end. -/
def CopyEnds (file : ZipFileInput) : Prop := ∃ fuel, (addFileContentToZip file fuel).isSome = true

/-- Where `AddFileContentToZip` returns `true`, it has passed on the file. -/
def CopiesFile (file : ZipFileInput) : Prop :=
  ∀ fuel passed, addFileContentToZip file fuel = some (true, passed) → file.content = some passed

/-- The file is opened and gets stuck. -/
def GetsStuck (file : ZipFileInput) : Prop :=
  file.pathIsValid = true ∧ ∃ bytes, file.content = some bytes ∧ ∃ n, StuckAt file bytes n

variable (file : ZipFileInput)

/-- A file that does not open is left out. -/
private theorem addFileContentToZip_of_not_opened (fuel : Nat)
    (h : file.pathIsValid = false ∨ file.content = none) :
    addFileContentToZip file fuel = some (false, []) := by
  unfold addFileContentToZip
  rcases h with hpath | hcontent
  · simp [hpath]
  · simp [hcontent]

/-- One that opens is copied by the loop. -/
private theorem addFileContentToZip_of_opened {bytes : List UInt8} (fuel : Nat)
    (hpath : file.pathIsValid = true) (hcontent : file.content = some bytes) :
    addFileContentToZip file fuel =
      (Loop.run (copyRound file) fuel { fp := { rest := bytes } }).map
        fun s => (s.ret, s.passed) := by
  unfold addFileContentToZip
  simp [hpath, hcontent]

/-- The copy ends unless the file gets stuck. -/
private theorem copyEnds_iff : CopyEnds file ↔ ¬GetsStuck file := by
  by_cases hopened : file.pathIsValid = false ∨ file.content = none
  · have hends : CopyEnds file := ⟨0, by rw [addFileContentToZip_of_not_opened file 0 hopened]; rfl⟩
    apply iff_of_true hends
    intro ⟨hpath, bytes, hcontent, _⟩
    rcases hopened with hinvalid | hnone
    · rw [hpath] at hinvalid
      exact absurd hinvalid (by simp)
    · rw [hcontent] at hnone
      exact absurd hnone (by simp)
  · obtain ⟨hpath, hsome⟩ := not_or.mp hopened
    rw [Bool.not_eq_false] at hpath
    obtain ⟨bytes, hcontent⟩ := Option.ne_none_iff_exists'.mp hsome
    have hstuck : GetsStuck file ↔ ∃ n, StuckAt file bytes n := by
      simp [GetsStuck, hpath, hcontent]
    rw [hstuck, ← diverges_iff_stuck, Loop.Diverges, CopyEnds, not_forall]
    simp [addFileContentToZip_of_opened file _ hpath hcontent, Option.isSome_iff_ne_none]

/-- What has been passed on is the file, since a read that fails ends the loop with `false`. -/
private theorem copiesFile : CopiesFile file := by
  intro fuel passed h
  by_cases hopened : file.pathIsValid = false ∨ file.content = none
  · rw [addFileContentToZip_of_not_opened file fuel hopened] at h
    exact absurd h (by simp)
  · obtain ⟨hpath, hsome⟩ := not_or.mp hopened
    rw [Bool.not_eq_false] at hpath
    obtain ⟨bytes, hcontent⟩ := Option.ne_none_iff_exists'.mp hsome
    rw [addFileContentToZip_of_opened file fuel hpath hcontent, Option.map_eq_some_iff] at h
    obtain ⟨last, hrun, hlast⟩ := h
    have hstart : CopyInvariant bytes { fp := { rest := bytes } } := ⟨rfl, by simp⟩
    obtain ⟨⟨hbytes, heof⟩, hend⟩ :=
      Loop.of_run_eq_some (fun _ _ => copyLoop_invariant file) hstart hrun
    rw [Prod.mk.injEq] at hlast
    -- `true` is returned only at the end of the file, where nothing is left.
    have hnil : last.fp.rest = [] := by
      rcases (copyRound_eq_none file).mp hend with hdone | hbroken
      · exact heof hdone
      · rw [hlast.1] at hbroken
        exact absurd hbroken (by simp)
    rw [hnil, List.append_nil, hlast.2] at hbytes
    rw [hcontent, hbytes]

/-- `AddFileContentToZip` comes to an end, with the whole file if it returns `true`, exactly
    for the files that do not get stuck. -/
theorem addFileContentToZip_iff_not_stuck :
    CopyEnds file ∧ CopiesFile file ↔ ¬GetsStuck file := by
  rw [copyEnds_iff, and_iff_left (copiesFile file)]

/-- A file that can be opened, on a disk that cannot be read. -/
def unreadableInput : ZipFileInput where
  content := some [104, 105]
  errors := fun _ => some 0

/-- An input that cannot be read. -/
theorem not_copyEnds_unreadableInput :
    ¬(CopyEnds unreadableInput ∧ CopiesFile unreadableInput) := by
  intro ⟨hends, _⟩
  have hstuck : StuckAt unreadableInput [104, 105] 0 :=
    ⟨rfl, fun m hm => absurd hm (Nat.not_lt_zero m), fun _ _ => rfl⟩
  exact (copyEnds_iff unreadableInput).mp hends ⟨rfl, _, rfl, 0, hstuck⟩

/-- Adding an entry comes to an end if it is not opened or its file does not get stuck. -/
theorem addFileEntryToZip_ends_iff :
    (∃ fuel, (addFileEntryToZip file fuel).isSome = true) ↔
      file.opens = false ∨ ¬GetsStuck file := by
  rw [← copyEnds_iff, CopyEnds]
  unfold addFileEntryToZip
  cases file.opens <;> simp

/-- An entry is added with `true` only if it holds the whole file and was closed. -/
theorem addFileEntryToZip_eq_true {fuel : Nat} {passed : List UInt8}
    (h : addFileEntryToZip file fuel = some (true, passed)) :
    file.opens = true ∧ file.closes = true ∧ file.content = some passed := by
  unfold addFileEntryToZip at h
  split at h
  · exact absurd h (by simp)
  · rename_i hopens
    obtain ⟨⟨ret, bytes⟩, hcopy, hclose⟩ := Option.map_eq_some_iff.mp h
    dsimp only at hclose
    split at hclose
    · exact absurd hclose (by simp)
    · rename_i hcloses
      rw [Prod.mk.injEq] at hclose
      rw [hclose.1, hclose.2] at hcopy
      exact ⟨by simpa using hopens, by simpa using hcloses, copiesFile file fuel passed hcopy⟩

end HiDumper.Spec
