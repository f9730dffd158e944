import HiDumper.ForStd.Loops

/-!
# Copying a file into an archive

Model of `ZipWriter::AddFileEntryToZip` and `ZipWriter::AddFileContentToZip` in
`util/zip/zip_writer.cpp`, with `fread` on a file as the C library has it: it reads until the
buffer is full, and where it returns less it has set the end-of-file or the error indicator.
What the file holds, where reads fail and what the archive answers are inputs.
-/

namespace HiDumper.Native

/-- `ZIP_BUF_SIZE`. -/
def zipBufSize : Nat := 8192

/-! ## Reading -/

/-- A file that is open for reading: the bytes that are left, the indicators of the stream,
    and how many reads there were. -/
structure FileStream where
  rest : List UInt8
  eof : Bool := false
  error : Bool := false
  reads : Nat := 0
  deriving DecidableEq, Repr

/-- Where reads fail: `errors n = some k` if the `n`-th `fread` can get no more than `k`
    bytes because the file cannot be read there. -/
abbrev ReadErrors := Nat → Option Nat

/-- `fread(buf, 1, size, fp)`: what is in the buffer, and the stream. A failure behind the
    bytes that are asked for, or behind the end of the file, is not met. -/
def FileStream.fread (errors : ReadErrors) (size : Nat) (fp : FileStream) :
    List UInt8 × FileStream :=
  match (errors fp.reads).filter fun k => k < size && k ≤ fp.rest.length with
  | some k =>
    (fp.rest.take k, { fp with rest := fp.rest.drop k, error := true, reads := fp.reads + 1 })
  | none =>
    (fp.rest.take size,
      { fp with
        rest := fp.rest.drop size
        eof := fp.eof || fp.rest.length < size
        reads := fp.reads + 1 })

/-! ## Copying -/

/-- What happens to a file that is added. -/
structure ZipFileInput where
  /-- `DumpUtils::PathIsValid`. -/
  pathIsValid : Bool := true
  /-- The bytes of the file, `none` if `fopen` fails. -/
  content : Option (List UInt8)
  errors : ReadErrors := fun _ => none
  /-- `zipWriteInFileInZip` returns `ZIP_OK` for the bytes of the `n`-th read. -/
  accepts : Nat → Bool := fun _ => true
  /-- `OpenNewFileEntry`. -/
  opens : Bool := true
  /-- `CloseNewFileEntry`. -/
  closes : Bool := true

namespace ZipWriter

/-- The loop of `AddFileContentToZip`: the stream, the bytes that were passed to
    `zipWriteInFileInZip`, and `ret`. -/
structure CopyLoop where
  fp : FileStream
  passed : List UInt8 := []
  ret : Bool := true
  deriving DecidableEq, Repr

/-- `while (!feof(fp))`. `ret` is only cleared in front of the `break`. -/
def copyRound (file : ZipFileInput) (s : CopyLoop) : Option CopyLoop :=
  if s.fp.eof || !s.ret then none
  else
    let (buf, fp) := s.fp.fread file.errors zipBufSize
    if buf.length < 1 then some { s with fp := fp }
    else
      let s' := { s with fp := fp, passed := s.passed ++ buf }
      some (if !file.accepts s.fp.reads then { s' with ret := false } else s')

/-- `ZipWriter::AddFileContentToZip`: the result and the bytes that were passed on; `none`
    if the fuel does not suffice. -/
def addFileContentToZip (file : ZipFileInput) (fuel : Nat) : Option (Bool × List UInt8) :=
  if !file.pathIsValid then some (false, [])
  else
    match file.content with
    | none => some (false, [])
    | some bytes =>
      (Loop.run (copyRound file) fuel { fp := { rest := bytes } }).map fun s => (s.ret, s.passed)

/-- `ZipWriter::AddFileEntryToZip`. -/
def addFileEntryToZip (file : ZipFileInput) (fuel : Nat) : Option (Bool × List UInt8) :=
  if !file.opens then some (false, [])
  else
    (addFileContentToZip file fuel).map fun (ret, passed) =>
      if !file.closes then (false, passed) else (ret, passed)

end ZipWriter

end HiDumper.Native
