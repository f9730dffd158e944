import HiDumper.ForStd.Loops
import HiDumper.Native.ConfigUtils
import Mathlib.Algebra.GroupWithZero.Nat

/-!
# Executors: commands, files, filters

Model of `executor/cmd_dumper.cpp`, `executor/file_stream_dumper.cpp` and
`executor/file_format_dump_filter.cpp` for a request that is not cancelled. A `FILE*` is
the text that is still to be read and the end-of-file flag; reading has no errors. Where a
function appends rows to the `StringMatrix` it was given, the model returns these rows.
-/

namespace HiDumper.Native

/-- A row of a `StringMatrix`. -/
abbrev Row := List String

/-- What the executors see of the system. -/
structure DumpEnv where
  /-- The names that `readdir` gives; `none` if `opendir` fails. -/
  readDir : String → Option (List String)
  /-- The content of a file that `FdToRead` and `fdopen` open. -/
  openFile : String → Option String
  /-- What a command that `popen` starts prints. -/
  runCmd : String → Option String
  /-- `DumpCommonUtils::IsUserPid`. -/
  isUserPid : String → Bool
  /-- `DumpUtils::IsUserMode`. -/
  isUserMode : Bool

/-! ## Streams -/

/-- A `FILE*` open for reading. -/
structure Stream where
  rest : List Char
  eof : Bool := false
  deriving DecidableEq, Repr

namespace Stream

/-- `getline`: what it reads, with the line break. Nothing read is -1. -/
def getline (fp : Stream) : List Char × Stream :=
  match fp.rest.dropWhile (· ≠ '\n') with
  | [] => (fp.rest, ⟨[], true⟩)
  | _ :: after => (fp.rest.takeWhile (· ≠ '\n') ++ ['\n'], ⟨after, false⟩)

/-- The C string in the line buffer after its line break was replaced by a NUL. -/
def lineText (line : List Char) : List Char :=
  (line.takeWhile (· ≠ '\n')).takeWhile (· ≠ '\x00')

/-- What is read is part of what there was to read. -/
private theorem length_getline (fp : Stream) :
    (fp.getline).1.length + (fp.getline).2.rest.length = fp.rest.length := by
  have hsplit := congrArg List.length (List.takeWhile_append_dropWhile (p := (· ≠ '\n')) (l := fp.rest))
  rw [List.length_append] at hsplit
  unfold getline
  split
  · simp
  · rename_i hdrop
    rw [hdrop, List.length_cons] at hsplit
    simp only [List.length_append, List.length_singleton]
    omega

end Stream

/-! ## Strings -/

/-- Replace `count` characters from the first occurrence of `pattern` on. -/
def replaceFirst (pattern replacement : List Char) (count : Nat) : List Char → List Char
  | [] => []
  | c :: cs =>
    if pattern.isPrefixOf (c :: cs) then replacement ++ (c :: cs).drop count
    else c :: replaceFirst pattern replacement count cs

/-- Replace the first occurrence of a placeholder by a number. -/
def replacePlaceholder (placeholder : String) (value : Int) (str : String) : String :=
  String.ofList (replaceFirst placeholder.toList (toString value).toList placeholder.toList.length
    str.toList)

/-- `CMDDumper::ReplacePidInCmd` and `FileStreamDumper::ReplacePidInFilename`. -/
def replacePid (pid : Int) (str : String) : String := replacePlaceholder "%pid" pid str

/-- `CMDDumper::ReplaceCpuIdInCmd` and `FileStreamDumper::ReplaceCpuidInFilename`. -/
def replaceCpuId (cpuId : Int) (str : String) : String := replacePlaceholder "%cpuid" cpuId str

/-- The pid and then the cpu of the arguments, if there are any, put into a target. -/
def replaceArgs (args : Option OptionArgs) (target : String) : String :=
  match args with
  | none => target
  | some args =>
    let target := if args.hasPid then replacePid args.pid target else target
    if args.hasCpuId then replaceCpuId args.cpuId target else target

/-! ## CMDDumper -/

/-- `CMDDumper`. -/
structure CMDDumper where
  cmd : String := ""
  fp : Option Stream := none
  /-- `lineData_` is not empty. -/
  hasLineData : Bool := false
  moreData : Bool := false
  needLoop : Bool := false

namespace CMDDumper

/-- `CMD_PREFIX`. -/
def cmdPrefix : String := "/system/bin/"

/-- The row that `PreExecute` adds once. -/
def header (cmd : String) : Row := ["\ncmd is: " ++ cmd ++ "\n\n"]

/-- `CMDDumper::PreExecute`. -/
def preExecute (env : DumpEnv) (cfg : DumpCfg) (st : CMDDumper) :
    DumpStatus × List Row × CMDDumper :=
  if cfg.args.any fun args => args.hasPid && cfg.name = "dumper_stack" &&
      !env.isUserPid (toString args.pid) then (.dumpFail, [], st)
  else
    let cmd := replaceArgs cfg.args cfg.target
    let st := { st with cmd := cmd, needLoop := cfg.loop = .loop }
    match st.fp.or ((env.runCmd (cmdPrefix ++ cmd)).map fun text => ⟨text.toList, false⟩) with
    | none => (.dumpFail, [], st)
    | some fp =>
      let st := { st with fp := some fp }
      if st.hasLineData then (.dumpOk, [], st)
      else (.dumpOk, [header cmd], { st with hasLineData := true })

/-- `CMDDumper::ReadLineInCmd` with `GetLineData`. -/
def readLineInCmd (st : CMDDumper) : DumpStatus × List Row × CMDDumper :=
  match st.fp with
  | none => (.dumpFail, [], st)
  | some fp =>
    let (line, fp) := fp.getline
    let st := { st with fp := some fp }
    if line ≠ [] then
      (.dumpMoreData, [[String.ofList (Stream.lineText line)]], { st with moreData := true })
    else (if fp.eof then .dumpOk else .dumpFail, [], { st with moreData := false })

/-- The lines of a command as a source. -/
def source : Source CMDDumper DumpStatus Row where
  read := readLineInCmd
  more ret := ret = .dumpMoreData
  size st := (st.fp.map (·.rest.length)).getD 0
  size_read_lt st h := by
    unfold readLineInCmd at h ⊢
    cases hfp : st.fp with
    | none => simp [hfp] at h
    | some fp =>
      simp only [hfp] at h ⊢
      have hlength := fp.length_getline
      by_cases hline : fp.getline.1 = []
      · rw [if_neg (by simp [hline])] at h
        split at h <;> simp at h
      · rw [if_pos (by simpa using hline)]
        have hpos := List.length_pos_of_ne_nil hline
        simp only [Option.map_some, Option.getD_some]
        omega

/-- `CMDDumper::Execute`: one line, or all of them. -/
def execute (st : CMDDumper) : DumpStatus × List Row × CMDDumper :=
  if st.needLoop then st.readLineInCmd else source.drain st

/-- `CMDDumper::AfterExecute`. -/
def afterExecute (st : CMDDumper) : DumpStatus × CMDDumper :=
  if !st.moreData then (.dumpOk, { st with fp := none }) else (.dumpMoreData, st)

end CMDDumper

/-! ## FileStreamDumper -/

/-- `FileStreamDumper`. -/
structure FileStreamDumper where
  filenames : List String := []
  fp : Option Stream := none
  nextFileIndex : Nat := 0
  moreData : Bool := false
  needLoop : Bool := false
  needHideAddr : Bool := false

namespace FileStreamDumper

/-- The file whose addresses are hidden in user mode. -/
def binderState : String := "/sys/kernel/debug/binder/state"

/-- `FileStreamDumper::BuildFileNames`. -/
def buildFileNames (env : DumpEnv) (target : String) (args : Option OptionArgs) : List String :=
  match env.readDir target with
  | some names =>
    let dirName := if target.toList.getLast? = some '/' then target else target ++ "/"
    (names.filter fun name => name ≠ "." && name ≠ "..").map fun name =>
      replaceArgs args (dirName ++ name)
  | none => [replaceArgs args target]

/-- The rows that `OpenNextFile` adds. -/
def header (filename : String) : List Row := [[""], [filename], [""]]

/-- `FileStreamDumper::OpenNextFile`: 0 if there is no file left, -1 if the next one cannot
    be opened, else its number. -/
def openNextFile (env : DumpEnv) (st : FileStreamDumper) : Int × List Row × FileStreamDumper :=
  let st := { st with fp := none }
  match st.filenames[st.nextFileIndex]? with
  | none => (0, [], st)
  | some filename =>
    match env.openFile filename with
    | none => (-1, [], st)
    | some content =>
      (st.nextFileIndex + 1, header filename,
        { st with fp := some ⟨content.toList, false⟩, nextFileIndex := st.nextFileIndex + 1 })

/-- `FileStreamDumper::PreExecute`. -/
def preExecute (env : DumpEnv) (cfg : DumpCfg) (st : FileStreamDumper) :
    DumpStatus × List Row × FileStreamDumper :=
  if st.nextFileIndex = 0 then
    let st := { st with
      needHideAddr := cfg.target = binderState || st.needHideAddr
      filenames := st.filenames ++ buildFileNames env cfg.target cfg.args
      needLoop := cfg.loop = .loop }
    let (ret, rows, st) := openNextFile env st
    if ret ≤ 0 then (.dumpFail, rows, st) else (.dumpOk, rows, st)
  else (.dumpOk, [], st)

/-- `FileStreamDumper::ReplaceAddresses`. -/
def replaceAddresses (line : List Char) : List Char :=
  let replacement := ": u0000000000000000 c0000000000000000".toList
  replaceFirst ": u".toList replacement replacement.length line

/-- The text of a line in the result. -/
def lineText (env : DumpEnv) (needHideAddr : Bool) (line : List Char) : String :=
  String.ofList (if needHideAddr && env.isUserMode then replaceAddresses (Stream.lineText line)
    else Stream.lineText line)

/-- `FileStreamDumper::ReadLineInFile`. -/
def readLineInFile (env : DumpEnv) (st : FileStreamDumper) :
    DumpStatus × List Row × FileStreamDumper :=
  match st.fp with
  | none => (.dumpFail, [], st)
  | some fp =>
    let (line, fp) := fp.getline
    let rows := if line ≠ [] then [[lineText env st.needHideAddr line]] else []
    let st := { st with fp := some fp }
    if fp.eof then
      let (moreFile, names, st) := openNextFile env st
      let ret : DumpStatus :=
        if moreFile > 0 then .dumpMoreData else if moreFile = 0 then .dumpOk else .dumpFail
      (ret, rows ++ names, { st with moreData := ret = .dumpMoreData })
    else
      let ret : DumpStatus := if line ≠ [] then .dumpMoreData else .dumpFail
      (ret, rows, { st with moreData := ret = .dumpMoreData })

/-- The characters left, with one more for each file. -/
def size (env : DumpEnv) (st : FileStreamDumper) : Nat :=
  (st.fp.map (·.rest.length)).getD 0 +
    ((st.filenames.drop st.nextFileIndex).map fun filename =>
      ((env.openFile filename).getD "").toList.length + 1).sum

/-- Opening a file moves its characters to the stream. -/
private theorem size_openNextFile {env : DumpEnv} {st : FileStreamDumper}
    (h : 0 < (st.openNextFile env).1) :
    (st.openNextFile env).2.2.size env + 1 = { st with fp := none }.size env := by
  unfold openNextFile at h ⊢
  dsimp only at h ⊢
  cases hname : st.filenames[st.nextFileIndex]? with
  | none => simp [hname] at h
  | some filename =>
    simp only [hname] at h ⊢
    cases hopen : env.openFile filename with
    | none => simp [hopen] at h
    | some content =>
      obtain ⟨hlt, hget⟩ := List.getElem?_eq_some_iff.mp hname
      simp only [size, Option.map_some, Option.getD_some, Option.map_none, Option.getD_none]
      rw [List.drop_eq_getElem_cons hlt, hget]
      simp only [List.map_cons, List.sum_cons, hopen, Option.getD_some]
      omega

/-- The lines of all files as a source. -/
def source (env : DumpEnv) : Source FileStreamDumper DumpStatus Row where
  read := readLineInFile env
  more ret := ret = .dumpMoreData
  size := size env
  size_read_lt st h := by
    unfold readLineInFile at h ⊢
    cases hfp : st.fp with
    | none => simp [hfp] at h
    | some fp =>
      simp only [hfp] at h ⊢
      have hlength := fp.length_getline
      by_cases heof : fp.getline.2.eof = true
      · -- The next file is open now.
        simp only [heof, if_true] at h ⊢
        split at h
        · rename_i hopened
          have hsize := size_openNextFile hopened
          have hrest : { st with fp := none }.size env ≤ st.size env := by
            simp [size]
          exact Nat.lt_of_lt_of_le (Nat.lt_of_succ_le (Nat.le_of_eq hsize)) hrest
        · split at h <;> simp at h
      · rw [if_neg heof] at h ⊢
        by_cases hline : fp.getline.1 = []
        · simp [hline] at h
        · have hpos := List.length_pos_of_ne_nil hline
          simp only [size, hfp, Option.map_some, Option.getD_some]
          omega

/-- `FileStreamDumper::Execute`: one line, or all of them. -/
def execute (env : DumpEnv) (st : FileStreamDumper) : DumpStatus × List Row × FileStreamDumper :=
  if st.needLoop then st.readLineInFile env else (source env).drain st

/-- `FileStreamDumper::AfterExecute`. -/
def afterExecute (cfg : DumpCfg) (st : FileStreamDumper) : DumpStatus × FileStreamDumper :=
  if !st.moreData then
    (.dumpOk, { st with
      fp := none
      needHideAddr := if cfg.target = binderState then false else st.needHideAddr })
  else (.dumpMoreData, st)

end FileStreamDumper

/-! ## Filters -/

/-- The loop of `FileFormatDumpFilter::FilterControlChar`, where `skip` is true inside a
    control sequence. -/
def filterControlChars : Bool → List Char → List Char
  | _, [] => []
  | skip, c :: cs =>
    let skip := if !skip && c = '\x1b' && cs ≠ [] then cs.head? = some '[' else skip
    if skip && c.isAlpha then filterControlChars false cs
    else if skip || c = '\r' || c = '\n' then filterControlChars skip cs
    else c :: filterControlChars skip cs

/-- `FileFormatDumpFilter::FilterControlChar`. -/
def filterControlChar (str : String) : String :=
  String.ofList (filterControlChars false str.toList)

end HiDumper.Native
