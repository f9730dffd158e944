import HiDumper.ForStd.UnorderedMap
import HiDumper.Native.DumpImplement

/-!
# DumpImplement::Main: concurrent calls on the singleton

Model of `DumpImplement::Main` in `manager/dump_implement.cpp`. Every request has a
thread and options of its own; what the calls share is the member `path_` of the
singleton. `InitHandle` holds `mutexCmdLock_` and is one step. The part up to
`SetTitle` and `DumpDatas` run without the lock and are a step each. The usage events
are not modelled, and of `DumpDatas` only what concerns the archive.
-/

namespace HiDumper.Native

section Path

variable (ctx : CmdContext)

/-- What a turn of the loop of `CmdParseWithParameter` that does not fail leaves in
    `path_`. -/
def setPath (result : GetoptResult) (path : String) : String :=
  match result.code with
  | .long name _ => if name = "zip" then zipFolder ++ ctx.time ++ ".zip" else path
  | _ => path

/-- `path_` after the loop, which ends at the first turn that fails. -/
def pathAfterLoop (argv : List String) : List GetoptResult → DumperOpts → String → String
  | [], _, path => path
  | result :: results, opts, path =>
    match parseOption ctx argv opts result with
    | .error _ => path
    | .ok opts => pathAfterLoop argv results opts (setPath ctx result path)

/-- `path_` after `CmdParse`. -/
def pathAfterCmdParse (argv : List String) (path : String) : String :=
  if checkArgs argv then
    pathAfterLoop ctx argv
      (getoptLong (longOptions ctx.build) (optStr.toList.drop 1) 1 (argv.drop 1)) {} path
  else path

end Path

/-! ## Executors -/

/-- The classes that `AddExecutorFactoryToMap` has a factory for. -/
def executorFactories (build : Build) : List DumperConstant :=
  (if build.hiviewEnable then [.cpuDumper] else []) ++
  [.fileDumper, .envParamDumper, .cmdDumper, .apiDumper, .propertiesDumper, .listDumper,
    .versionDumper, .saDumper, .columnRowsFilter, .fileFormatDumpFilter, .group, .memoryDumper,
    .jsheapMemoryDumper, .cjheapMemoryDumper, .heapMemoryDumper, .eventListDumper,
    .eventDetailDumper, .fdThreadDumper, .trafficDumper, .ipcStatDumper]

/-- `DumpImplement::setExecutorList`: the configurations that get an executor. -/
def setExecutorList (build : Build) (configs : List DumpCfg) : List DumpCfg :=
  configs.filter fun cfg => cfg.cls = .fdOutput || (executorFactories build).contains cfg.cls

/-! ## Calls -/

/-- Where a call of `Main` stands. -/
inductive MainPhase where
  /-- `InitHandle` has returned `DUMP_OK`. -/
  | handled (build : Build) (opts : DumperOpts) (configs : List DumpCfg)
  /-- The title is set. -/
  | titled (opts : DumperOpts) (executors : List DumpCfg) (title : String)
  /-- `DumpDatas` has returned. `archive` is the file that `ZipFolderOutput` wrote. -/
  | done (opts : DumperOpts) (title : String) (archive : Option String)

/-- The singleton and the calls on it, by thread. -/
structure DumpCalls where
  path : String := ""
  calls : UnorderedMap Nat MainPhase := ∅

/-- How far the output executors of a call got. -/
inductive OutputResult where
  /-- The request was cancelled before the first of them. -/
  | unused
  /-- The log file could not be created. -/
  | failed
  | written
  deriving DecidableEq, Repr

namespace DumpCalls

inductive Action where
  /-- `InitHandle`, with `mutexCmdLock_` held. -/
  | initHandle (thread : Nat) (ctx : CmdContext) (argv : List String)
  /-- `Main` from the return of `InitHandle` up to `SetTitle`. -/
  | setTitle (thread : Nat)
  | dumpDatas (thread : Nat) (output : OutputResult)

/-- The title that announces the archive. -/
def resultTitle (path : String) : String := ",The result is:" ++ path

/-- The title that `SetZipTitle` sets. -/
def failedTitle : String := ",Failed to create the file."

/-- No call is in progress on the thread. -/
def isIdle (s : DumpCalls) (thread : Nat) : Bool :=
  match s.calls.lookup thread with
  | none | some (.done _ _ _) => true
  | _ => false

def step (s : DumpCalls) : Action → Option DumpCalls
  | .initHandle thread ctx argv =>
    if s.isIdle thread then
      -- A request that is turned down may have written `path_` as well.
      let path := pathAfterCmdParse ctx argv s.path
      match cmdParse ctx argv with
      | .error _ => some ⟨path, s.calls.erase thread⟩
      | .ok opts =>
        let configs := (ConfigUtils.getDumperConfigs .builtin ctx.sys ⟨opts, ctx.uid⟩).getD []
        some ⟨path, s.calls.insert thread (.handled ctx.build opts (configs.map (·.cfg)))⟩
    else none
  | .setTitle thread =>
    match s.calls.lookup thread with
    | some (.handled build opts configs) =>
      let executors := setExecutorList build configs
      if configs.isEmpty || executors.isEmpty then some { s with calls := s.calls.erase thread }
      else
        let title := if opts.isDumpZip then resultTitle s.path else ""
        some { s with calls := s.calls.insert thread (.titled opts executors title) }
    | _ => none
  | .dumpDatas thread output =>
    match s.calls.lookup thread with
    | some (.titled opts executors title) =>
      if output ≠ .unused && !executors.any (·.cls = .fdOutput) then none
      else
        let title := if opts.isDumpZip && output = .failed then failedTitle else title
        -- `ZipFolderOutput::Reset` packs the folder also when the log file is missing.
        let archive := if opts.isDumpZip && output ≠ .unused then some opts.path else none
        some { s with calls := s.calls.insert thread (.done opts title archive) }
    | _ => none

end DumpCalls

end HiDumper.Native
