import HiDumper.Native.DumpMain
import HiDumper.Native.DumpManagerService
import HiDumper.Native.RawParam

/-!
# The client's descriptor

Model of one `DumpManagerService::Request` from the point of view of `outfd`: who holds
it, and who closes it. `RawParam` owns it once the request is admitted; the context of the
new structure wraps it in a `UniqueFd`; executors of the legacy structure are given it, or
open a file and keep the descriptor in a member. Files that a function opens and closes
without handing the descriptor on are left out.
-/

namespace HiDumper.Native

/-! ## Descriptors -/

/-- The open descriptors of the process, and what has been closed so far. -/
structure FdTable where
  opened : List Int
  closes : List Int := []
  deriving DecidableEq, Repr

namespace FdTable

/-- `close` and `fdsan_close_with_tag`. -/
def close (table : FdTable) (fd : Int) : FdTable :=
  ⟨table.opened.erase fd, table.closes ++ [fd]⟩

/-- `open`, where the system has picked `choice`. What is open is not given out again. -/
def openFile (table : FdTable) (choice : Int) : Int × FdTable :=
  if 0 ≤ choice ∧ choice ∉ table.opened then
    (choice, { table with opened := choice :: table.opened })
  else (-1, table)

end FdTable

/-- `UniqueFd`, which belongs to another repository. -/
structure UniqueFd where
  /-- What the destructor closes. -/
  closes : Int → List Int
  closes_valid : ∀ fd, 0 ≤ fd → closes fd = [fd]

/-! ## Executors -/

/-- The executors that keep a descriptor in a member. -/
inductive FdKind where
  /-- `SADumper` and `MemoryDumper`. -/
  | logDumper
  /-- `FileStreamDumper` and `EventDetailDumper`. -/
  | fileDumper
  | zipFolderOutput
  | other
  deriving DecidableEq, Repr

/-- The kind of a class. `FDOutput` has no file to open (`SetOutputFilePath` has no caller). -/
def fdKind (isZip : Bool) : DumperConstant → FdKind
  | .saDumper | .memoryDumper => .logDumper
  | .fileDumper | .eventDetailDumper => .fileDumper
  | .fdOutput => if isZip then .zipFolderOutput else .other
  | _ => .other

/-- The members of an executor that have to do with its descriptor. -/
structure FdHolder where
  kind : FdKind
  fd : Int := -1
  /-- `isZip_` of the dumpers. -/
  isZip : Bool := false
  /-- `logDefaultPath_` of `ZipFolderOutput` is set. -/
  initialised : Bool := false
  deriving DecidableEq, Repr

/-- What `DumpDatas` makes an executor do, with what `open` and `fdopen` return then. -/
inductive FdCall where
  | preExecute (choice : Int)
  /-- `OpenNextFile` and `ReadSingleLogFile`. -/
  | openNextFile (choice : Int) (fdopens : Bool)
  | closeFd
  | reset
  deriving DecidableEq, Repr

namespace FdHolder

/-- `CloseFd`, and the part of `ZipFolderOutput::Reset` and its destructor that closes. -/
def closeFd (holder : FdHolder) (table : FdTable) : FdHolder × FdTable :=
  if 0 ≤ holder.fd then ({ holder with fd := -1 }, table.close holder.fd) else (holder, table)

variable (isZip : Bool) (outfd : Int)

def call (holder : FdHolder) (table : FdTable) : FdCall → FdHolder × FdTable
  | .preExecute choice =>
    match holder.kind with
    | .logDumper =>
      if isZip then
        let (fd, table) := table.openFile choice
        ({ holder with isZip := true, fd := fd }, table)
      else ({ holder with isZip := false, fd := outfd }, table)
    | .zipFolderOutput =>
      if holder.initialised then (holder, table)
      else
        let (fd, table) := table.openFile choice
        ({ holder with initialised := true, fd := fd }, table)
    | _ => (holder, table)
  | .openNextFile choice fdopens =>
    match holder.kind with
    | .fileDumper =>
      let (holder, table) := holder.closeFd table
      let (fd, table) := table.openFile choice
      if fd = -1 then ({ holder with fd := -1 }, table)
      else if fdopens then ({ holder with fd := fd }, table)
      else ({ holder with fd := -1 }, table.close fd)
    | _ => (holder, table)
  | .closeFd =>
    match holder.kind with
    | .fileDumper => holder.closeFd table
    | _ => (holder, table)
  | .reset =>
    match holder.kind with
    | .zipFolderOutput => holder.closeFd table
    | _ => (holder, table)

/-- The destructor. -/
def destroy (table : FdTable) (holder : FdHolder) : FdTable :=
  match holder.kind with
  | .logDumper => if holder.isZip ∧ 0 ≤ holder.fd then table.close holder.fd else table
  | .fileDumper | .zipFolderOutput => (holder.closeFd table).2
  | .other => table

end FdHolder

/-- The executors of a list: one for each dumper, one for all outputs. -/
def fdHolders (isZip : Bool) (executors : List DumpCfg) : List FdHolder :=
  let dumpers := executors.filter fun cfg => cfg.cls ≠ .fdOutput
  let outputs := (executors.filter fun cfg => cfg.cls = .fdOutput).take 1
  (dumpers ++ outputs).map fun cfg => { kind := fdKind isZip cfg.cls }

/-- A call on the executor at a position. -/
def callAt (isZip : Bool) (outfd : Int) (s : List FdHolder × FdTable) (call : Nat × FdCall) :
    List FdHolder × FdTable :=
  match s.1[call.1]? with
  | none => s
  | some holder =>
    let (holder, table) := holder.call isZip outfd s.2 call.2
    (s.1.set call.1 holder, table)

/-- `DumpDatas` on a list of executors and their destruction. -/
def dumpFds (isZip : Bool) (outfd : Int) (calls : List (Nat × FdCall)) (holders : List FdHolder)
    (table : FdTable) : FdTable :=
  let (holders, table) := calls.foldl (callAt isZip outfd) (holders, table)
  holders.foldl FdHolder.destroy table

/-! ## The request -/

/-- `DumpImplement::IsNewStructSupport`, as it stands. -/
def isNewStructSupport (_ : DumperOpts) : Bool := false

/-- What a request finds. -/
structure OutFdEnv (Str16 : Type) where
  codec : Str16Codec Str16
  ctx : CmdContext
  uniqueFd : UniqueFd
  /-- `IsNewStructSupport`, with either answer. -/
  isNewStructSupport : DumperOpts → Bool
  /-- What `DumpDatas` makes the executors do, one after the other. -/
  calls : List (Nat × FdCall)

namespace OutFdEnv

variable {Str16 : Type} (env : OutFdEnv Str16)

/-- `DumpImplement::Main`. -/
def main (argv : List String) (outfd : Int) (table : FdTable) : FdTable :=
  match cmdParse env.ctx argv with
  | .error _ => table
  | .ok opts =>
    if env.isNewStructSupport opts then
      -- The context is destroyed when `Main` returns what `StartDump` returns.
      (env.uniqueFd.closes outfd).foldl FdTable.close table
    else
      let configs := (ConfigUtils.getDumperConfigs .builtin env.ctx.sys
        ⟨opts, env.ctx.uid⟩).getD []
      let executors := setExecutorList env.ctx.build (configs.map (·.cfg))
      if configs.isEmpty || executors.isEmpty then table
      else dumpFds opts.isDumpZip outfd env.calls (fdHolders opts.isDumpZip executors) table

/-- `RawParam::CloseOutputFd`: the new `outfd_`. -/
def closeOutputFd (outfd : Int) (table : FdTable) : Int × FdTable :=
  (-1, if outfd > -1 then table.close outfd else table)

/-- The arguments that `RequestMain` hands to `Main`. -/
def argv (args : List Str16) : List String :=
  let rawParam := ArgTable.init env.codec env.ctx.sys.strings args
  (rawParam.getArgv.take rawParam.getArgc).filterMap id

/-- `DumpManagerService::RequestMain` and the destructor of the `RawParam`. -/
def requestMain (args : List Str16) (outfd : Int) (table : FdTable) : FdTable :=
  let argC := (ArgTable.init env.codec env.ctx.sys.strings args).getArgc
  let table := if 0 < argC then env.main (env.argv args) outfd table else table
  let (outfd, table) := closeOutputFd outfd table
  (closeOutputFd outfd table).2

/-- The part of `DumpManagerService::HandleRequestError` that closes. -/
def handleRequestError (outfd : Int) (table : FdTable) : FdTable :=
  if outfd > -1 then table.close outfd else table

/-- `DumpManagerService::Request`. -/
def request (service : DumpManagerService) (hasDumpPermission : Bool) (args : List Str16)
    (outfd : Int) (table : FdTable) : FdTable :=
  if service.blockRequest then handleRequestError outfd table
  else if !service.started then handleRequestError outfd table
  else if !hasDumpPermission then handleRequestError outfd table
  else if service.getRequestSum ≥ requestMax then handleRequestError outfd table
  else env.requestMain args outfd table

end OutFdEnv

end HiDumper.Native
