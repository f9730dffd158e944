import HiDumper.Native.DumpDatas
import HiDumper.Native.DumpMain

/-!
# Progress and archive of a zip request

Model of `DumpImplement::DumpDatas` for a request with `--zip`, with the progress that
`RawParam::UpdateProgress` shows and the archive that `ZipFolderOutput::Reset` makes. All
`FD_OUTPUT` items of the list share one `ZipFolderOutput`. What the other executors
return, and when the request is cancelled, is an input; the rows are left out, as are
sizes that a `uint32_t` does not hold.
-/

namespace HiDumper.Native

/-! ## RawParam -/

/-- What can be seen of a zip request: the percentages and titles that the client gets, and
    the calls of `ZipUtils::ZipFolder`. -/
inductive ZipEvent where
  | percent (progress : Nat) (tick : Char)
  | title (path : String)
  | zipFolder (srcPath dstFile : String)
  deriving DecidableEq, Repr

/-- The members of `RawParam` that have to do with progress. -/
structure ProgressParam where
  outfd : Int
  folder : String
  path : String := ""
  progressEnabled : Bool := false
  progressTick : Nat := 0
  progress : Nat := 0
  events : List ZipEvent := []
  deriving DecidableEq, Repr

namespace ProgressParam

/-- `FINISH`. -/
def finish : Nat := 100

/-- `PROGRESS_TICK`. -/
def ticks : List Char := ['-', '\\', '|', '/']

def emit (event : ZipEvent) (callback : ProgressParam) : ProgressParam :=
  { callback with events := callback.events ++ [event] }

/-- `RawParam::UpdateProgress(progress)`. -/
def updateProgress (progress : Nat) (callback : ProgressParam) : ProgressParam :=
  if !callback.progressEnabled || callback.outfd < 0 || progress > finish then callback
  else
    let callback := { callback with
      progress := max progress callback.progress
      progressTick := (callback.progressTick + 1) % ticks.length }
    let callback := callback.emit
      (.percent callback.progress (ticks[callback.progressTick]?.getD '-'))
    if callback.progress = finish then callback.emit (.title callback.path) else callback

/-- `RawParam::UpdateProgress(total, current)`. -/
def updateProgressOf (total current : Nat) (callback : ProgressParam) : ProgressParam :=
  if !callback.progressEnabled || callback.outfd < 0 || total < 1 || total < current then callback
  else callback.updateProgress (finish * current / total)

end ProgressParam

/-! ## The archive -/

/-- A file for the archive: is the request cancelled when its turn comes, and can it be
    added? -/
structure ZipItem where
  canceled : Bool
  added : Bool
  deriving DecidableEq, Repr

/-- What `ZipFolder` finds. -/
structure ZipSource where
  directoryExists : Bool
  /-- The request is cancelled before the archive is opened. -/
  canceled : Bool
  opens : Bool
  closes : Bool
  items : List ZipItem
  deriving DecidableEq, Repr

/-- `ZipWriter::FlushItems` with the callback of `ZipFolderOutput::Reset`. -/
def flushItems : List ZipItem → ProgressParam → Bool × ProgressParam
  | [], callback => (true, callback)
  | item :: items, callback =>
    let callback := callback.updateProgress 0
    if item.canceled then (false, callback)
    else if !item.added then (false, callback)
    else flushItems items callback

/-- `ZipUtils::ZipFolder` with the callback of `ZipFolderOutput::Reset`. -/
def zipFolderTo (source : ZipSource) (srcPath dstFile : String) (callback : ProgressParam) :
    Bool × ProgressParam :=
  let callback := callback.emit (.zipFolder srcPath dstFile)
  if !source.directoryExists then (false, callback)
  else
    let callback := callback.updateProgress 0
    if source.canceled then (false, callback)
    else if !source.opens then (false, callback)
    else
      let (ret, callback) := flushItems source.items callback
      (ret && source.closes, callback)

/-! ## ZipFolderOutput -/

/-- The members of `ZipFolderOutput`. -/
structure ZipOutput where
  /-- `param_` is set. -/
  param : Bool := false
  logDefaultPath : String := ""
  fd : Int := -1
  deriving DecidableEq, Repr

namespace ZipOutput

/-- `LOG_DEFAULT`. -/
def logDefault : String := "log.txt"

/-- `ZipFolderOutput::PreExecute`. -/
def preExecute (fdToWrite : String → Int) (folder : String) (st : ZipOutput) :
    DumpStatus × ZipOutput :=
  let st := if st.logDefaultPath = "" then
      { param := true
        logDefaultPath := folder ++ logDefault
        fd := fdToWrite (folder ++ logDefault) }
    else st
  if st.fd < 0 then (.dumpFail, st) else (.dumpOk, st)

/-- `ZipFolderOutput::Execute`. -/
def execute (st : ZipOutput) : DumpStatus := if st.fd < 0 then .dumpFail else .dumpOk

/-- `ZipFolderOutput::Reset`. -/
def reset (source : ZipSource) (dstFile : String) (st : ZipOutput) (callback : ProgressParam) :
    ZipOutput × ProgressParam :=
  let st := { st with fd := -1 }
  if st.param then
    ({ st with param := false }, (zipFolderTo source callback.folder dstFile callback).2)
  else (st, callback)

end ZipOutput

/-! ## DumpDatas -/

/-- What happens in a round of `DumpDatas`, as far as it does not lie with the output. -/
structure RoundAnswer where
  canceled : Bool
  preExecute : DumpStatus
  execute : DumpStatus
  afterExecute : DumpStatus
  deriving DecidableEq, Repr

/-- What happens in the rounds of `DumpDatas`. Every dumper runs out of data. -/
structure RoundAnswers where
  answer : Nat → RoundAnswer
  lastMore : Nat
  runsOut : ∀ round, lastMore ≤ round → (answer round).afterExecute ≠ .dumpMoreData

/-- A request with `--zip` after its arguments have been read. -/
structure ZipRequest where
  outfd : Int
  folder : String
  opts : DumperOpts
  isDumpZip : opts.isDumpZip = true
  /-- For the pids that `CopySmaps` goes through: is the request cancelled by then? -/
  smaps : Option (List Bool)
  /-- `path_` of `DumpImplement`. -/
  path : String
  /-- The configurations of the executors. -/
  executors : List DumpCfg
  fdToWrite : String → Int
  answers : RoundAnswers
  source : ZipSource

/-- The variables of `DumpDatas`. -/
structure ZipDump where
  index : Nat := 0
  /-- The rounds so far. -/
  rounds : Nat := 0
  /-- `loopStack`, with its back first. -/
  loopStack : List Nat := []
  /-- The loop was left because the request is cancelled. -/
  canceled : Bool := false
  output : ZipOutput := {}
  callback : ProgressParam
  deriving DecidableEq, Repr

/-- The loop of `ConfigUtils::CopySmaps`. -/
def copySmaps : List Bool → ProgressParam → ProgressParam
  | [], callback => callback
  | canceled :: pids, callback =>
    if canceled then callback else copySmaps pids (callback.updateProgress 0)

namespace ZipRequest

variable (req : ZipRequest)

/-- `RawParam` when `DumpDatas` is called. -/
def start : ProgressParam :=
  let callback : ProgressParam := { outfd := req.outfd, folder := req.folder }
  let callback := match req.smaps with
    | none => callback
    | some pids => copySmaps pids { callback with progressEnabled := true }
  { callback with
    progressEnabled := req.opts.isDumpZip
    path := if req.opts.isDumpZip then DumpCalls.resultTitle req.path else "" }

/-- `HidumperExecutor::DoPreExecute`. -/
def doPreExecute (cfg : DumpCfg) (answer : RoundAnswer) (s : ZipDump) : DumpStatus × ZipDump :=
  if cfg.cls = .fdOutput then
    let (ret, output) := s.output.preExecute req.fdToWrite s.callback.folder
    (ret, { s with output := output })
  else (answer.preExecute, s)

/-- `HidumperExecutor::DoExecute`. -/
def doExecute (cfg : DumpCfg) (answer : RoundAnswer) (s : ZipDump) : DumpStatus :=
  if cfg.cls = .fdOutput then s.output.execute else answer.execute

/-- `HidumperExecutor::DoAfterExecute`. -/
def doAfterExecute (cfg : DumpCfg) (answer : RoundAnswer) : DumpStatus :=
  if cfg.cls = .fdOutput then .dumpOk else answer.afterExecute

/-- `DumpImplement::SetZipTitle`. -/
def setZipTitle (cfg : DumpCfg) (s : ZipDump) : ZipDump :=
  if cfg.cls = .fdOutput && req.opts.isDumpZip then
    { s with callback := { s.callback with path := DumpCalls.failedTitle } }
  else s

/-- Go on with the next executor. -/
def next (s : ZipDump) : ZipDump := { s with index := s.index + 1 }

/-- One round for the executor at `index`. -/
def turn (s : ZipDump) (cfg : DumpCfg) : ZipDump :=
  let answer := req.answers.answer s.rounds
  let s := { s with
    rounds := s.rounds + 1
    callback := s.callback.updateProgressOf req.executors.length s.index }
  if answer.canceled then { s with canceled := true }
  else
    let (ret, s) := req.doPreExecute cfg answer s
    if ret ≠ .dumpOk then next (req.setZipTitle cfg s)
    else
      let ret := doExecute cfg answer s
      if ret ≠ .dumpOk && ret ≠ .dumpMoreData then next (req.setZipTitle cfg s)
      else
        let ret := doAfterExecute cfg answer
        let loopStack := if cfg.isDumper && cfg.canLoop && ret = .dumpMoreData
          then s.index :: s.loopStack else s.loopStack
        if cfg.isOutput || cfg.isGroup then
          { s with index := loopStack.head?.getD (s.index + 1), loopStack := [] }
        else next { s with loopStack := loopStack }

/-- One round of the loop; `none` where it ends. -/
def round (s : ZipDump) : Option ZipDump :=
  if s.canceled then none else (req.executors[s.index]?).map (req.turn s)

/-- The `Reset` of one executor. -/
def resetExecutor (s : ZipDump) (cfg : DumpCfg) : ZipDump :=
  if cfg.cls = .fdOutput then
    let (output, callback) := s.output.reset req.source req.opts.path s.callback
    { s with output := output, callback := callback }
  else s

/-- `DumpDatas` after the loop. -/
def wrapUp (s : ZipDump) : ZipDump :=
  let s := req.executors.foldl req.resetExecutor s
  { s with callback :=
      s.callback.updateProgressOf req.executors.length req.executors.length }

/-- `DumpImplement::DumpDatas`; `none` if the fuel does not suffice. -/
def dumpDatas (fuel : Nat) : Option ZipDump :=
  (Loop.run req.round fuel { callback := req.start }).map req.wrapUp

end ZipRequest

end HiDumper.Native
