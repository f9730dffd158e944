import HiDumper.Native.Executors

/-!
# DumpImplement::DumpDatas

Model of the loop of `DumpImplement::DumpDatas` in `manager/dump_implement.cpp` over
executors of the classes of `HiDumper.Native.Executors`, for a request that is not
cancelled. The executors share one `StringMatrix`: dumpers append to it, filters change
it in place, the output takes the rows and clears it. No file is ever set for the output
(`SetOutputFilePath` has no caller), so its `PreExecute` does not fail. Progress and the
titles of zip requests are not modelled.

A dumper with `LOOP` gives one line per pass: `DumpDatas` notes its position and goes
back to it after the output.
-/

namespace HiDumper.Native

/-! ## Configurations -/

/-- `DumpCfg::CanLoop`. -/
def DumpCfg.canLoop (cfg : DumpCfg) : Bool := cfg.loop ≠ .none

/-- `DumpCfg::IsOutput`. -/
def DumpCfg.isOutput (cfg : DumpCfg) : Bool := DumperConstant.between .outputBegin .outputEnd cfg.cls

/-- `DumpCfg::IsGroup`: only groups have children. -/
def DumpCfg.isGroup (cfg : DumpCfg) : Bool := cfg.cls = .group

/-! ## Executors -/

/-- An executor. -/
inductive HidumperExecutor where
  | cmdDumper (st : CMDDumper)
  | fileStreamDumper (st : FileStreamDumper)
  | columnRowsFilter
  | fileFormatDumpFilter
  | dumperGroup
  | fdOutput

/-- The `StringMatrix`, and the rows that the output has been given so far. -/
structure DumpRows where
  dumpDatas : List Row := []
  handed : List Row := []

/-- Append rows to the `StringMatrix`. -/
def DumpRows.add (rows : DumpRows) (new : List Row) : DumpRows :=
  { rows with dumpDatas := rows.dumpDatas ++ new }

namespace HidumperExecutor

/-- The executor that the factory of a class makes. -/
def create : DumperConstant → Option HidumperExecutor
  | .cmdDumper => some (.cmdDumper {})
  | .fileDumper => some (.fileStreamDumper {})
  | .columnRowsFilter => some .columnRowsFilter
  | .fileFormatDumpFilter => some .fileFormatDumpFilter
  | .group => some .dumperGroup
  | .fdOutput => some .fdOutput
  | _ => none

variable (env : DumpEnv) (cfg : DumpCfg)

/-- `HidumperExecutor::DoPreExecute`. -/
def doPreExecute (rows : DumpRows) : HidumperExecutor → DumpStatus × DumpRows × HidumperExecutor
  | .cmdDumper st =>
    let (ret, new, st) := st.preExecute env cfg
    (ret, rows.add new, .cmdDumper st)
  | .fileStreamDumper st =>
    let (ret, new, st) := st.preExecute env cfg
    (ret, rows.add new, .fileStreamDumper st)
  | executor => (.dumpOk, rows, executor)

/-- `HidumperExecutor::DoExecute`. -/
def doExecute (rows : DumpRows) : HidumperExecutor → DumpStatus × DumpRows × HidumperExecutor
  | .cmdDumper st =>
    let (ret, new, st) := st.execute
    (ret, rows.add new, .cmdDumper st)
  | .fileStreamDumper st =>
    let (ret, new, st) := st.execute env
    (ret, rows.add new, .fileStreamDumper st)
  | .fileFormatDumpFilter =>
    (.dumpOk, { rows with dumpDatas := rows.dumpDatas.map (·.map filterControlChar) },
      .fileFormatDumpFilter)
  | .fdOutput => (.dumpOk, { rows with handed := rows.handed ++ rows.dumpDatas }, .fdOutput)
  | executor => (.dumpOk, rows, executor)

/-- `HidumperExecutor::DoAfterExecute`. -/
def doAfterExecute (rows : DumpRows) : HidumperExecutor → DumpStatus × DumpRows × HidumperExecutor
  | .cmdDumper st =>
    let (ret, st) := st.afterExecute
    (ret, rows, .cmdDumper st)
  | .fileStreamDumper st =>
    let (ret, st) := st.afterExecute cfg
    (ret, rows, .fileStreamDumper st)
  | .fdOutput => (.dumpOk, { rows with dumpDatas := [] }, .fdOutput)
  | executor => (.dumpOk, rows, executor)

end HidumperExecutor

/-! ## Titles -/

/-- `DumpImplement::CheckGroupName`: is there a new name to take over? -/
def checkGroupName (lastName curName : String) : Bool := curName ≠ "" && lastName ≠ curName

/-- The rows that `DumpImplement::AddGroupTitle` adds. -/
def addGroupTitle (opts : DumperOpts) (groupName : String) : List Row :=
  if groupName = "ipc" then []
  else if groupName = "memory" && opts.memPid ≤ 0 then []
  else if groupName = "memory" && opts.timeInterval > 0 then []
  else if groupName = "ability" then []
  else [[""],
    ["-------------------------------[", groupName, "]-------------------------------"], [""]]

/-! ## The loop -/

/-- The variables of `DumpDatas`. -/
structure DumpState where
  index : Nat := 0
  groupName : String := ""
  /-- `loopStack`, with its back first. -/
  loopStack : List Nat := []
  executors : List (DumpCfg × HidumperExecutor)
  rows : DumpRows := {}

namespace DumpState

variable (env : DumpEnv) (opts : DumperOpts)

/-- Go on after the executor at `index`. -/
def next (s : DumpState) (cfg : DumpCfg) (executor : HidumperExecutor) (rows : DumpRows) : DumpState :=
  { s with index := s.index + 1, executors := s.executors.set s.index (cfg, executor), rows := rows }

/-- One round for the executor at `index`. -/
def turn (s : DumpState) (cfg : DumpCfg) (executor : HidumperExecutor) : DumpState :=
  let titled := cfg.isDumper && checkGroupName s.groupName cfg.sectionName
  let s := { s with groupName := if titled then cfg.sectionName else s.groupName }
  let rows := if titled then s.rows.add (addGroupTitle opts s.groupName) else s.rows
  let (ret, rows, executor) := executor.doPreExecute env cfg rows
  if ret ≠ .dumpOk then s.next cfg executor rows
  else
    let (ret, rows, executor) := executor.doExecute env rows
    if ret ≠ .dumpOk && ret ≠ .dumpMoreData then s.next cfg executor rows
    else
      let (ret, rows, executor) := executor.doAfterExecute cfg rows
      let loopStack := if cfg.isDumper && cfg.canLoop && ret = .dumpMoreData
        then s.index :: s.loopStack else s.loopStack
      let s := { s.next cfg executor rows with loopStack := loopStack }
      if cfg.isOutput || cfg.isGroup then
        { s with index := loopStack.head?.getD s.index, loopStack := [] }
      else s

/-- One round of the loop of `DumpDatas`; `none` where it ends. -/
def round (s : DumpState) : Option DumpState :=
  (s.executors[s.index]?).map fun (cfg, executor) => s.turn env opts cfg executor

end DumpState

/-- `DumpImplement::DumpDatas` for the executors of a configuration list: the rows that the
    output executor is given. `none` if the fuel does not suffice. -/
def dumpDatas (env : DumpEnv) (opts : DumperOpts) (fuel : Nat) (configs : List DumpCfg) :
    Option (List Row) :=
  let executors := configs.filterMap fun cfg =>
    (HidumperExecutor.create cfg.cls).map fun executor => (cfg, executor)
  (Loop.run (DumpState.round env opts) fuel { executors := executors }).map (·.rows.handed)

end HiDumper.Native
