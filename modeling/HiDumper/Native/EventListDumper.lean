import HiDumper.Native.DmaBufTable

/-!
# The list of killed processes

Model of `EventListDumper` in `executor/event_list_dumper.cpp`. The records of the event
store belong to another repository: what `GetParamValue` and `GetTime` return for one is an
input, and so are the reasons of `ProcessKillReason`, the local time that `UnixMsToString`
prints and the sort of `SortEventsByTimeDesc`. A character stands for a byte of a
`std::string`.
-/

namespace HiDumper.Native

/-- What `EventListDumper` uses of other places. -/
structure EventListEnv (ρ : Type) where
  /-- What `DumpEventList` adds before it sorts, `none` for `false`. -/
  queried : Option (List ρ)
  sortEventsByTimeDesc : List ρ → List ρ
  getTime : ρ → UInt64
  /-- `GetParamValue` for a `std::string`, `none` for a result other than 0. -/
  paramString : ρ → String → Option String
  /-- `GetParamValue` for an `int64_t`. -/
  paramInt64 : ρ → String → Option Int64
  unixMsToString : UInt64 → String
  getAppExitReason : Int32 → String

/-- The members that `PreExecute` takes from the options. -/
structure EventListDumper where
  showEventCount : Int := -1
  processName : String := ""

namespace EventListDumper

/-- `LINE_SPACING`. -/
def eventLineSpacing : Nat := 6

/-- `MAX_WIDTH`. -/
def maxWidth : Nat := 32

/-- `INVALID_KILL_ID`. -/
def invalidKillId : String := "InvalidKillId"

/-- `KILL_ID_KEY`. -/
def killIdKey : String := "KILL_ID"

/-- `EVENTTITLES`. -/
def eventTitles : List String := ["time", "foreground", "reason", "record_id", "process_name"]

/-- `FIELDMAP`. -/
def fieldMap : String → String
  | "time" => "time_"
  | "process_name" => "PROCESS_NAME"
  | "foreground" => "FOREGROUND"
  | "reason" => killIdKey
  | _ => "id_"

variable {ρ : Type} (env : EventListEnv ρ)

/-- `EventListDumper::ShouldSkipEvent`: the kill id of an event that is not skipped. -/
def shouldSkipEvent (dumper : EventListDumper) (event : ρ) : Option Int32 :=
  match env.paramString event "PROCESS_NAME" with
  | none => none
  | some processName =>
    if processName.isEmpty then none
    else
      match env.paramInt64 event killIdKey with
      | none => none
      | some killId =>
        if killId < Int32.minValue.toInt64 || killId > Int32.maxValue.toInt64 then none
        else if !dumper.processName.isEmpty && !contains processName dumper.processName then none
        else some killId.toInt32

/-- What one turn of the loop of `BuildRow` comes to. -/
inductive EventCell where
  /-- The event has no such parameter. -/
  | missing
  | value (value : String)
  /-- The reason is not known: the row ends here. -/
  | invalid
  deriving DecidableEq

/-- The value of an event for a title. -/
def eventCell (event : ρ) (killId : Int32) (title : String) : EventCell :=
  match env.paramString event (fieldMap title) with
  | none => .missing
  | some value =>
    if title = "time" then .value (env.unixMsToString (env.getTime event))
    else if title = "foreground" then .value (if value = "1" then "True" else "False")
    else if title = "reason" then
      if env.getAppExitReason killId = invalidKillId then .invalid
      else .value (env.getAppExitReason killId)
    else .value value

/-- The loop of `EventListDumper::BuildRow`: the row and the widths of the columns, both in
    the order of the titles. -/
def buildRow (cell : String → EventCell) : List String → List Nat → List String × List Nat
  | title :: titles, width :: widths =>
    match cell title with
    | .missing =>
      let rest := buildRow cell titles widths
      ("Null" :: rest.1, width :: rest.2)
    | .invalid => ([], width :: widths)
    | .value value =>
      let rest := buildRow cell titles widths
      (value :: rest.1,
        (if value.toList.length > width then value.toList.length else width) :: rest.2)
  | _, widths => ([], widths)

/-- The loop of `EventListDumper::BuildResults`. -/
def buildResultsLoop (dumper : EventListDumper) :
    List ρ → List Nat → List (List String) × List Nat
  | [], columnWidths => ([], columnWidths)
  | event :: events, columnWidths =>
    match shouldSkipEvent env dumper event with
    | none => buildResultsLoop dumper events columnWidths
    | some killId =>
      let built := buildRow (eventCell env event killId) eventTitles columnWidths
      let rest := buildResultsLoop dumper events built.2
      if built.1.isEmpty || built.1.length ≠ eventTitles.length then rest
      else (built.1 :: rest.1, rest.2)

/-- `EventListDumper::BuildResults`. -/
def buildResults (dumper : EventListDumper) (events : List ρ) (columnWidths : List Nat) :
    List (List String) × List Nat :=
  let built := buildResultsLoop env dumper events columnWidths
  if dumper.showEventCount > 0 && built.1.length > dumper.showEventCount.toNat then
    (built.1.take dumper.showEventCount.toNat, built.2)
  else built

/-- `EventListDumper::FormatResults`: the rows. -/
def formatResults (results : List (List String)) (columnWidths : List Nat) : List (List String) :=
  results.map fun row =>
    [String.ofList (((columnWidths.zip eventTitles).zipIdx).flatMap fun column =>
      setwLeft (min column.1.1 maxWidth + eventLineSpacing) (row[column.2]?.getD "Null"))]

/-- `EventListDumper::Execute`: the status and the rows. -/
def execute (dumper : EventListDumper) : DumpStatus × List (List String) :=
  match env.queried with
  | none => (.dumpFail, [])
  | some queried =>
    let events := env.sortEventsByTimeDesc queried
    let columnWidths := eventTitles.map (·.toList.length)
    let built := buildResults env dumper events columnWidths
    if built.1.isEmpty then (.dumpOk, [["no records found."]])
    else (.dumpOk, formatResults (eventTitles :: built.1) built.2)

end EventListDumper

end HiDumper.Native
