import HiDumper.ForStd.Fields
import HiDumper.ForStd.MapSums
import HiDumper.ForStd.Scanf
import HiDumper.Native.FdLinks

/-!
# Threads of a process

Model of `FdThreadDumper::DumpThreadInfo` in `executor/fd_thread_dumper.cpp`: the names of
the threads counted, and the list of all threads with the time each was started. The files
of the threads are an input, and so is the order in which `std::sort` leaves names with the
same count. Texts are split at the white space of the C locale.
-/

namespace HiDumper.Native

/-- A thread under `/proc/<pid>/task/`: the texts of its `stat` and its `comm`, `none` for a
    file that does not open. -/
structure ThreadFiles where
  tid : String
  stat : Option String
  comm : Option String

/-- `std::sort` by count, the largest count first. -/
structure CountSort where
  sort : List FdEntry → List FdEntry
  sort_perm : ∀ threadCnt, (sort threadCnt).Perm threadCnt
  sorted : ∀ threadCnt, (sort threadCnt).Pairwise fun a b => b.2 ≤ a.2

namespace FdThreadDumper

/-- `START_TIME_FIELD_INDEX`. -/
def startTimeFieldIndex : Nat := 19

/-- `strtoull` of decimal digits: a value out of range is the largest one. -/
def strtoull (digits : List Char) : Nat := min (Scanf.decimal digits) (UInt64.size - 1)

/-- The text after the first `)` of a line. -/
def afterParen (line : List Char) : Option (List Char) :=
  match line.dropWhile (· ≠ ')') with
  | [] => none
  | _ :: fieldsStr => some fieldsStr

/-- `FdThreadDumper::GetThreadStartTime` for a thread with this `stat`. -/
def getThreadStartTime (stat : Option String) : String :=
  match stat.bind fun text => (getlines text).head? with
  | none => ""
  | some line =>
    match afterParen line.toList with
    | none => ""
    | some fieldsStr =>
      match (fieldsStr.fields Scanf.isSpace)[startTimeFieldIndex]? with
      | none => ""
      | some startTimeStr =>
        if startTimeStr.isEmpty then ""
        else if !startTimeStr.all Char.isDigit then ""
        else toString (strtoull startTimeStr)

/-- `FdThreadDumper::GetThreadName` for a thread with this `comm`. -/
def getThreadName (comm : Option String) : String :=
  (comm.bind fun text => (getlines text).head?).getD ""

/-- A row of the list of all threads. -/
def threadRow (thread : ThreadFiles) : List String :=
  [thread.tid ++ "\t" ++ getThreadName thread.comm ++ "\t" ++ getThreadStartTime thread.stat]

/-- `FdThreadDumper::DumpThreadInfo`: the rows it appends. -/
def dumpThreadInfo (order : CountSort) (isDumpFdThreadAll : Bool) (threads : List ThreadFiles) :
    List (List String) :=
  let names := threads.map fun thread => getThreadName thread.comm
  let nameCntMap : UnorderedMap String Nat := names.foldl (AList.tally id fun _ => 1) ∅
  let threadCnt := order.sort (nameCntMap.entries.map fun e => (e.1, e.2))
  [["Thread num: " ++ toString threads.length], ["Top 10 Thread Names:"]] ++
    (threadCnt.take fdTopCnt).map (fun entry => [toString entry.2 ++ "\t" ++ entry.1]) ++
    if isDumpFdThreadAll then ["tid\tthread_name\tstart_time"] :: threads.map threadRow else []

end FdThreadDumper

end HiDumper.Native
