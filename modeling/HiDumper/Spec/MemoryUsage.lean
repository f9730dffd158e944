import HiDumper.Native.MemoryUsage
import Mathlib.Data.List.Basic
import Mathlib.Data.UInt

/-!
# Memory usage of one process among others

`GetMemoryUsageInfo` uses one `MemUsage` for all processes, and a collector that
fails leaves the fields of the process before it. A `Report` is what one round of
the loop writes and adds to the totals. This module shows that the output is made
of the reports, and exactly when the report of a process is its own.

Key results:
* `getMemoryUsageInfo_written`, `getMemoryUsageInfo_totals`: the output from the reports
* `report_congr`: a round with all its collectors overwrites everything it reports
* `reportOf_own_iff`: when the report of a process depends on its own data only
-/

namespace HiDumper.Spec

open HiDumper.Native HiDumper.Native.MemoryUsageInfo

/-- What a round of the loop writes and adds. -/
structure Report where
  row : String
  gl : UInt64
  graph : UInt64
  dma : UInt64
  deriving DecidableEq, Repr

/-- The report of a round that leaves `usage`. -/
def reportOfUsage (env : Int → ProcessReadings) (prune : Bool) (usage : MemUsage) : Report :=
  ⟨memUsageToMatrix env prune usage, usage.gl, usage.graph, usage.dma⟩

/-- The report of the round for `pid`, if it has one, and the record it leaves. -/
def usageRound (env : Int → ProcessReadings) (prune : Bool) (pid : Int) (usage : MemUsage) :
    Option Report × MemUsage :=
  let (success, usage) := getMemByProcessPid prune pid (env pid) usage
  (if success then some (reportOfUsage env prune usage) else none, usage)

/-- The reports of all rounds, each with its process. -/
def reports (env : Int → ProcessReadings) (prune : Bool) :
    List Int → MemUsage → List (Int × Option Report)
  | [], _ => []
  | pid :: pids, usage =>
    let (report, usage) := usageRound env prune pid usage
    (pid, report) :: reports env prune pids usage

/-- The report of a process in a run over `pids`. -/
def reportOf (env : Int → ProcessReadings) (prune : Bool) (pids : List Int) (pid : Int) :
    Option (Option Report) :=
  (reports env prune pids initMemUsage).lookup pid

/-! ## The output -/

section Output

variable {env : Int → ProcessReadings}

/-- The loop makes a report for every pid that has a usage. -/
private theorem usageLoop_eq (pids : List Int) (usage : MemUsage) (info : MemoryUsageInfo) :
    let made := (reports env info.dumpPrune pids usage).filterMap (·.2)
    let done := usageLoop env pids usage info
    done.written = info.written ++ made.map (·.row) ∧
      done.totalGL = info.totalGL + (made.map (·.gl)).sum ∧
      done.totalGraph = info.totalGraph + (made.map (·.graph)).sum ∧
      done.totalDma = info.totalDma + (made.map (·.dma)).sum := by
  induction pids generalizing usage info with
  | nil => simp [reports, usageLoop]
  | cons pid pids ih =>
    cases hround : getMemByProcessPid info.dumpPrune pid (env pid) usage with
    | mk success usage' =>
    cases success with
    | false =>
      have hrest := ih usage' info
      simp only [reports, usageRound, usageLoop, hround] at hrest ⊢
      exact hrest
    | true =>
      have hrest := ih usage' (record env info usage')
      simp only [reports, usageRound, usageLoop, hround, if_true, List.filterMap_cons,
        List.map_cons, List.sum_cons] at hrest ⊢
      simp only [record, reportOfUsage, List.append_assoc, List.singleton_append] at hrest ⊢
      refine ⟨hrest.1, ?_, ?_, ?_⟩
      · rw [hrest.2.1, UInt64.add_assoc]
      · rw [hrest.2.2.1, UInt64.add_assoc]
      · rw [hrest.2.2.2, UInt64.add_assoc]

/-- The rows written are those of the reports, in order. -/
theorem getMemoryUsageInfo_written (env : Int → ProcessReadings) (pids : List Int)
    (info : MemoryUsageInfo) :
    (getMemoryUsageInfo env pids info).written = info.written ++
      ((reports env info.dumpPrune pids initMemUsage).filterMap (·.2)).map (·.row) :=
  (usageLoop_eq pids initMemUsage info).1

/-- The totals grow by the amounts of the reports. -/
theorem getMemoryUsageInfo_totals (env : Int → ProcessReadings) (pids : List Int)
    (info : MemoryUsageInfo) :
    let made := (reports env info.dumpPrune pids initMemUsage).filterMap (·.2)
    (getMemoryUsageInfo env pids info).totalGL = info.totalGL + (made.map (·.gl)).sum ∧
      (getMemoryUsageInfo env pids info).totalGraph = info.totalGraph + (made.map (·.graph)).sum ∧
      (getMemoryUsageInfo env pids info).totalDma = info.totalDma + (made.map (·.dma)).sum :=
  (usageLoop_eq pids initMemUsage info).2

end Output

/-! ## What flows from one round to the next -/

section Flow

variable {env env' : Int → ProcessReadings} {prune : Bool} {pid : Int} {usage usage' : MemUsage}

/-- The fields no round of this mode writes. -/
structure Untouched (prune : Bool) (usage : MemUsage) : Prop where
  purgSum : usage.purgSum = 0
  purgPin : usage.purgPin = 0
  graph : prune = true → usage.graph = 0
  dma : prune = true → usage.dma = 0

/-- A fresh record has zeros in these fields. -/
private theorem untouched_init (prune : Bool) : Untouched prune initMemUsage :=
  ⟨rfl, rfl, fun _ => rfl, fun _ => rfl⟩

/-- The record after a round, with the answers of the collectors spelled out. -/
private theorem usageRound_eq (env : Int → ProcessReadings) (prune : Bool) (pid : Int)
    (usage : MemUsage) :
    let readings := env pid
    let afterRollup := (readings.smapsRollup.map fun memInfo =>
      setSmapsRollup prune pid readings memInfo usage).getD usage
    let afterGL := ((readings.graphicUsage .gl).map fun data =>
      addGL prune (.ofInt data.toInt) afterRollup).getD afterRollup
    let afterGraph := ((if prune then none else readings.graphicUsage .graph).map fun data =>
      addGraph (.ofInt data.toInt) afterGL).getD afterGL
    usageRound env prune pid usage =
      (readings.smapsRollup.map fun _ => reportOfUsage env prune afterGraph, afterGraph) := by
  dsimp only
  unfold usageRound getMemByProcessPid getGraphicsMemory
  cases (env pid).smapsRollup <;> cases (env pid).graphicUsage .gl <;>
    cases (env pid).graphicUsage .graph <;> cases prune <;> rfl

/-- A round writes none of them. -/
private theorem untouched_usageRound (h : Untouched prune usage) :
    Untouched prune (usageRound env prune pid usage).2 := by
  obtain ⟨hsum, hpin, hgraph, hdma⟩ := h
  rw [usageRound_eq]
  dsimp only
  cases prune with
  | false =>
    cases (env pid).smapsRollup <;> cases (env pid).graphicUsage .gl <;>
      cases (env pid).graphicUsage .graph <;>
      exact ⟨hsum, hpin, (fun hprune => nomatch hprune), (fun hprune => nomatch hprune)⟩
  | true =>
    cases (env pid).smapsRollup <;> cases (env pid).graphicUsage .gl <;>
      exact ⟨hsum, hpin, hgraph, hdma⟩

/-- The collectors of a process answer for all it reports, or it has no report. -/
def AnswersAll (prune : Bool) (readings : ProcessReadings) : Prop :=
  readings.smapsRollup.isSome = true → (readings.graphicUsage .gl).isSome = true ∧
    (prune = false → (readings.graphicUsage .graph).isSome = true)

/-- A round whose collectors answer overwrites everything it reports. -/
theorem report_congr (hreadings : env pid = env' pid) (hanswers : AnswersAll prune (env pid))
    (h : Untouched prune usage) (h' : Untouched prune usage') :
    (usageRound env prune pid usage).1 = (usageRound env' prune pid usage').1 := by
  rw [usageRound_eq, usageRound_eq]
  dsimp only
  rw [← hreadings]
  cases hrollup : (env pid).smapsRollup with
  | none => rfl
  | some memInfo =>
    obtain ⟨hgl, hgraph⟩ := hanswers (by rw [hrollup]; rfl)
    obtain ⟨gl, hgl⟩ := Option.isSome_iff_exists.mp hgl
    -- The fields that a round does not set are printed in the one form only, and untouched there.
    cases prune with
    | true =>
      simp only [hgl, Option.map_some, Option.map_none, Option.getD_some, Option.getD_none, if_true,
        addGL, setSmapsRollup, reportOfUsage, memUsageToMatrix, h.graph, h'.graph, h.dma, h'.dma]
      rw [hreadings]
    | false =>
      obtain ⟨graph, hgraph⟩ := Option.isSome_iff_exists.mp (hgraph rfl)
      simp only [hgl, hgraph, Option.map_some, Option.getD_some, Bool.false_eq_true, if_false,
        addGL, addGraph, setSmapsRollup, reportOfUsage, memUsageToMatrix, h.purgSum, h'.purgSum,
        h.purgPin, h'.purgPin]

/-- A collector that fails passes on what was there. -/
private theorem exists_report {memInfo : MemInfo} (hrollup : (env pid).smapsRollup = some memInfo) :
    ∃ report, (usageRound env prune pid usage).1 = some report ∧
      ((env pid).graphicUsage .gl = none → report.gl = usage.gl) ∧
      (prune = false → (env pid).graphicUsage .graph = none → report.graph = usage.graph) := by
  rw [usageRound_eq]
  dsimp only
  rw [hrollup]
  refine ⟨_, rfl, fun hgl => ?_, fun hprune hgraph => ?_⟩
  · rw [hgl]
    cases prune <;> cases (env pid).graphicUsage .graph <;> rfl
  · subst hprune
    rw [hgraph]
    cases (env pid).graphicUsage .gl <;> rfl

/-- The report of a pid is made by its own round. -/
private theorem exists_reports_lookup {pids : List Int} (hpid : pid ∈ pids)
    (h : Untouched prune usage) :
    ∃ before, Untouched prune before ∧
      (reports env prune pids usage).lookup pid = some (usageRound env prune pid before).1 := by
  induction pids generalizing usage with
  | nil => exact nomatch hpid
  | cons first pids ih =>
    by_cases heq : pid = first
    · subst heq
      exact ⟨usage, h, List.lookup_cons_self⟩
    · obtain ⟨before, hbefore, hlookup⟩ := ih (List.mem_of_ne_of_mem heq hpid)
        (untouched_usageRound h)
      refine ⟨before, hbefore, ?_⟩
      simp only [reports, List.lookup_cons, beq_false_of_ne heq]
      exact hlookup

end Flow

/-! ## Reports that are a process's own -/

/-- A process of which only the GL and Graph memory is known. -/
def graphicsOnly : ProcessReadings where
  smapsRollup := none
  graphicUsage _ := some 1
  vss := 0
  procName := ""
  adjLabel := ""
  scoreAdj := 0

/-- The process `0` with the given readings, and process `1` with graphics only. -/
def besideGraphics (readings : ProcessReadings) (pid : Int) : ProcessReadings :=
  if pid = 0 then readings else graphicsOnly

/-- The report of a process depends on nothing but its own readings, in every list
    of processes and whatever is collected for the other ones, exactly if its
    collectors answer for all it reports. -/
theorem reportOf_own_iff (prune : Bool) (readings : ProcessReadings) :
    (∀ (env env' : Int → ProcessReadings) (pid : Int) (pids pids' : List Int),
      env pid = readings → env' pid = readings → pid ∈ pids → pid ∈ pids' →
      reportOf env prune pids pid = reportOf env' prune pids' pid) ↔
      AnswersAll prune readings := by
  constructor
  · intro hown hrollup
    obtain ⟨memInfo, hrollup⟩ := Option.isSome_iff_exists.mp hrollup
    -- With process 1 before it, process 0 reports what process 1 has left.
    have hrun := hown (besideGraphics readings) (besideGraphics readings) 0 [0] [1, 0] rfl rfl
      List.mem_cons_self (by decide)
    obtain ⟨report, hreport, hgl, hgraph⟩ :=
      @exists_report (besideGraphics readings) prune 0 initMemUsage memInfo hrollup
    obtain ⟨report', hreport', hgl', hgraph'⟩ :=
      @exists_report (besideGraphics readings) prune 0
        (usageRound (besideGraphics readings) prune 1 initMemUsage).2 memInfo hrollup
    have heq : report = report' := by
      have hsome : some (some report) = some (some report') := by
        rw [← hreport, ← hreport']
        exact hrun
      exact Option.some.inj (Option.some.inj hsome)
    rw [← heq] at hgl' hgraph'
    refine ⟨?_, fun hprune => ?_⟩
    · rw [Option.isSome_iff_ne_none]
      intro hnone
      have hleft : (usageRound (besideGraphics readings) prune 1 initMemUsage).2.gl = 1 := by
        cases prune <;> rfl
      rw [← hgl' hnone, hgl hnone] at hleft
      exact absurd hleft (by decide)
    · subst hprune
      rw [Option.isSome_iff_ne_none]
      intro hnone
      have hleft : (usageRound (besideGraphics readings) false 1 initMemUsage).2.graph = 1 := rfl
      rw [← hgraph' rfl hnone, hgraph rfl hnone] at hleft
      exact absurd hleft (by decide)
  · intro hanswers env env' pid pids pids' henv henv' hpid hpid'
    obtain ⟨before, hbefore, hlookup⟩ := exists_reports_lookup hpid (untouched_init prune)
    obtain ⟨before', hbefore', hlookup'⟩ := exists_reports_lookup hpid' (untouched_init prune)
    unfold reportOf
    rw [hlookup, hlookup', report_congr (henv.trans henv'.symm) (henv ▸ hanswers) hbefore hbefore']

/-- A process whose smaps_rollup can be read and whose GL memory cannot. -/
def rollupOnly : ProcessReadings where
  smapsRollup := some { pss := 100 }
  graphicUsage _ := none
  vss := 400
  procName := "init"
  adjLabel := "System"
  scoreAdj := -1000

/-- Its GL memory is reported as that of the process listed before it. -/
theorem reportOf_rollupOnly_leaks :
    (reportOf (besideGraphics rollupOnly) false [0] 0).map (·.map (·.gl)) = some (some 0) ∧
      (reportOf (besideGraphics rollupOnly) false [1, 0] 0).map (·.map (·.gl)) = some (some 1) ∧
      reportOf (besideGraphics rollupOnly) false [0] 0 ≠
        reportOf (besideGraphics rollupOnly) false [1, 0] 0 := by
  have hgl : (reportOf (besideGraphics rollupOnly) false [0] 0).map (·.map (·.gl)) =
      some (some 0) := rfl
  have hgl' : (reportOf (besideGraphics rollupOnly) false [1, 0] 0).map (·.map (·.gl)) =
      some (some 1) := rfl
  refine ⟨hgl, hgl', fun heq => ?_⟩
  rw [heq, hgl'] at hgl
  exact absurd hgl (by decide)

end HiDumper.Spec
