import Mathlib.Data.List.Nodup
import Mathlib.Data.Prod.Lex
import HiDumper.ForStd.DecimalTexts
import HiDumper.ForStd.Delivery
import HiDumper.ForStd.Sorting
import HiDumper.Native.DumpManagerCpuService

/-!
# Reports of the CPU service

The service keeps what it collects in members. A request finds nothing there of the requests
before it, whether they were answered, refused or broken off. The table of processes is in
strict order of total, user and kernel share and process id, the largest first, so it does
not depend on the order in which the collector lists them or on how `std::sort` works.

## Key results

- `session_eq_fresh`: every call is answered as by a new service
- `request_eq_of_perm`: the order of the collected processes does not show in a report
- `request_table`: the lines of a report are those of the processes, largest first
-/

namespace HiDumper.Spec

open HiDumper.Native
open HiDumper.Native.DumpManagerCpuService
open List (inj_on_of_nodup_map)

namespace CpuReports

variable {D : Type} (numbers : CpuNumbers D)

/-! ## One request after another -/

/-- What `dumpCpuUsageData` reads and no step of it has set yet is the same in two states. -/
structure Alike (s t : DumpManagerCpuService D) : Prop where
  curCPUInfo : s.curCPUInfo = t.curCPUInfo
  curProcs : s.curProcs = t.curProcs
  cpuUsagePid : s.cpuUsagePid = t.cpuUsagePid
  dumpCPUDatas : s.dumpCPUDatas = t.dumpCPUDatas
  curSpecProc : s.cpuUsagePid ≠ invalidPid → s.curSpecProc = t.curSpecProc

/-- `Alike`, and the times as well. -/
structure AlikeTimes (s t : DumpManagerCpuService D) : Prop extends Alike s t where
  startTime : s.startTime = t.startTime
  endTime : s.endTime = t.endTime

/-- Two services that are alike get the same times of the system. -/
private theorem getSysCPUInfo_alike {s t : DumpManagerCpuService D} (h : Alike s t)
    (collector : CpuCollector D) :
    (getSysCPUInfo collector s).1 = (getSysCPUInfo collector t).1 ∧
      Alike (getSysCPUInfo collector s).2 (getSysCPUInfo collector t).2 ∧
      ((getSysCPUInfo collector s).1 = true →
        AlikeTimes (getSysCPUInfo collector s).2 (getSysCPUInfo collector t).2) := by
  simp only [getSysCPUInfo]
  split
  · rw [h.curCPUInfo]
    have halike : ∀ (startTime endTime : Nat) (info : Option (CPUInfo D)),
        AlikeTimes
          { s with startTime := startTime, endTime := endTime, curCPUInfo := info }
          { t with startTime := startTime, endTime := endTime, curCPUInfo := info } :=
      fun startTime endTime info =>
        ⟨⟨rfl, h.curProcs, h.cpuUsagePid, h.dumpCPUDatas, h.curSpecProc⟩, rfl, rfl⟩
    exact ⟨rfl, (halike _ _ _).toAlike, fun _ => halike _ _ _⟩
  · exact ⟨rfl, h, fun hfalse => by cases hfalse⟩

private theorem collectProcInfo_alike {s t : DumpManagerCpuService D} (h : AlikeTimes s t)
    (collector : CpuCollector D) :
    (collectProcInfo numbers collector s).1 = (collectProcInfo numbers collector t).1 ∧
      AlikeTimes (collectProcInfo numbers collector s).2
        (collectProcInfo numbers collector t).2 := by
  simp only [collectProcInfo, getAllProcInfo]
  rw [h.cpuUsagePid, h.curProcs]
  split
  · split
    · exact ⟨rfl, h⟩
    · exact ⟨rfl, ⟨h.curCPUInfo, rfl, rfl, h.dumpCPUDatas, fun _ => rfl⟩, h.startTime, h.endTime⟩
  · rename_i hpid
    split
    · exact ⟨rfl, ⟨h.curCPUInfo, rfl, rfl, h.dumpCPUDatas, fun hother => absurd hother hpid⟩,
        h.startTime, h.endTime⟩
    · exact ⟨rfl, h⟩

private theorem writeReport_alike {s t : DumpManagerCpuService D} (h : AlikeTimes s t)
    (env : CpuCallEnv D) (avgInfo : String) :
    (writeReport numbers env avgInfo s).dumpCPUDatas =
      (writeReport numbers env avgInfo t).dumpCPUDatas := by
  have hspec := h.curSpecProc
  simp only [writeReport, addStrLineToDumpInfo, dumpProcInfo, h.curCPUInfo, h.curProcs,
    h.cpuUsagePid, h.dumpCPUDatas, h.startTime, h.endTime] at hspec ⊢
  by_cases hpid : t.cpuUsagePid = invalidPid
  · simp only [hpid, ne_eq, not_true_eq_false, if_false]
  · simp only [hpid, ne_eq, not_false_eq_true, if_true, hspec hpid]

/-- The status and the report depend on nothing else. -/
private theorem dumpCpuUsageData_alike {s t : DumpManagerCpuService D} (h : Alike s t)
    (env : CpuCallEnv D) :
    (dumpCpuUsageData numbers env s).1 = (dumpCpuUsageData numbers env t).1 ∧
      (dumpCpuUsageData numbers env s).2.dumpCPUDatas =
        (dumpCpuUsageData numbers env t).2.dumpCPUDatas := by
  obtain ⟨hok, halike, htimes⟩ := getSysCPUInfo_alike h env.collector
  rcases hs : getSysCPUInfo env.collector s with ⟨ok, s₁⟩
  rcases ht : getSysCPUInfo env.collector t with ⟨ok', t₁⟩
  rw [hs, ht] at hok halike htimes
  obtain rfl : ok = ok' := hok
  simp only [dumpCpuUsageData, hs, ht]
  -- Step by step the two states stay alike, so they fail together.
  cases ok with
  | false => exact ⟨rfl, halike.dumpCPUDatas⟩
  | true =>
    obtain ⟨hok, halike⟩ := collectProcInfo_alike numbers (htimes rfl) env.collector
    rcases hs' : collectProcInfo numbers env.collector s₁ with ⟨ok, s₂⟩
    rcases ht' : collectProcInfo numbers env.collector t₁ with ⟨ok', t₂⟩
    rw [hs', ht'] at hok halike
    obtain rfl : ok = ok' := hok
    cases ok with
    | false => exact ⟨rfl, halike.dumpCPUDatas⟩
    | true =>
      cases readLoadAvgInfo numbers env.collector with
      | none => exact ⟨rfl, halike.dumpCPUDatas⟩
      | some avgInfo => exact ⟨rfl, writeReport_alike numbers halike env avgInfo⟩

/-- With no processes left behind, a request is answered as by a new service. -/
private theorem request_eq_fresh {s : DumpManagerCpuService D} (hs : s.curProcs = [])
    (env : CpuCallEnv D) (dumpCpuData : DumpCpuData) :
    (request numbers env dumpCpuData s).1 = (request numbers env dumpCpuData {}).1 := by
  have halike : Alike (initParam numbers dumpCpuData s)
      (initParam numbers dumpCpuData ({} : DumpManagerCpuService D)) := by
    refine ⟨rfl, hs, rfl, rfl, fun hpid => ?_⟩
    have hpid' : dumpCpuData.cpuUsagePid ≠ invalidPid := hpid
    simp only [initParam, if_pos hpid']
  obtain ⟨hret, hdatas⟩ := dumpCpuUsageData_alike numbers halike env
  simp only [request]
  split
  · rfl
  · simp only [hret, hdatas]

/-- A request leaves no processes behind. -/
private theorem request_curProcs {s : DumpManagerCpuService D} (hs : s.curProcs = [])
    (env : CpuCallEnv D) (dumpCpuData : DumpCpuData) :
    (request numbers env dumpCpuData s).2.curProcs = [] := by
  simp only [request]
  split
  · exact hs
  · rfl

/-- A call of the service. -/
inductive CpuCall (D : Type) where
  | request (env : CpuCallEnv D) (dumpCpuData : DumpCpuData)
  | getCpuUsageByPid (env : CpuCallEnv D) (pid : Int) (cpuUsage : D)

/-- What a call gives: its status and what it was handed, afterwards. -/
inductive CpuAnswer (D : Type) where
  | request (ret : DumpStatus) (dumpCpuData : DumpCpuData)
  | getCpuUsageByPid (ret : DumpStatus) (cpuUsage : D)

/-- One call, with the state of the service. -/
def callService (dividedByHundred : D → D) :
    CpuCall D → DumpManagerCpuService D → CpuAnswer D × DumpManagerCpuService D
  | .request env dumpCpuData, s =>
    let ((ret, dumpCpuData), s) := request numbers env dumpCpuData s
    (.request ret dumpCpuData, s)
  | .getCpuUsageByPid env pid cpuUsage, s =>
    let (ret, cpuUsage) := getCpuUsageByPid numbers dividedByHundred env pid cpuUsage
    (.getCpuUsageByPid ret cpuUsage, s)

/-- Every call of a session is answered as by a new service, whatever the calls before it
    asked for, collected, or were refused. -/
theorem session_eq_fresh (dividedByHundred : D → D) (calls : List (CpuCall D)) :
    (Delivery.session (callService numbers dividedByHundred) calls {}).1 =
      calls.map fun call => (callService numbers dividedByHundred call {}).1 := by
  have hclean : ∀ call (s : DumpManagerCpuService D), s.curProcs = [] →
      (callService numbers dividedByHundred call s).2.curProcs = [] := fun call s hs => by
    cases call with
    | request env dumpCpuData => exact request_curProcs numbers hs env dumpCpuData
    | getCpuUsageByPid env pid cpuUsage => exact hs
  refine Delivery.session_eq_map hclean (fun call s hs => ?_) calls rfl
  cases call with
  | request env dumpCpuData =>
    simp only [callService, request_eq_fresh numbers hs env dumpCpuData]
  | getCpuUsageByPid env pid cpuUsage => rfl

/-- Without a process asked for, the processes are those that the collector lists. -/
private theorem collectProcInfo_all (env : CpuCallEnv D) {s : DumpManagerCpuService D}
    (hs : s.curProcs = []) (hpid : s.cpuUsagePid = invalidPid)
    (hok : (collectProcInfo numbers env.collector s).1 = true) :
    ∃ cpuInfos, env.collector.processCpuStatInfos = some cpuInfos ∧
      (collectProcInfo numbers env.collector s).2 =
        { s with curProcs := cpuInfos.map (toProcInfo numbers) } := by
  have hsame : collectProcInfo numbers env.collector s =
      getAllProcInfo numbers env.collector s := by
    rw [collectProcInfo, if_neg (by simpa using hpid)]
  rw [hsame] at hok ⊢
  simp only [getAllProcInfo] at hok ⊢
  split at hok
  · rename_i cpuInfo cpuInfos hcollected
    refine ⟨cpuInfo :: cpuInfos, hcollected, ?_⟩
    simp only [hs, List.nil_append]
  · cases hok

/-- What a successful request for all processes has gone through. -/
private theorem dumpCpuUsageData_ok (env : CpuCallEnv D) {s : DumpManagerCpuService D}
    (hs : s.curProcs = [])
    (hpid : s.cpuUsagePid = invalidPid) (hok : (dumpCpuUsageData numbers env s).1 = .dumpOk) :
    ∃ cpuInfos avgInfo s₁, env.collector.processCpuStatInfos = some cpuInfos ∧
      s₁.curProcs = cpuInfos.map (toProcInfo numbers) ∧ s₁.cpuUsagePid = invalidPid ∧
      s₁.dumpCPUDatas = s.dumpCPUDatas ∧
      (dumpCpuUsageData numbers env s).2 = writeReport numbers env avgInfo s₁ := by
  simp only [dumpCpuUsageData] at hok ⊢
  have hkept : (getSysCPUInfo env.collector s).2.curProcs = s.curProcs ∧
      (getSysCPUInfo env.collector s).2.cpuUsagePid = s.cpuUsagePid ∧
      (getSysCPUInfo env.collector s).2.dumpCPUDatas = s.dumpCPUDatas := by
    simp only [getSysCPUInfo]
    split
    · exact ⟨rfl, rfl, rfl⟩
    · exact ⟨rfl, rfl, rfl⟩
  rcases hsys : getSysCPUInfo env.collector s with ⟨ok, s₁⟩
  rw [hsys] at hkept hok
  obtain ⟨hprocs, hpid₁, hdatas⟩ := hkept
  -- `DUMP_OK` rules out the three early returns: the system's usage, the processes and the load.
  cases ok with
  | false => cases hok
  | true =>
    -- No pid is asked for and none is left from before, so all processes are collected.
    have hall := collectProcInfo_all numbers env (hprocs.trans hs)
      (hpid₁.trans hpid)
    rcases hcollect : collectProcInfo numbers env.collector s₁ with ⟨ok, s₂⟩
    simp only [hcollect] at hok hall ⊢
    cases ok with
    | false => cases hok
    | true =>
      obtain ⟨cpuInfos, hcollected, rfl⟩ := hall rfl
      cases hload : readLoadAvgInfo numbers env.collector with
      | none =>
        rw [hload] at hok
        cases hok
      | some avgInfo =>
        exact ⟨cpuInfos, avgInfo, { s₁ with curProcs := cpuInfos.map (toProcInfo numbers) },
          hcollected, rfl, hpid₁.trans hpid, hdatas, rfl⟩

/-! ## The table of processes -/

section Table

variable [LinearOrder D]

/-- What the table is ordered by: total, user and kernel share, and the process id. -/
def procKey (numbers : CpuNumbers D) (cpuInfo : ProcessCpuStatInfo D) : D ×ₗ D ×ₗ D ×ₗ Nat :=
  toLex (numbers.timesHundred cpuInfo.cpuUsage, toLex (numbers.timesHundred cpuInfo.uCpuUsage,
    toLex (numbers.timesHundred cpuInfo.sCpuUsage, cpuInfo.pid)))

/-- `SortProcInfo` compares the keys: ids as texts are in the order of their numbers. -/
private theorem sortProcInfo_iff {a b : ProcessCpuStatInfo D} :
    sortProcInfo (toProcInfo numbers a) (toProcInfo numbers b) = true ↔
      procKey numbers b < procKey numbers a := by
  rw [sortProcInfo, ite_ne_lt_iff, ite_ne_lt_iff, ite_ne_lt_iff, ite_ne_lt_iff, decide_eq_true_eq]
  simp only [toProcInfo, Nat.toString_before_iff, procKey, Prod.Lex.toLex_lt_toLex]

/-- Different processes are told apart. -/
private theorem eq_of_not_sortProcInfo {cpuInfos : List (ProcessCpuStatInfo D)}
    (hpids : (cpuInfos.map (·.pid)).Nodup) :
    ∀ a ∈ cpuInfos.map (toProcInfo numbers), ∀ b ∈ cpuInfos.map (toProcInfo numbers),
      sortProcInfo b a = false → sortProcInfo a b = false → a = b := by
  intro a ha b hb hba hab
  obtain ⟨x, hx, rfl⟩ := List.mem_map.mp ha
  obtain ⟨y, hy, rfl⟩ := List.mem_map.mp hb
  have hle : ¬procKey numbers x < procKey numbers y := fun h => by
    rw [(sortProcInfo_iff numbers).mpr h] at hba
    cases hba
  have hge : ¬procKey numbers y < procKey numbers x := fun h => by
    rw [(sortProcInfo_iff numbers).mpr h] at hab
    cases hab
  have hkey : procKey numbers x = procKey numbers y := le_antisymm (not_lt.mp hge) (not_lt.mp hle)
  have hpid : x.pid = y.pid := congrArg (fun key => (ofLex (ofLex (ofLex key).2).2).2) hkey
  rw [inj_on_of_nodup_map hpids hx hy hpid]

/-- Two calls that differ in how the collected processes are listed and sorted only. -/
structure SameButOrder (env env' : CpuCallEnv D) : Prop where
  hasDumpPermission : env.hasDumpPermission = env'.hasDumpPermission
  localtime : env.localtime = env'.localtime
  firstProcessCpuStatInfos :
    env.collector.firstProcessCpuStatInfos = env'.collector.firstProcessCpuStatInfos
  sysCpuUsage : env.collector.sysCpuUsage = env'.collector.sysCpuUsage
  processCpuStatInfo : env.collector.processCpuStatInfo = env'.collector.processCpuStatInfo
  sysCpuLoad : env.collector.sysCpuLoad = env'.collector.sysCpuLoad
  processCpuStatInfos : Option.Rel List.Perm env.collector.processCpuStatInfos
    env'.collector.processCpuStatInfos
  sort : List.Sorts sortProcInfo env.sort
  sort' : List.Sorts sortProcInfo env'.sort

variable {env env' : CpuCallEnv D}

/-- The processes that a call lists have different ids. -/
def DistinctPids (collector : CpuCollector D) : Prop :=
  ∀ cpuInfos ∈ collector.processCpuStatInfos, (cpuInfos.map (·.pid)).Nodup

/-- The processes come into the sort in another order, and everything else is the same. -/
private theorem collectProcInfo_of_sameButOrder (h : SameButOrder env env')
    {s : DumpManagerCpuService D} (hs : s.curProcs = []) (hpids : DistinctPids env.collector) :
    ∃ ok s₁ s₂, collectProcInfo numbers env.collector s = (ok, s₁) ∧
      collectProcInfo numbers env'.collector s = (ok, s₂) ∧
      s₂ = { s₁ with curProcs := s₂.curProcs } ∧ env.sort s₁.curProcs = env'.sort s₂.curProcs := by
  simp only [collectProcInfo, getSingleProcInfo, ← h.processCpuStatInfo]
  split
  -- One process was asked for: the list of processes is not read.
  · have hnil : env.sort [] = env'.sort [] :=
      h.sort.eq_of_perm h.sort' (.refl []) (fun a ha => by cases ha)
    split
    · exact ⟨_, _, _, rfl, rfl, rfl, by rw [hs]; exact hnil⟩
    · exact ⟨_, _, _, rfl, rfl, rfl, by simp only [hs]; exact hnil⟩
  · have hrel := h.processCpuStatInfos
    -- Sorted by a total order on distinct pids, both arrangements come out as one list.
    have hsame : ∀ {l l' : List (ProcessCpuStatInfo D)}, l.Perm l' → (l.map (·.pid)).Nodup →
        env.sort ([] ++ l.map (toProcInfo numbers)) =
          env'.sort ([] ++ l'.map (toProcInfo numbers)) := fun hperm hpids =>
      h.sort.eq_of_perm h.sort' (hperm.map _) (eq_of_not_sortProcInfo numbers hpids)
    simp only [getAllProcInfo, hs]
    cases hl : env.collector.processCpuStatInfos with
    | none =>
      rw [hl] at hrel
      cases hl' : env'.collector.processCpuStatInfos with
      | none => exact ⟨_, _, _, rfl, rfl, rfl, by rw [hs]; exact hsame (.refl []) .nil⟩
      | some l' => rw [hl'] at hrel; cases hrel
    | some l =>
      rw [hl] at hrel
      cases hl' : env'.collector.processCpuStatInfos with
      | none => rw [hl'] at hrel; cases hrel
      | some l' =>
        rw [hl'] at hrel
        obtain ⟨hperm⟩ := hrel
        cases l with
        | nil =>
          obtain rfl := hperm.nil_eq
          exact ⟨_, _, _, rfl, rfl, rfl, by rw [hs]; exact hsame (.refl []) .nil⟩
        | cons a l =>
          cases l' with
          | nil => exact absurd hperm.length_eq (by simp)
          | cons b l' =>
            exact ⟨_, _, _, rfl, rfl, rfl, hsame hperm (hpids _ hl)⟩

/-- A report shows the processes in the order of the sort only. -/
private theorem writeReport_curProcs (h : SameButOrder env env') (avgInfo : String)
    {s : DumpManagerCpuService D} {procs : List (ProcInfo D)}
    (hsort : env.sort s.curProcs = env'.sort procs) :
    (writeReport numbers env avgInfo s).dumpCPUDatas =
      (writeReport numbers env' avgInfo { s with curProcs := procs }).dumpCPUDatas := by
  simp only [writeReport, addStrLineToDumpInfo, dumpProcInfo, h.localtime, hsort]
  by_cases hpid : s.cpuUsagePid = invalidPid
  · simp only [hpid, ne_eq, not_true_eq_false, if_false]
  · simp only [hpid, ne_eq, not_false_eq_true, if_true]

/-- Neither the order in which the collector lists the processes nor the way `std::sort`
    goes about it shows in the status or in the data of a request. -/
theorem request_eq_of_perm (h : SameButOrder env env') (hpids : DistinctPids env.collector)
    (dumpCpuData : DumpCpuData) {s : DumpManagerCpuService D} (hs : s.curProcs = []) :
    (request numbers env dumpCpuData s).1 = (request numbers env' dumpCpuData s).1 := by
  -- The two requests agree in their status and in the report; the order of `curProcs` only counts
  -- until it is sorted.
  have hdata : (dumpCpuUsageData numbers env (initParam numbers dumpCpuData s)).1 =
        (dumpCpuUsageData numbers env' (initParam numbers dumpCpuData s)).1 ∧
      (dumpCpuUsageData numbers env (initParam numbers dumpCpuData s)).2.dumpCPUDatas =
        (dumpCpuUsageData numbers env' (initParam numbers dumpCpuData s)).2.dumpCPUDatas := by
    have hsys : getSysCPUInfo env.collector (initParam numbers dumpCpuData s) =
        getSysCPUInfo env'.collector (initParam numbers dumpCpuData s) := by
      simp only [getSysCPUInfo, h.firstProcessCpuStatInfos, h.sysCpuUsage]
    have hempty : (getSysCPUInfo env'.collector (initParam numbers dumpCpuData s)).2.curProcs =
        [] := by
      simp only [getSysCPUInfo]
      split
      · exact hs
      · exact hs
    simp only [dumpCpuUsageData, hsys]
    rcases hs₁ : getSysCPUInfo env'.collector (initParam numbers dumpCpuData s) with ⟨ok, s₁⟩
    rw [hs₁] at hempty
    -- Whichever step fails first, it fails in both requests, with the report as it was.
    cases ok with
    | false => exact ⟨rfl, rfl⟩
    | true =>
      obtain ⟨ok, s₂, s₃, hcollect, hcollect', hrest, hsort⟩ :=
        collectProcInfo_of_sameButOrder numbers h hempty hpids
      simp only [hcollect, hcollect']
      have hload : readLoadAvgInfo numbers env.collector = readLoadAvgInfo numbers env'.collector := by
        simp only [readLoadAvgInfo, h.sysCpuLoad]
      have hdatas : s₂.dumpCPUDatas = s₃.dumpCPUDatas := by rw [hrest]
      cases ok with
      | false => exact ⟨rfl, hdatas⟩
      | true =>
        simp only [Bool.not_true, Bool.false_eq_true, if_false, hload]
        cases readLoadAvgInfo numbers env'.collector with
        | none => exact ⟨rfl, hdatas⟩
        | some avgInfo =>
          refine ⟨rfl, ?_⟩
          have hreport := writeReport_curProcs numbers h avgInfo hsort
          rwa [← hrest] at hreport
  simp only [request, h.hasDumpPermission]
  split
  · rfl
  · simp only [hdata]

/-- The lines of the processes, in the order they stand in: strictly by the key. -/
private theorem dumpProcInfo_order {sort : List (ProcInfo D) → List (ProcInfo D)}
    (hsort : List.Sorts sortProcInfo sort) {cpuInfos : List (ProcessCpuStatInfo D)}
    (hpids : (cpuInfos.map (·.pid)).Nodup) {s : DumpManagerCpuService D}
    (hprocs : s.curProcs = cpuInfos.map (toProcInfo numbers)) (hpid : s.cpuUsagePid = invalidPid) :
    ∃ table : List (ProcessCpuStatInfo D), table.Perm cpuInfos ∧
      table.Pairwise (fun a b => procKey numbers b < procKey numbers a) ∧
      (dumpProcInfo numbers sort s).dumpCPUDatas = s.dumpCPUDatas ++ procHeader ++
        (table.filterMap fun p => procLine numbers (toProcInfo numbers p)).map fun line => [line] := by
  have hties := eq_of_not_sortProcInfo numbers hpids
  obtain ⟨table, hperm, htable⟩ := (hsort.perm _).exists_map
  have hnodup : (cpuInfos.map (toProcInfo numbers)).Nodup := by
    refine List.Nodup.of_map ProcInfo.pid ?_
    have htexts := hpids.map fun _ _ heq => Nat.eq_of_toString_eq heq
    rwa [List.map_map] at htexts ⊢
  have horder := hsort.pairwise_before hnodup hties
  rw [htable, List.pairwise_map] at horder
  refine ⟨table, hperm, horder.imp (sortProcInfo_iff numbers).mp, ?_⟩
  simp only [dumpProcInfo, hpid, hprocs, htable, ne_eq, not_true_eq_false, if_false,
    List.filterMap_map, Function.comp_def]

/-- A successful request for all processes: behind the caller's lines and those about the
    load, the times and the CPU stands the table, which has the processes in strict order and
    lacks only those whose line does not fit. -/
theorem request_table (hsort : List.Sorts sortProcInfo env.sort)
    (hpids : DistinctPids env.collector) (dumpCpuData : DumpCpuData)
    (hpid : dumpCpuData.cpuUsagePid = invalidPid) {s : DumpManagerCpuService D}
    (hs : s.curProcs = []) (hok : (request numbers env dumpCpuData s).1.1 = .dumpOk) :
    ∃ (cpuInfos table : List (ProcessCpuStatInfo D)) (load times cpu : String),
      env.collector.processCpuStatInfos = some cpuInfos ∧ table.Perm cpuInfos ∧
      table.Pairwise (fun a b => procKey numbers b < procKey numbers a) ∧
      (request numbers env dumpCpuData s).1.2.dumpCPUDatas =
        dumpCpuData.dumpCPUDatas ++ [[load], [times], [cpu]] ++ procHeader ++
          (table.filterMap fun p => procLine numbers (toProcInfo numbers p)).map
            fun line => [line] := by
  simp only [request] at hok ⊢
  split at hok
  · cases hok
  · rename_i hpermission
    obtain ⟨cpuInfos, avgInfo, s₁, hcollected, hprocs, hpid₁, hdatas, hreport⟩ :=
      dumpCpuUsageData_ok numbers env (show (initParam numbers dumpCpuData s).curProcs = [] from hs) hpid hok
    have hdump := dumpProcInfo_order numbers hsort (hpids _ hcollected)
      (show (addStrLineToDumpInfo ((s₁.curCPUInfo.map (createCPUStatString numbers)).getD "")
        (addStrLineToDumpInfo (createDumpTimeString env.localtime s₁.startTime s₁.endTime)
          (addStrLineToDumpInfo avgInfo s₁))).curProcs = _ from hprocs) hpid₁
    obtain ⟨table, hperm, horder, htable⟩ := hdump
    refine ⟨cpuInfos, table, avgInfo,
      createDumpTimeString env.localtime s₁.startTime s₁.endTime,
      (s₁.curCPUInfo.map (createCPUStatString numbers)).getD "", hcollected, hperm, horder, ?_⟩
    rw [if_neg hpermission]
    simp only [hreport]
    refine Eq.trans htable ?_
    simp only [addStrLineToDumpInfo, hdatas, initParam, List.append_assoc, List.cons_append,
      List.nil_append]

end Table

/-! ## A report -/

/-- What `SortProcInfo` looks at. -/
def textKey (procInfo : ProcInfo Nat) : (Nat ×ₗ Nat ×ₗ Nat ×ₗ Nat ×ₗ String)ᵒᵈ :=
  OrderDual.toDual (toLex (procInfo.totalUsage, toLex (procInfo.userSpaceUsage,
    toLex (procInfo.sysSpaceUsage, toLex (procInfo.pid.length, procInfo.pid)))))

/-- `SortProcInfo` goes by usage, share of the user, share of the kernel and id, each from the
    largest on. -/
private theorem sortProcInfo_iff_textKey (a b : ProcInfo Nat) :
    sortProcInfo a b = true ↔ textKey a < textKey b := by
  rw [sortProcInfo, ite_ne_lt_iff, ite_ne_lt_iff, ite_ne_lt_iff, ite_ne_lt_iff, decide_eq_true_eq]
  simp only [textKey, OrderDual.toDual_lt_toDual, Prod.Lex.toLex_lt_toLex]

/-- Shares in whole percents. -/
def wholeNumbers : CpuNumbers Nat := ⟨0, (· + ·), id, fun n => toString n ++ ".00", toString⟩

/-- A call that collects these processes. -/
def reportEnv (cpuInfos : List (ProcessCpuStatInfo Nat)) : CpuCallEnv Nat where
  hasDumpPermission := true
  callingUid := 0
  callingPid := 1
  created := true
  collector := {
    firstProcessCpuStatInfos := some cpuInfos
    sysCpuUsage := some ⟨1000, 2000, []⟩
    processCpuStatInfos := some cpuInfos
    processCpuStatInfo := fun _ => none
    sysCpuLoad := some (1, 2, 3) }
  localtime _ := ⟨70, 0, 1, 0, 0, 0⟩
  sort procs := procs.mergeSort fun a b => decide (textKey a ≤ textKey b)

/-- Two processes that differ in their ids only, and a busier one. -/
def threeProcs : List (ProcessCpuStatInfo Nat) :=
  [⟨9, "init", 1, 0, 1, 1, 2⟩, ⟨10, "sh", 1, 0, 1, 1, 2⟩, ⟨2, "hidumper", 1, 0, 4, 1, 5⟩]

/-- Three processes in two orders. -/
theorem request_eq_of_perm_threeProcs :
    (request wholeNumbers (reportEnv threeProcs) {} {}).1 =
      (request wholeNumbers { reportEnv threeProcs with
        collector := { (reportEnv threeProcs).collector with
          processCpuStatInfos := some threeProcs.reverse } } {} {}).1 := by
  refine request_eq_of_perm wholeNumbers ?_ ?_ {} rfl
  · exact ⟨rfl, rfl, rfl, rfl, rfl, rfl, .some (List.reverse_perm _).symm,
      List.Sorts.mergeSort sortProcInfo_iff_textKey, List.Sorts.mergeSort sortProcInfo_iff_textKey⟩
  · intro cpuInfos hmem
    cases hmem
    decide

/-- A report about three processes. -/
theorem request_table_threeProcs :
    ∃ (cpuInfos table : List (ProcessCpuStatInfo Nat)) (load times cpu : String),
      (reportEnv threeProcs).collector.processCpuStatInfos = some cpuInfos ∧ table.Perm cpuInfos ∧
      table.Pairwise (fun a b => procKey wholeNumbers b < procKey wholeNumbers a) ∧
      (request wholeNumbers (reportEnv threeProcs) {} {}).1.2.dumpCPUDatas =
        [] ++ [[load], [times], [cpu]] ++ procHeader ++
          (table.filterMap fun p => procLine wholeNumbers (toProcInfo wholeNumbers p)).map
            fun line => [line] := by
  refine request_table wholeNumbers (List.Sorts.mergeSort sortProcInfo_iff_textKey) ?_ {} rfl rfl rfl
  intro cpuInfos hmem
  cases hmem
  decide

end CpuReports

end HiDumper.Spec
