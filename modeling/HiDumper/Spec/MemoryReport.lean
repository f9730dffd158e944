import Mathlib
import HiDumper.ForStd.Sorting
import HiDumper.Native.MemoryReport
import HiDumper.Spec.SplitTexts

/-!
# The sections of the memory report agree

The report shows the processes three times: by pid, by size and by reclaim priority. These
are the same processes with the same numbers, and the totals of the sections are sums over
them. The two page categories of the smaps files add up to what the report calls the usage of
the processes.

## Key results

- `report_tables`: the second table is the first one in strict order of size, and the third
  one splits the first one up
- `report_sums`: the totals of the sections are those of the processes
-/

namespace HiDumper.Spec

open HiDumper.Native HiDumper.Native.MemoryUsageInfo HiDumper.Native.MemoryReport

namespace MemoryReports

/-! ## The table by pid -/

/-- What the loop of `GetMemoryUsageInfo` has done with the processes of a table. -/
structure Recorded (env : Int → ProcessReadings) (info : MemoryUsageInfo) (all : List Int)
    (table : List MemUsage) (done : MemoryUsageInfo) : Prop where
  dumpPrune : done.dumpPrune = info.dumpPrune
  memUsages : done.memUsages = info.memUsages ++ table
  adjMemResult : ∀ label, done.adjMemResult label =
    info.adjMemResult label ++ table.filter fun usage => usage.adjLabel = label
  totalGL : done.totalGL = info.totalGL + (table.map (·.gl)).sum
  totalGraph : done.totalGraph = info.totalGraph + (table.map (·.graph)).sum
  totalDma : done.totalDma = info.totalDma + (table.map (·.dma)).sum
  written : done.written = info.written ++ table.map (memUsageToMatrix env info.dumpPrune)
  pids : table.map (·.pid) = all.filter fun pid => (env pid).smapsRollup.isSome
  adjLabel : ∀ usage ∈ table, ∃ pid ∈ all, usage.adjLabel = (env pid).adjLabel

variable {env : Int → ProcessReadings}

/-- Reading the rollup leaves the pid and the label. -/
private theorem setSmapsRollup_key (dumpPrune : Bool) (pid : Int) (readings : ProcessReadings)
    (memInfo : MemInfo) (usage : MemUsage) :
    (setSmapsRollup dumpPrune pid readings memInfo usage).pid = pid ∧
      (setSmapsRollup dumpPrune pid readings memInfo usage).adjLabel = readings.adjLabel := by
  cases dumpPrune <;> exact ⟨rfl, rfl⟩

private theorem addGL_key (dumpPrune : Bool) (gl : UInt64) (usage : MemUsage) :
    (addGL dumpPrune gl usage).pid = usage.pid ∧
      (addGL dumpPrune gl usage).adjLabel = usage.adjLabel := by
  cases dumpPrune <;> exact ⟨rfl, rfl⟩

/-- A round succeeds when smaps_rollup can be read, and its record is that of the process. -/
theorem getMemByProcessPid_spec (dumpPrune : Bool) (pid : Int) (readings : ProcessReadings)
    (usage : MemUsage) :
    (getMemByProcessPid dumpPrune pid readings usage).1 = readings.smapsRollup.isSome ∧
      (readings.smapsRollup.isSome →
        (getMemByProcessPid dumpPrune pid readings usage).2.pid = pid ∧
        (getMemByProcessPid dumpPrune pid readings usage).2.adjLabel = readings.adjLabel) := by
  refine ⟨rfl, fun hsome => ?_⟩
  obtain ⟨memInfo, hrollup⟩ := Option.isSome_iff_exists.mp hsome
  simp only [getMemByProcessPid, hrollup]
  have hrecord := setSmapsRollup_key dumpPrune pid readings memInfo usage
  have hgl : ∀ gl : UInt64,
      (addGL dumpPrune gl (setSmapsRollup dumpPrune pid readings memInfo usage)).pid = pid ∧
        (addGL dumpPrune gl (setSmapsRollup dumpPrune pid readings memInfo usage)).adjLabel =
          readings.adjLabel := by
    intro gl
    obtain ⟨hpid, hlabel⟩ := addGL_key dumpPrune gl
      (setSmapsRollup dumpPrune pid readings memInfo usage)
    exact ⟨hpid.trans hrecord.1, hlabel.trans hrecord.2⟩
  -- Neither the graphics memory nor the pruned form touches the key.
  cases getGraphicsMemory readings {} .gl with
  | none =>
    split
    · exact hrecord
    · split <;> exact hrecord
  | some memory =>
    split
    · exact hgl memory.gl
    · split <;> exact hgl memory.gl

/-- The loop records the processes whose smaps_rollup can be read, in order. -/
private theorem exists_recorded (env : Int → ProcessReadings) (pids : List Int) (usage : MemUsage)
    (info : MemoryUsageInfo) :
    ∃ table, Recorded env info pids table (usageLoop env pids usage info) := by
  induction pids generalizing usage info with
  | nil => exact ⟨[], by constructor <;> simp [usageLoop]⟩
  | cons pid pids ih =>
    obtain ⟨hsuccess, hrecord⟩ := getMemByProcessPid_spec info.dumpPrune pid (env pid) usage
    rcases hround : getMemByProcessPid info.dumpPrune pid (env pid) usage with ⟨success, usage'⟩
    simp only [hround] at hsuccess hrecord
    simp only [usageLoop, hround]
    cases success with
    -- A process without `smaps_rollup` is skipped: nothing is recorded.
    | false =>
      obtain ⟨table, h⟩ := ih usage' info
      refine ⟨table, { h with pids := ?_, adjLabel := ?_ }⟩
      · rw [h.pids, List.filter_cons_of_neg (by simp [← hsuccess])]
      · intro u hu
        obtain ⟨p, hp, hlabel⟩ := h.adjLabel u hu
        exact ⟨p, List.mem_cons_of_mem _ hp, hlabel⟩
    | true =>
      obtain ⟨hpid, hlabel⟩ := hrecord hsuccess.symm
      obtain ⟨table, h⟩ := ih usage' (record env info usage')
      refine ⟨usage' :: table, h.dumpPrune, ?_, ?_, ?_, ?_, ?_, ?_, ?_, ?_⟩
      · rw [h.memUsages]
        simp only [record, List.append_assoc, List.singleton_append]
      -- The usage joins the list of its own label, behind what is there.
      · intro label
        rw [h.adjMemResult]
        simp only [record]
        by_cases heq : label = usage'.adjLabel
        · simp [heq]
        · rw [if_neg heq, List.filter_cons_of_neg (by simpa using Ne.symm heq)]
      · rw [h.totalGL]
        simp only [record, List.map_cons, List.sum_cons, UInt64.add_assoc]
      · rw [h.totalGraph]
        simp only [record, List.map_cons, List.sum_cons, UInt64.add_assoc]
      · rw [h.totalDma]
        simp only [record, List.map_cons, List.sum_cons, UInt64.add_assoc]
      · rw [h.written]
        simp only [record, List.append_assoc, List.singleton_append, List.map_cons]
      · rw [List.map_cons, h.pids, List.filter_cons_of_pos (by simp [← hsuccess]), hpid]
      · intro u hu
        rcases List.mem_cons.mp hu with rfl | hu
        · exact ⟨pid, List.mem_cons_self, hlabel⟩
        · obtain ⟨p, hp, hl⟩ := h.adjLabel u hu
          exact ⟨p, List.mem_cons_of_mem _ hp, hl⟩

/-! ## The tables by size and by reclaim priority -/

/-- What the table by size is ordered by. -/
def sizeKey (usage : MemUsage) : Nat ×ₗ Nat ×ₗ Nat ×ₗ Nat ×ₗ Int :=
  toLex ((totalPss usage).toNat, toLex (usage.vss.toNat, toLex (usage.rss.toNat,
    toLex (usage.uss.toNat, usage.pid))))

instance irrefl_uint64_lt : Std.Irrefl fun a b : UInt64 => a < b := ⟨UInt64.lt_irrefl⟩

/-- The comparison is that of the sizes, the larger first. -/
private theorem biggerMemUsage_iff (a b : MemUsage) :
    biggerMemUsage a b = true ↔ OrderDual.toDual (sizeKey a) < OrderDual.toDual (sizeKey b) := by
  rw [biggerMemUsage, ite_ne_lt_iff, ite_ne_lt_iff, ite_ne_lt_iff, ite_ne_lt_iff, decide_eq_true_eq]
  simp only [OrderDual.toDual_lt_toDual, sizeKey, Prod.Lex.toLex_lt_toLex, UInt64.lt_iff_toNat_lt,
    ← UInt64.toNat_inj]

/-- Different processes are told apart by their ids. -/
private theorem eq_of_not_biggerMemUsage {table : List MemUsage}
    (hpids : (table.map (·.pid)).Nodup) :
    ∀ a ∈ table, ∀ b ∈ table, biggerMemUsage b a = false → biggerMemUsage a b = false → a = b := by
  refine List.Sorts.eq_of_ties biggerMemUsage_iff fun a ha b hb hkey => ?_
  have hpid : a.pid = b.pid :=
    congrArg (fun key => (ofLex (ofLex (ofLex (ofLex (OrderDual.ofDual key)).2).2).2).2) hkey
  exact List.inj_on_of_nodup_map hpids ha hb hpid

/-- The total of a label is that of its processes. -/
private theorem adjTotal_eq (info : MemoryUsageInfo) (label : String) :
    adjTotal info label = ((info.adjMemResult label).map totalPss).sum := by
  have hfold : ∀ (usages : List MemUsage) (a : UInt64),
      usages.foldl (fun a b => a + b.pss + b.swapPss) a = a + (usages.map totalPss).sum := by
    intro usages
    induction usages with
    | nil => simp
    | cons usage usages ih =>
      intro a
      rw [List.foldl_cons, ih, List.map_cons, List.sum_cons, totalPss]
      simp only [UInt64.add_assoc]
  rw [adjTotal, hfold, UInt64.zero_add]

/-- The processes of a label in the order they are listed in. -/
def adjProcesses (src : ReportSources) (info : MemoryUsageInfo) (label : String) : List MemUsage :=
  match info.adjMemResult label with
  | [] => []
  | memUsages => src.sortByPss memUsages

/-- A section has its total and then a line for each of its processes. -/
private theorem adjSection_eq (src : ReportSources) (info : MemoryUsageInfo) (label : String) :
    adjSection src info label =
      (label ++ ": " ++ addKbUnit (adjTotal info label) ++ "\n") ::
        (adjProcesses src info label).map adjLine := by
  cases h : info.adjMemResult label with
  | nil => simp [adjSection, adjProcesses, adjTotal, h]
  | cons usage usages => simp [adjSection, adjProcesses, h]

/-- The processes of a section are those with its label. -/
private theorem adjProcesses_perm {src : ReportSources} (hsort : List.Sorts biggerPss src.sortByPss)
    (info : MemoryUsageInfo) (label : String) :
    (adjProcesses src info label).Perm (info.adjMemResult label) := by
  cases h : info.adjMemResult label with
  | nil => simp [adjProcesses, h]
  | cons usage usages =>
    simp only [adjProcesses, h]
    exact hsort.perm _

/-- The processes of the labels, one label after the other. -/
private theorem flatMap_adjMemResult_perm {info done : MemoryUsageInfo} {all : List Int}
    {table : List MemUsage} (h : Recorded env info all table done)
    (hinfo : ∀ label, info.adjMemResult label = []) {labels : List String}
    (hlabels : labels.Nodup) (hall : ∀ pid ∈ all, (env pid).adjLabel ∈ labels) :
    (labels.flatMap done.adjMemResult).Perm table := by
  have hclass : done.adjMemResult =
      fun label => table.filter fun usage => usage.adjLabel = label := by
    funext label
    rw [h.adjMemResult, hinfo, List.nil_append]
  have hmem : table.filter (fun usage => usage.adjLabel ∈ labels) = table := by
    rw [List.filter_eq_self]
    intro usage husage
    obtain ⟨pid, hpid, hlabel⟩ := h.adjLabel usage husage
    rw [decide_eq_true_eq, hlabel]
    exact hall pid hpid
  have hclasses := List.flatMap_filter_perm (f := MemUsage.adjLabel) hlabels table
  rwa [hmem, ← hclass] at hclasses

/-! ## The report -/

/-- The sections of the report after the tables of the processes. -/
def summaries (src : ReportSources) (pids : List Int) (meminfo : ValueMap) : List String :=
  let smaps := smapsResult src pids
  ["\n"] ++ getPssTotal src (memoryUsageInfo src pids) smaps ++ ["\n"] ++
    getRamUsage smaps meminfo ++ ["\n"] ++ getRamCategory src smaps meminfo ++ ["\n"] ++
    getPurgTotal meminfo

/-- The report shows one table three times: by pid, in strict order of size, and by label. -/
theorem report_tables {src : ReportSources} {pids : List Int} {meminfo : ValueMap}
    (hpids : src.userPids = some pids) (hnodup : pids.Nodup) (hmeminfo : src.meminfo = some meminfo)
    (hbySize : List.Sorts biggerMemUsage src.sortBySize)
    (hbyPss : List.Sorts biggerPss src.sortByPss) (hlabels : (reclaimPriority src).Nodup)
    (hlabel : ∀ pid ∈ pids, (src.readings pid).adjLabel ∈ reclaimPriority src) :
    ∃ (table bySize : List MemUsage) (byLabel : String → List MemUsage),
      table.map (·.pid) = pids.filter (fun pid => (src.readings pid).smapsRollup.isSome) ∧
      (bySize.Perm table ∧ bySize.Pairwise fun a b => sizeKey b < sizeKey a) ∧
      ((reclaimPriority src).flatMap byLabel).Perm table ∧
      (∀ label, ∀ usage ∈ byLabel label, usage.adjLabel = label) ∧
      getMemoryInfoNoPid src = (.dumpOk,
        (memoryLine ++ "\n") :: addMemByProcessTitle "PID" ++
          table.map (memUsageToMatrix src.readings false) ++
        ("\n" :: addMemByProcessTitle "Size" ++
          bySize.map (memUsageToMatrix src.readings false)) ++
        "\n" :: "Total Pss by OOM adjustment:\n" ::
          (reclaimPriority src).flatMap (fun label =>
            (label ++ ": " ++ addKbUnit ((byLabel label).map totalPss).sum ++ "\n") ::
              (byLabel label).map adjLine) ++
        summaries src pids meminfo) := by
  obtain ⟨table, h⟩ :=
    exists_recorded src.readings pids initMemUsage { dumpPrune := false }
  change Recorded src.readings { dumpPrune := false } pids table (memoryUsageInfo src pids) at h
  have husages : (memoryUsageInfo src pids).memUsages = table := h.memUsages
  have hprune : (memoryUsageInfo src pids).dumpPrune = false := h.dumpPrune
  have htable : (table.map (·.pid)).Nodup := h.pids ▸ hnodup.filter _
  refine ⟨table, src.sortBySize table, adjProcesses src (memoryUsageInfo src pids), h.pids,
    ⟨hbySize.perm table, ?_⟩, ?_, ?_, ?_⟩
  -- Distinct pids break every tie, so the order of size is strict.
  · have hbefore := hbySize.pairwise_before (List.Nodup.of_map _ htable)
      (eq_of_not_biggerMemUsage htable)
    refine hbefore.imp fun {a b} hab => ?_
    exact OrderDual.toDual_lt_toDual.mp ((biggerMemUsage_iff a b).mp hab)
  -- The label tables together hold every row once, as every label is in the list once.
  · have hperm := List.Perm.flatMap_left (reclaimPriority src) fun label _ =>
      adjProcesses_perm hbyPss (memoryUsageInfo src pids) label
    exact hperm.trans (flatMap_adjMemResult_perm h (fun _ => rfl) hlabels hlabel)
  · intro label usage husage
    have hmem := (adjProcesses_perm hbyPss _ label).mem_iff.mp husage
    rw [h.adjMemResult, List.nil_append, List.mem_filter] at hmem
    exact of_decide_eq_true hmem.2
  -- The total of a label is taken before its rows are sorted.
  · have hsection : adjSection src (memoryUsageInfo src pids) = fun label =>
        (label ++ ": " ++
          addKbUnit ((adjProcesses src (memoryUsageInfo src pids) label).map totalPss).sum ++
            "\n") :: (adjProcesses src (memoryUsageInfo src pids) label).map adjLine := by
      funext label
      rw [adjSection_eq, adjTotal_eq, ((adjProcesses_perm hbyPss _ label).map totalPss).sum_eq]
    have hwritten : (memoryUsageInfo src pids).written =
        table.map (memUsageToMatrix src.readings false) := h.written
    simp only [getMemoryInfoNoPid, hpids, hmeminfo, dealResult, getSortedMemoryInfoNoPid,
      getMemoryByAdj, summaries, husages, hprune, hwritten, hsection, List.append_assoc,
      List.cons_append, List.nil_append]

/-- Two processes on a system that answers little else. -/
def twoProcesses : ReportSources where
  strings := StringEx.simple
  userPids := some [7, 3]
  readings pid :=
    { smapsRollup := some { rss := 40, pss := 30 }
      graphicUsage := fun _ => some 2
      vss := 100
      procName := "process"
      adjLabel := if pid = 7 then "Foreground" else "Unknown"
      scoreAdj := 0 }
  smaps pid :=
    if pid = 7 then ["00400000-00401000 r-xp 00000000 b3:01 42 /lib/a.so", "Pss: 12 kB"]
    else ["00500000-00501000 rw-p 00000000 00:00 0 [heap]", "Pss: 5 kB", "SwapPss: 3 kB"]
  meminfo := some ∅
  hardwareUsage := none
  cmaUsed := none
  vmallocinfo := none
  reclaimPriorities := ["Foreground"]
  reclaimPriorityUnknown := "Unknown"
  sortBySize l := l.mergeSort fun a b =>
    decide (OrderDual.toDual (sizeKey a) ≤ OrderDual.toDual (sizeKey b))
  sortByPss l := l.mergeSort fun a b =>
    decide (OrderDual.toDual (totalPss a).toNat ≤ OrderDual.toDual (totalPss b).toNat)
  sortByValue l := l

/-- The labels of the two processes are reclaim priorities. -/
private theorem twoProcesses_adjLabel : ∀ pid ∈ [7, 3],
    (twoProcesses.readings pid).adjLabel ∈ reclaimPriority twoProcesses := by
  decide

/-- Two processes with different labels. -/
theorem report_tables_twoProcesses : ∃ table bySize : List MemUsage,
    table.map (·.pid) = [7, 3] ∧ bySize.Perm table ∧
      (getMemoryInfoNoPid twoProcesses).1 = .dumpOk := by
  have hpss : ∀ a b : MemUsage, biggerPss a b = true ↔
      OrderDual.toDual (totalPss a).toNat < OrderDual.toDual (totalPss b).toNat := by
    intro a b
    rw [biggerPss, decide_eq_true_eq, OrderDual.toDual_lt_toDual, UInt64.lt_iff_toNat_lt]
  have hpids : twoProcesses.userPids = some [7, 3] := rfl
  obtain ⟨table, bySize, _, htable, hbySize, -, -, hreport⟩ := report_tables
    hpids (by decide) rfl (List.Sorts.mergeSort biggerMemUsage_iff) (List.Sorts.mergeSort hpss)
    (by decide) twoProcesses_adjLabel
  exact ⟨table, bySize, htable, hbySize.1, by rw [hreport]⟩

/-! ## The usage of the processes -/

open MemoryFilter in
/-- What a line of a smaps file adds to the usage of the processes. -/
def pssOfLine (line : String) : UInt64 :=
  if isEnd line "B" then
    match ParseSmapsInfo.getNoPidValue line with
    | some (type, value) => if type ∈ calcPssTotal then value else 0
    | none => 0
  else 0

/-- What a group has of the usage of the processes. -/
def groupPss (values : ValueMap) : UInt64 :=
  (values.lookup "Pss").getD 0 + (values.lookup "SwapPss").getD 0

/-- The sum that `GetPss` makes of a group. -/
private theorem addOfKeys_calcPssTotal (values : ValueMap) (total : UInt64) :
    addOfKeys MemoryFilter.calcPssTotal values total = total + groupPss values := by
  have hkeys : ∀ (keys : List String) (total : UInt64), addOfKeys keys values total =
      total + (keys.map fun key => (values.lookup key).getD 0).sum := by
    intro keys
    induction keys with
    | nil => simp [addOfKeys]
    | cons key keys ih =>
      intro total
      rw [addOfKeys, List.foldl_cons]
      refine (ih _).trans ?_
      cases h : values.lookup key with
      | none => simp [h]
      | some value => simp [h, add_assoc]
  rw [hkeys]
  simp [groupPss, MemoryFilter.calcPssTotal]

/-- A value counts for its group if its type does. -/
private theorem groupPss_upsert (values : ValueMap) (type : String) (value : UInt64) :
    groupPss (values.upsert type value (· + value)) =
      groupPss values + if type ∈ MemoryFilter.calcPssTotal then value else 0 := by
  have hlookup : ∀ key, ((values.upsert type value (· + value)).lookup key).getD 0 =
      (values.lookup key).getD 0 + if key = type then value else 0 := by
    intro key
    rw [AList.lookup_upsert]
    by_cases heq : key = type
    · subst heq
      cases values.lookup key <;> simp
    · simp [heq]
  rw [groupPss, groupPss, hlookup, hlookup]
  by_cases hpss : type = "Pss"
  · subst hpss
    simp [MemoryFilter.calcPssTotal, add_right_comm]
  · by_cases hswap : type = "SwapPss"
    · subst hswap
      simp [MemoryFilter.calcPssTotal, add_assoc]
    · simp [MemoryFilter.calcPssTotal, hpss, hswap, Ne.symm hpss, Ne.symm hswap]

/-- The sum over the groups is that of `GetProcess`. -/
private theorem getProcess_eq (infos : GroupMap) : getProcess infos = infos.sumVals groupPss := by
  have hfold : ∀ (entries : List (Sigma fun _ : String => ValueMap)) (total : UInt64),
      entries.foldl (fun totalValue info =>
        addOfKeys MemoryFilter.calcProcessTotal info.2 totalValue) total =
          total + (entries.map fun info => groupPss info.2).sum := by
    intro entries
    induction entries with
    | nil => simp
    | cons info entries ih =>
      intro total
      have hgroup : addOfKeys MemoryFilter.calcProcessTotal info.2 total =
          total + groupPss info.2 := addOfKeys_calcPssTotal info.2 total
      rw [List.foldl_cons, hgroup, ih, List.map_cons, List.sum_cons, add_assoc]
  rw [getProcess, hfold, zero_add, AList.sumVals]

private theorem sumVals_calcGroup (group type : String) (value : UInt64) (infos : GroupMap) :
    (MemoryUtil.calcGroup group type value infos).sumVals groupPss =
      infos.sumVals groupPss + if type ∈ MemoryFilter.calcPssTotal then value else 0 := by
  refine AList.sumVals_upsert _ ?_ fun values => groupPss_upsert values type value
  have hempty := groupPss_upsert ∅ type value
  rw [AList.upsert, AList.lookup_empty] at hempty
  rw [hempty, groupPss, AList.lookup_empty, AList.lookup_empty]
  exact zero_add _

/-- A line adds its value to the sum over all groups, whatever group it is put into. -/
private theorem sumVals_parseLine (parse : ParseSmapsInfo.SmapsParse) (line : String) :
    (ParseSmapsInfo.parseLine .notSpecifiedPid parse line).result.sumVals groupPss =
      parse.result.sumVals groupPss + pssOfLine line := by
  unfold ParseSmapsInfo.parseLine pssOfLine
  by_cases hend : isEnd line "B" = true
  · rw [if_pos hend, if_pos hend]
    have hvalue : ParseSmapsInfo.getNoPidValue line =
        ParseSmapsInfo.getValue .notSpecifiedPid line := rfl
    rw [hvalue]
    cases ParseSmapsInfo.getValue .notSpecifiedPid line with
    | none => simp
    | some entry => exact sumVals_calcGroup _ _ _ _
  · rw [if_neg hend, if_neg hend]
    cases MemoryUtil.isNameLine line <;> simp

/-- The groups have what the lines of the files add up to. -/
private theorem sumVals_smapsResult (src : ReportSources) (pids : List Int) :
    (smapsResult src pids).sumVals groupPss =
      (pids.map fun pid => ((src.smaps pid).map pssOfLine).sum).sum := by
  have hlines : ∀ (lines : List String) (parse : ParseSmapsInfo.SmapsParse),
      (lines.foldl (ParseSmapsInfo.parseLine .notSpecifiedPid) parse).result.sumVals groupPss =
        parse.result.sumVals groupPss + (lines.map pssOfLine).sum := by
    intro lines
    induction lines with
    | nil => simp
    | cons line lines ih =>
      intro parse
      rw [List.foldl_cons, ih, sumVals_parseLine, List.map_cons, List.sum_cons, add_assoc]
  -- The parser adds to the map, so the processes' sums add up.
  have hpids : ∀ infos : GroupMap,
      (pids.foldl (fun groupMap pid => getSmapsInfoNoPid (src.smaps pid) groupMap) infos).sumVals
          groupPss =
        infos.sumVals groupPss + (pids.map fun pid => ((src.smaps pid).map pssOfLine).sum).sum := by
    induction pids with
    | nil => simp
    | cons pid pids ih =>
      intro infos
      rw [List.foldl_cons, ih, getSmapsInfoNoPid, hlines, List.map_cons, List.sum_cons, add_assoc]
  rw [smapsResult, hpids, AList.sumVals_empty, zero_add]

/-! ## The page categories -/

/-- Every group belongs to a page category. -/
def AllPaged (strings : StringEx) (infos : GroupMap) : Prop :=
  ∀ group ∈ infos, (pageTag strings group).isSome

/-- A value in a group with a page keeps every group one with a page. -/
private theorem allPaged_calcGroup {strings : StringEx} {infos : GroupMap}
    (h : AllPaged strings infos)
    {group : String} (hgroup : (pageTag strings group).isSome) (type : String) (value : UInt64) :
    AllPaged strings (MemoryUtil.calcGroup group type value infos) := by
  intro g hg
  rw [← AList.lookup_isSome, MemoryUtil.calcGroup, AList.lookup_upsert] at hg
  by_cases heq : g = group
  · exact heq ▸ hgroup
  · rw [if_neg heq] at hg
    exact h g (AList.lookup_isSome.mp hg)

/-- A group that is found is one of the map. -/
private theorem getGroupFromMap_mem {name group : String} {map : List (String × String)}
    {func : String → String → Bool} (h : MemoryFilter.getGroupFromMap name map func = some group) :
    group ∈ map.map (·.2) := by
  rw [MemoryFilter.getGroupFromMap, Option.map_eq_some_iff] at h
  obtain ⟨entry, hfind, rfl⟩ := h
  exact List.mem_map_of_mem (List.mem_of_find?_eq_some hfind)

/-- The test that each of the texts is one part of a split at '#'. -/
private theorem parts_of_all {texts : List String}
    (h : (texts.all fun text =>
      !text.toList.isEmpty && text.toList.all fun c => !(c == '#')) = true) :
    ∀ text ∈ texts, text.toList ≠ [] ∧ ∀ c ∈ text.toList, (c == '#') = false := by
  intro text htext
  obtain ⟨hne, hall⟩ := (Bool.and_eq_true _ _).mp (List.all_eq_true.mp h text htext)
  refine ⟨by simpa using hne, fun c hc => ?_⟩
  rw [← Bool.not_eq_true']
  exact List.all_eq_true.mp hall c hc

/-- The group of a region has a page tag. -/
private theorem pageTag_parseMemoryGroup {strings : StringEx} (hstrings : SplitsParts strings)
    (name : String) (iNode : UInt64) :
    (pageTag strings (MemoryFilter.parseMemoryGroup name iNode)).isSome := by
  -- Neither a tag nor a group's name holds a `#`: checked over the tables.
  have htags : ∀ tag ∈ [MemoryFilter.filePageTag, MemoryFilter.anonPageTag],
      tag.toList ≠ [] ∧ ∀ c ∈ tag.toList, (c == '#') = false := parts_of_all (by decide)
  have hgroups : ∀ group ∈ MemoryFilter.endMap.map (·.2) ++ MemoryFilter.beginMap.map (·.2) ++
      ["other"], group.toList ≠ [] ∧ ∀ c ∈ group.toList, (c == '#') = false :=
    parts_of_all (by decide)
  obtain ⟨tag, htag, htageq⟩ : ∃ tag ∈ [MemoryFilter.filePageTag, MemoryFilter.anonPageTag],
      (if iNode > 0 then MemoryFilter.filePageTag else MemoryFilter.anonPageTag) = tag := by
    by_cases h : iNode > 0
    · exact ⟨_, by simp, if_pos h⟩
    · exact ⟨_, by simp, if_neg h⟩
  -- The end of the name decides first, then its beginning, else the group is `other`.
  obtain ⟨group, hgroup, hgroupeq⟩ : ∃ group ∈ MemoryFilter.endMap.map (·.2) ++
      MemoryFilter.beginMap.map (·.2) ++ ["other"],
      ((MemoryFilter.getGroupFromMap name MemoryFilter.endMap isEnd).or
        (MemoryFilter.getGroupFromMap name MemoryFilter.beginMap startWith)).getD "other" =
          group := by
    cases hend : MemoryFilter.getGroupFromMap name MemoryFilter.endMap isEnd with
    | some group => exact ⟨group, by simp [getGroupFromMap_mem hend], rfl⟩
    | none =>
      cases hbegin : MemoryFilter.getGroupFromMap name MemoryFilter.beginMap startWith with
      | some group => exact ⟨group, by simp [getGroupFromMap_mem hbegin], rfl⟩
      | none => exact ⟨"other", by simp, rfl⟩
  -- So the text splits at `#` into just these two.
  have hsplit := hstrings.splitStr_eq (tag ++ "#" ++ group) '#'
  have hchars : (tag ++ "#" ++ group).toList = tag.toList ++ '#' :: group.toList := by simp
  rw [hchars, List.fields_part_append (htags tag htag).1 (htags tag htag).2 (by simp),
    List.fields_cons_sep (by decide), List.fields_part (hgroups group hgroup).1
      (hgroups group hgroup).2] at hsplit
  rw [MemoryFilter.parseMemoryGroup, htageq, hgroupeq, pageTag,
    show "#" = String.singleton '#' from rfl]
  rw [show String.singleton '#' = "#" from rfl] at hsplit ⊢
  rw [hsplit]
  rfl

/-- The two categories have every group once. -/
private theorem pages_sum {strings : StringEx} {infos : GroupMap} (h : AllPaged strings infos) :
    totalOfPairs (pages strings infos true) + totalOfPairs (pages strings infos false) =
      infos.sumVals groupPss := by
  -- Both totals are sums over lists of pairs.
  have hfold : ∀ (vec : List (String × UInt64)) (total : UInt64),
      vec.foldl (fun a b => a + b.2) total = total + (vec.map (·.2)).sum := by
    intro vec
    induction vec with
    | nil => simp
    | cons pair vec ih =>
      intro total
      rw [List.foldl_cons, ih, List.map_cons, List.sum_cons, add_assoc]
  have htotal : ∀ vec, totalOfPairs vec = (vec.map (·.2)).sum := by
    intro vec
    rw [totalOfPairs, hfold, zero_add]
  have hentries : ∀ info ∈ infos.entries, (pageTag strings info.1).isSome := fun info hinfo =>
    h info.1 (AList.mem_keys.mpr (List.mem_keys_of_mem hinfo))
  rw [htotal, htotal, pages, pages, AList.sumVals]
  revert hentries
  induction infos.entries with
  | nil => simp
  | cons info entries ih =>
    intro hentries
    obtain ⟨⟨tag, group⟩, htag⟩ := Option.isSome_iff_exists.mp (hentries info List.mem_cons_self)
    have ih := ih fun info hinfo => hentries info (List.mem_cons_of_mem _ hinfo)
    -- Each group goes into one of the two lists, by its tag.
    by_cases hfile : tag = MemoryFilter.filePageTag
    · simp [htag, hfile, ← ih, addOfKeys_calcPssTotal, add_assoc]
    · simp [htag, hfile, ← ih, addOfKeys_calcPssTotal, add_left_comm]

/-- A smaps file that begins with the header of a region. The parser takes a line that ends in `B`
    for a value, whatever its path. -/
def BeginsWithRegion (lines : List String) : Prop :=
  ∀ line ∈ lines.head?, isEnd line "B" = false ∧ (MemoryUtil.isNameLine line).isSome

/-- If every file begins with a region, every group has a page. -/
private theorem allPaged_smapsResult {src : ReportSources} (hstrings : SplitsParts src.strings)
    {pids : List Int} (hsmaps : ∀ pid ∈ pids, BeginsWithRegion (src.smaps pid)) :
    AllPaged src.strings (smapsResult src pids) := by
  -- A line keeps the group of its region paged, and charges to it only.
  have hline : ∀ (parse : ParseSmapsInfo.SmapsParse) (line : String),
      AllPaged src.strings parse.result →
      ((pageTag src.strings parse.memGroup).isSome ∨
        isEnd line "B" = false ∧ (MemoryUtil.isNameLine line).isSome) →
      AllPaged src.strings (ParseSmapsInfo.parseLine .notSpecifiedPid parse line).result ∧
        (pageTag src.strings
          (ParseSmapsInfo.parseLine .notSpecifiedPid parse line).memGroup).isSome := by
    intro parse line hresult hgroup
    unfold ParseSmapsInfo.parseLine
    by_cases hend : isEnd line "B" = true
    · have hgroup : (pageTag src.strings parse.memGroup).isSome :=
        hgroup.resolve_right fun h => by simp [hend] at h
      rw [if_pos hend]
      cases hvalue : ParseSmapsInfo.getValue .notSpecifiedPid line with
      | none => exact ⟨hresult, hgroup⟩
      | some entry => exact ⟨allPaged_calcGroup hresult hgroup _ _, hgroup⟩
    · rw [if_neg hend]
      cases hname : MemoryUtil.isNameLine line with
      | none => exact ⟨hresult, hgroup.resolve_right fun h => by simp [hname] at h⟩
      | some header => exact ⟨hresult, pageTag_parseMemoryGroup hstrings _ _⟩
  have hlines : ∀ (lines : List String) (parse : ParseSmapsInfo.SmapsParse),
      AllPaged src.strings parse.result →
      ((pageTag src.strings parse.memGroup).isSome ∨ BeginsWithRegion lines) →
      AllPaged src.strings
        (lines.foldl (ParseSmapsInfo.parseLine .notSpecifiedPid) parse).result := by
    intro lines
    induction lines with
    | nil => exact fun parse hresult _ => hresult
    | cons line lines ih =>
      intro parse hresult hgroup
      obtain ⟨hnext, hpaged⟩ := hline parse line hresult (hgroup.imp_right fun h => h line rfl)
      exact ih _ hnext (.inl hpaged)
  have hpids : ∀ (pids : List Int) (infos : GroupMap), AllPaged src.strings infos →
      (∀ pid ∈ pids, BeginsWithRegion (src.smaps pid)) →
      AllPaged src.strings
        (pids.foldl (fun groupMap pid => getSmapsInfoNoPid (src.smaps pid) groupMap) infos) := by
    intro pids
    induction pids with
    | nil => exact fun infos hinfos _ => hinfos
    | cons pid pids ih =>
      intro infos hinfos hall
      refine ih _ ?_ fun p hp => hall p (List.mem_cons_of_mem _ hp)
      exact hlines _ _ hinfos (.inr (hall pid List.mem_cons_self))
  exact hpids pids ∅ (fun group hgroup => absurd hgroup (AList.notMem_empty group)) hsmaps

/-- The page categories and the usage of the processes are what the smaps files have in
    their Pss and SwapPss lines, and the labels have the total of the processes. -/
theorem report_sums {src : ReportSources} {pids : List Int} (hstrings : SplitsParts src.strings)
    (hsmaps : ∀ pid ∈ pids, BeginsWithRegion (src.smaps pid))
    (hlabels : (reclaimPriority src).Nodup)
    (hlabel : ∀ pid ∈ pids, (src.readings pid).adjLabel ∈ reclaimPriority src) :
    totalOfPairs (pages src.strings (smapsResult src pids) true) +
        totalOfPairs (pages src.strings (smapsResult src pids) false) =
          getProcess (smapsResult src pids) ∧
      getProcess (smapsResult src pids) =
        (pids.map fun pid => ((src.smaps pid).map pssOfLine).sum).sum ∧
      ((reclaimPriority src).map (adjTotal (memoryUsageInfo src pids))).sum =
        ((memoryUsageInfo src pids).memUsages.map totalPss).sum := by
  refine ⟨?_, ?_, ?_⟩
  · rw [getProcess_eq, pages_sum (allPaged_smapsResult hstrings hsmaps)]
  · rw [getProcess_eq, sumVals_smapsResult]
  · obtain ⟨table, h⟩ :=
      exists_recorded src.readings pids initMemUsage { dumpPrune := false }
    change Recorded src.readings { dumpPrune := false } pids table (memoryUsageInfo src pids) at h
    have husages : (memoryUsageInfo src pids).memUsages = table := h.memUsages
    have hperm := flatMap_adjMemResult_perm h (fun _ => rfl) hlabels hlabel
    rw [husages, ← (hperm.map totalPss).sum_eq, List.map_flatMap, List.flatMap_def,
      List.sum_flatten, List.map_map]
    exact congrArg List.sum (List.map_congr_left fun label _ => adjTotal_eq _ label)

/-- The sums of the two processes. -/
theorem report_sums_twoProcesses :
    totalOfPairs (pages StringEx.simple (smapsResult twoProcesses [7, 3]) true) +
        totalOfPairs (pages StringEx.simple (smapsResult twoProcesses [7, 3]) false) = 20 := by
  have hsmaps : ∀ pid ∈ [7, 3], BeginsWithRegion (twoProcesses.smaps pid) := by
    unfold BeginsWithRegion
    decide
  have hstrings : SplitsParts twoProcesses.strings := simple_splitsParts
  obtain ⟨hpages, hlines, -⟩ := report_sums hstrings hsmaps (by decide) twoProcesses_adjLabel
  exact (hpages.trans hlines).trans (by decide)

end MemoryReports

end HiDumper.Spec
