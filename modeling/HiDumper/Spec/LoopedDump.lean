import HiDumper.Spec.DumpedLines

/-!
# One line per pass

A dumper configured with `LOOP` gives one line per pass through the executor list, and
`DumpDatas` comes back to it after each output; without `LOOP` it gives all lines at once.
The output is given the same rows either way: the title of the group once, the header of
the dumper once and every line once, in order, each through the filters of its section.

A `DumpSection` is what the tables make of a dumper: the dumper, its filters, an output.
`Reading` collects what the two kinds of dumpers have in common.

## Key results

- `reaches_of_reading`: a section is left with all its rows handed over, looping or not
- `dumpDatas_rows`: the rows of a whole list, for any choice of looping dumpers
-/

namespace HiDumper.Spec

open HiDumper.Native Loop

/-! ## Sections -/

/-- A dumper with the filters and the output that follow it. -/
structure DumpSection where
  dumper : DumpCfg
  filters : List DumpCfg
  output : DumpCfg
  dumper_cls : dumper.cls = .cmdDumper ∨ dumper.cls = .fileDumper
  filters_cls : ∀ cfg ∈ filters, cfg.cls = .columnRowsFilter ∨ cfg.cls = .fileFormatDumpFilter
  output_cls : output.cls = .fdOutput

/-- A part of an executor list. -/
inductive DumpPart where
  | group (cfg : DumpCfg) (cls : cfg.cls = .group)
  | dumper (sec : DumpSection)

namespace DumpPart

/-- The configurations of a part, in the order of the list. -/
def configs : DumpPart → List DumpCfg
  | .group cfg _ => [cfg]
  | .dumper sec => sec.dumper :: sec.filters ++ [sec.output]

/-- The part with another `loop_` for its dumper. -/
def withLoop (value : DumperConstant) : DumpPart → DumpPart
  | .group cfg cls => .group cfg cls
  | .dumper sec => .dumper { sec with
      dumper := { sec.dumper with loop := value }
      dumper_cls := sec.dumper_cls }

end DumpPart

/-- Do the items fall into sections? `within` is true after a dumper, until its output. -/
def fallsIntoSections : Bool → List ItemCfg → Bool
  | within, [] => !within
  | false, item :: items =>
    (item.cls = .cmdDumper || item.cls = .fileDumper) && fallsIntoSections true items
  | true, item :: items =>
    if item.cls = .fdOutput then fallsIntoSections false items
    else (item.cls = .columnRowsFilter || item.cls = .fileFormatDumpFilter) &&
      fallsIntoSections true items

/-- Every dumper of the built-in table that only runs commands and reads files falls into
    sections. -/
theorem builtin_fallsIntoSections : (ConfigData.builtin.dumpers.all fun cfg =>
    fallsIntoSections false cfg.list || cfg.list.any fun item =>
      item.cls.isDumper && item.cls ≠ .cmdDumper && item.cls ≠ .fileDumper) = true := by
  decide +kernel

/-- The configurations that `GetDumper` makes of such items are those of a list of parts,
    whichever filters it leaves out. -/
theorem exists_parts (args : Option OptionArgs) (level : DumperConstant) (items : List ItemCfg) :
    (fallsIntoSections false items = true → ∃ parts : List DumpPart,
      (items.filter fun item => !ConfigUtils.skipsItem item level).map
        (ConfigUtils.dumpCfgOfItem · args) = parts.flatMap DumpPart.configs) ∧
    (fallsIntoSections true items = true → ∃ (filters : List DumpCfg) (output : DumpCfg)
      (parts : List DumpPart),
      (∀ cfg ∈ filters, cfg.cls = .columnRowsFilter ∨ cfg.cls = .fileFormatDumpFilter) ∧
      output.cls = .fdOutput ∧
      (items.filter fun item => !ConfigUtils.skipsItem item level).map
        (ConfigUtils.dumpCfgOfItem · args) =
          filters ++ output :: parts.flatMap DumpPart.configs) := by
  induction items with
  | nil => exact ⟨fun _ => ⟨[], rfl⟩, fun h => absurd h (by simp [fallsIntoSections])⟩
  | cons item items ih =>
    constructor
    -- Between parts: the next item is a dumper, and it is never skipped.
    · intro h
      simp only [fallsIntoSections, Bool.and_eq_true, Bool.or_eq_true, decide_eq_true_eq] at h
      obtain ⟨filters, output, parts, hfilters, houtput, hitems⟩ := ih.2 h.2
      have hfilter : item.cls.isFilter = false := by
        rcases h.1 with hcls | hcls <;> rw [hcls] <;> decide
      have hkept : ConfigUtils.skipsItem item level = false := by
        simp [ConfigUtils.skipsItem, hfilter]
      have hdumper : (ConfigUtils.dumpCfgOfItem item args).cls = .cmdDumper ∨
          (ConfigUtils.dumpCfgOfItem item args).cls = .fileDumper := h.1
      exact ⟨.dumper ⟨_, filters, output, hdumper, hfilters, houtput⟩ :: parts,
        by simp [hkept, hitems, DumpPart.configs]⟩
    -- Inside of a part: filters, some of them left out, up to the output.
    · intro h
      by_cases hcls : item.cls = .fdOutput
      · simp only [fallsIntoSections, hcls, if_true] at h
        obtain ⟨parts, hitems⟩ := ih.1 h
        have hfilter : item.cls.isFilter = false := by
          rw [hcls]
          decide
        have hkept : ConfigUtils.skipsItem item level = false := by
          simp [ConfigUtils.skipsItem, hfilter]
        have houtput : (ConfigUtils.dumpCfgOfItem item args).cls = .fdOutput := hcls
        exact ⟨[], _, parts, fun _ hcfg => absurd hcfg List.not_mem_nil, houtput,
          by simp [hkept, hitems]⟩
      · simp only [fallsIntoSections, hcls, if_false, Bool.and_eq_true, Bool.or_eq_true,
          decide_eq_true_eq] at h
        obtain ⟨filters, output, parts, hfilters, houtput, hitems⟩ := ih.2 h.2
        by_cases hskip : ConfigUtils.skipsItem item level = true
        · exact ⟨filters, output, parts, hfilters, houtput, by simp [hskip, hitems]⟩
        · have hfilter : (ConfigUtils.dumpCfgOfItem item args).cls = .columnRowsFilter ∨
              (ConfigUtils.dumpCfgOfItem item args).cls = .fileFormatDumpFilter := h.1
          refine ⟨ConfigUtils.dumpCfgOfItem item args :: filters, output, parts, ?_, houtput, ?_⟩
          · intro cfg hcfg
            rcases List.mem_cons.mp hcfg with rfl | hcfg
            · exact hfilter
            · exact hfilters cfg hcfg
          · simp [hskip, hitems]

/-! ## Rows -/

/-- What a filter makes of a row. -/
def filterRow (cfg : DumpCfg) (row : Row) : Row :=
  if cfg.cls = .fileFormatDumpFilter then row.map filterControlChar else row

/-- What filters make of a row, one after the other. -/
def filterRows (filters : List DumpCfg) (row : Row) : Row :=
  filters.foldl (fun row cfg => filterRow cfg row) row

/-- The rows of a command: a header and every line of what it prints. -/
def cmdRows (env : DumpEnv) (cfg : DumpCfg) : List Row :=
  if cfg.args.any fun args => args.hasPid && cfg.name = "dumper_stack" &&
      !env.isUserPid (toString args.pid) then []
  else
    let cmd := replaceArgs cfg.args cfg.target
    match env.runCmd (CMDDumper.cmdPrefix ++ cmd) with
    | none => []
    | some text => CMDDumper.header cmd :: (textLines text.toList).map lineRow

/-- The rows of the files of a target, up to the first that cannot be opened. -/
def filesRows (env : DumpEnv) (cfg : DumpCfg) : List Row :=
  ((FileStreamDumper.buildFileNames env cfg.target cfg.args).takeWhile fun filename =>
    (env.openFile filename).isSome).flatMap
      (fileRows env (cfg.target = FileStreamDumper.binderState))

/-- The rows of a dumper. -/
def dumperRows (env : DumpEnv) (cfg : DumpCfg) : List Row :=
  if cfg.cls = .cmdDumper then cmdRows env cfg else filesRows env cfg

/-- The title before a dumper: only where a new group begins. -/
def titleRows (opts : DumperOpts) (groupName : String) (cfg : DumpCfg) : List Row :=
  if checkGroupName groupName cfg.sectionName then addGroupTitle opts cfg.sectionName else []

/-- The group after a dumper. -/
def groupAfter (groupName : String) (cfg : DumpCfg) : String :=
  if checkGroupName groupName cfg.sectionName then cfg.sectionName else groupName

/-- The rows that the parts give the output. -/
def partsRows (env : DumpEnv) (opts : DumperOpts) : String → List DumpPart → List Row
  | _, [] => []
  | groupName, .group _ _ :: parts => partsRows env opts groupName parts
  | groupName, .dumper sec :: parts =>
    (titleRows opts groupName sec.dumper ++ dumperRows env sec.dumper).map (filterRows sec.filters) ++
      partsRows env opts (groupAfter groupName sec.dumper) parts

/-! ## Rounds -/

/-- The loop at the first executor of `rest`. -/
def stateAt (done rest : List (DumpCfg × HidumperExecutor)) (groupName : String)
    (loopStack : List Nat) (rows : DumpRows) : DumpState :=
  { index := done.length, groupName, loopStack, executors := done ++ rest, rows }

section Rounds

variable {env : DumpEnv} {opts : DumperOpts} {done rest : List (DumpCfg × HidumperExecutor)}
  {groupName : String} {loopStack : List Nat} {rows rows' : DumpRows} {cfg : DumpCfg}
  {executor executor' : HidumperExecutor}

/-- A round takes the next executor of the list. -/
private theorem round_stateAt :
    (stateAt done ((cfg, executor) :: rest) groupName loopStack rows).round env opts =
      some ((stateAt done ((cfg, executor) :: rest) groupName loopStack rows).turn env opts cfg
        executor) := by
  simp [DumpState.round, stateAt]

/-- The round of a filter. -/
private theorem round_filter (hcls : cfg.cls = .columnRowsFilter ∨ cfg.cls = .fileFormatDumpFilter)
    (hcreate : HidumperExecutor.create cfg.cls = some executor) :
    (stateAt done ((cfg, executor) :: rest) groupName loopStack rows).round env opts =
      some (stateAt (done ++ [(cfg, executor)]) rest groupName loopStack
        { rows with dumpDatas := rows.dumpDatas.map (filterRow cfg) }) := by
  have hkind : cfg.isDumper = false ∧ cfg.isOutput = false ∧ cfg.isGroup = false := by
    unfold DumpCfg.isDumper DumpCfg.isOutput DumpCfg.isGroup
    rcases hcls with hcls | hcls <;> rw [hcls] <;> decide
  obtain ⟨hdumper, houtput, hgroup⟩ := hkind
  rw [round_stateAt, Option.some.injEq]
  rcases hcls with hcls | hcls
  all_goals
    rw [hcls, HidumperExecutor.create, Option.some.injEq] at hcreate
    subst hcreate
    have hrow : filterRow cfg = _ := funext fun row => by rw [filterRow, hcls]
    simp only [DumpState.turn, hdumper, houtput, hgroup, HidumperExecutor.doPreExecute,
      HidumperExecutor.doExecute, HidumperExecutor.doAfterExecute, hrow]
    simp [stateAt, DumpState.next]

/-- The round of the output: the rows are handed over, and the loop goes back to the
    position noted last. -/
private theorem round_output (hcls : cfg.cls = .fdOutput) :
    (stateAt done ((cfg, .fdOutput) :: rest) groupName loopStack rows).round env opts =
      some { stateAt done ((cfg, .fdOutput) :: rest) groupName []
          ⟨[], rows.handed ++ rows.dumpDatas⟩ with
        index := loopStack.head?.getD (done.length + 1) } := by
  have hkind : cfg.isDumper = false ∧ cfg.isOutput = true := by
    unfold DumpCfg.isDumper DumpCfg.isOutput
    rw [hcls]
    decide
  rw [round_stateAt, Option.some.injEq]
  simp [DumpState.turn, hkind, HidumperExecutor.doPreExecute, HidumperExecutor.doExecute,
    HidumperExecutor.doAfterExecute, stateAt, DumpState.next]

/-- The round of a group. -/
private theorem round_group (hcls : cfg.cls = .group) :
    (stateAt done ((cfg, .dumperGroup) :: rest) groupName [] rows).round env opts =
      some (stateAt (done ++ [(cfg, .dumperGroup)]) rest groupName [] rows) := by
  have hkind : cfg.isDumper = false ∧ cfg.isGroup = true := by
    unfold DumpCfg.isDumper DumpCfg.isGroup
    rw [hcls]
    decide
  rw [round_stateAt, Option.some.injEq]
  simp [DumpState.turn, hkind, HidumperExecutor.doPreExecute, HidumperExecutor.doExecute,
    HidumperExecutor.doAfterExecute, stateAt, DumpState.next]

/-- The executors of a list of configurations. -/
def executorsOf (configs : List DumpCfg) : List (DumpCfg × HidumperExecutor) :=
  configs.filterMap fun cfg => (HidumperExecutor.create cfg.cls).map fun executor => (cfg, executor)

/-- The rounds of filters. -/
private theorem reaches_filters {filters : List DumpCfg}
    (hcls : ∀ cfg ∈ filters, cfg.cls = .columnRowsFilter ∨ cfg.cls = .fileFormatDumpFilter) :
    Reaches (DumpState.round env opts)
      (stateAt done (executorsOf filters ++ rest) groupName loopStack rows)
      (stateAt (done ++ executorsOf filters) rest groupName loopStack
        { rows with dumpDatas := rows.dumpDatas.map (filterRows filters) }) := by
  induction filters generalizing done rows with
  | nil =>
    have hid : filterRows [] = id := rfl
    rw [hid, List.map_id, executorsOf, List.filterMap_nil, List.append_nil]
    exact .refl _
  | cons cfg filters ih =>
    obtain ⟨executor, hcreate⟩ : ∃ executor, HidumperExecutor.create cfg.cls = some executor := by
      rcases hcls cfg List.mem_cons_self with h | h <;> rw [h] <;> exact ⟨_, rfl⟩
    have hsplit : executorsOf (cfg :: filters) = (cfg, executor) :: executorsOf filters := by
      simp [executorsOf, hcreate]
    rw [hsplit, List.cons_append, List.append_cons done]
    -- One round for the first filter, and the rounds of the others on its rows.
    have hfirst := @round_filter env opts done (executorsOf filters ++ rest) groupName loopStack rows
      cfg executor (hcls cfg List.mem_cons_self) hcreate
    have hrest := @ih (done ++ [(cfg, executor)])
      { rows with dumpDatas := rows.dumpDatas.map (filterRow cfg) }
      fun other hother => hcls other (List.mem_cons_of_mem cfg hother)
    simp only [List.map_map] at hrest
    exact (Reaches.one hfirst).trans hrest

/-- The executors of a section are its filters and the output. -/
private theorem executorsOf_section (sec : DumpSection) :
    executorsOf (sec.filters ++ [sec.output]) =
      executorsOf sec.filters ++ [(sec.output, .fdOutput)] := by
  simp [executorsOf, sec.output_cls, HidumperExecutor.create]

/-- The rounds of a section after its dumper: the rows go through the filters and are
    handed over, and the loop goes back to the position noted last. -/
private theorem reaches_output (sec : DumpSection) :
    Reaches (DumpState.round env opts)
      (stateAt done (executorsOf (sec.filters ++ [sec.output]) ++ rest) groupName loopStack rows)
      { stateAt done (executorsOf (sec.filters ++ [sec.output]) ++ rest) groupName []
          ⟨[], rows.handed ++ rows.dumpDatas.map (filterRows sec.filters)⟩ with
        index := loopStack.head?.getD
          (done ++ executorsOf (sec.filters ++ [sec.output])).length } := by
  rw [executorsOf_section, List.append_assoc, List.singleton_append]
  refine (reaches_filters sec.filters_cls).trans (.one ?_)
  rw [round_output sec.output_cls]
  simp [stateAt, Nat.add_assoc]

/-- With nothing noted, the loop leaves the section. -/
private theorem reaches_leave (sec : DumpSection) :
    Reaches (DumpState.round env opts)
      (stateAt done (executorsOf (sec.filters ++ [sec.output]) ++ rest) groupName [] rows)
      (stateAt (done ++ executorsOf (sec.filters ++ [sec.output])) rest groupName []
        ⟨[], rows.handed ++ rows.dumpDatas.map (filterRows sec.filters)⟩) := by
  have hreaches := @reaches_output env opts done rest groupName [] rows sec
  simpa [stateAt] using hreaches

/-- With the dumper noted, the loop is back at it. -/
private theorem reaches_back (sec : DumpSection) :
    Reaches (DumpState.round env opts)
      (stateAt (done ++ [(cfg, executor)]) (executorsOf (sec.filters ++ [sec.output]) ++ rest)
        groupName [done.length] rows)
      (stateAt done ((cfg, executor) :: executorsOf (sec.filters ++ [sec.output]) ++ rest) groupName []
        ⟨[], rows.handed ++ rows.dumpDatas.map (filterRows sec.filters)⟩) := by
  have hreaches := @reaches_output env opts (done ++ [(cfg, executor)]) rest groupName [done.length]
    rows sec
  simpa [stateAt] using hreaches

/-! ## Rounds of dumpers -/

@[simp] theorem add_nil (rows : DumpRows) : rows.add [] = rows := by simp [DumpRows.add]

@[simp] theorem add_add (rows : DumpRows) (new new' : List Row) :
    (rows.add new).add new' = rows.add (new ++ new') := by
  simp [DumpRows.add]

/-- What the round of a dumper does, as far as it gets. -/
private theorem round_dumper (hcls : cfg.cls = .cmdDumper ∨ cfg.cls = .fileDumper)
    {ret : DumpStatus}
    (hpre : executor.doPreExecute env cfg (rows.add (titleRows opts groupName cfg)) =
      (ret, rows', executor')) :
    (stateAt done ((cfg, executor) :: rest) groupName loopStack rows).round env opts =
      some (
        let leave := fun executor rows => stateAt (done ++ [(cfg, executor)]) rest
          (groupAfter groupName cfg) loopStack rows
        if ret ≠ .dumpOk then leave executor' rows'
        else
          let (ret, rows, executor) := executor'.doExecute env rows'
          if ret ≠ .dumpOk && ret ≠ .dumpMoreData then leave executor rows
          else
            let (ret, rows, executor) := executor.doAfterExecute cfg rows
            { leave executor rows with
              loopStack := if cfg.canLoop && ret = .dumpMoreData then done.length :: loopStack
                else loopStack }) := by
  have hkind : cfg.isDumper = true ∧ cfg.isOutput = false ∧ cfg.isGroup = false := by
    unfold DumpCfg.isDumper DumpCfg.isOutput DumpCfg.isGroup
    rcases hcls with hcls | hcls <;> rw [hcls] <;> decide
  obtain ⟨hdumper, houtput, hgroup⟩ := hkind
  rw [round_stateAt, Option.some.injEq]
  unfold titleRows at hpre
  by_cases htitle : checkGroupName groupName cfg.sectionName = true
  · rw [if_pos htitle] at hpre
    simp [DumpState.turn, hdumper, houtput, hgroup, stateAt, htitle, hpre, groupAfter, DumpState.next]
  · rw [if_neg htitle, add_nil] at hpre
    simp [DumpState.turn, hdumper, houtput, hgroup, stateAt, htitle, hpre, groupAfter, DumpState.next]

/-- The title of a group is handed on once. -/
private theorem titleRows_groupAfter (opts : DumperOpts) (groupName : String) (cfg : DumpCfg) :
    titleRows opts (groupAfter groupName cfg) cfg = [] := by
  unfold titleRows groupAfter
  by_cases htitle : checkGroupName groupName cfg.sectionName = true
  · rw [if_pos htitle, if_neg (by simp [checkGroupName])]
  · rw [if_neg htitle, if_neg htitle]

/-- The group stays the same in a further turn. -/
private theorem groupAfter_groupAfter (groupName : String) (cfg : DumpCfg) :
    groupAfter (groupAfter groupName cfg) cfg = groupAfter groupName cfg := by
  unfold groupAfter
  by_cases htitle : checkGroupName groupName cfg.sectionName = true
  · simp [htitle]
  · simp [htitle]

end Rounds

/-! ## Dumpers that are read -/

/-- A dumper with configuration `cfg` whose source is open in the states `Running`. -/
structure Reading (env : DumpEnv) (cfg : DumpCfg) (σ : Type) where
  src : Source σ DumpStatus Row
  embed : σ → HidumperExecutor
  Running : σ → Prop
  more_iff : ∀ ret, src.more ret = true ↔ ret = .dumpMoreData
  /-- `PreExecute` finds the source open. -/
  pre : ∀ s, Running s → ∀ rows, (embed s).doPreExecute env cfg rows = (.dumpOk, rows, embed s)
  execute : ∀ s, Running s → ∀ rows, (embed s).doExecute env rows =
    let result := if cfg.loop = .loop then src.read s else src.drain s
    (result.1, rows.add result.2.1, embed result.2.2)
  running_read : ∀ s, Running s → src.more (src.read s).1 = true → Running (src.read s).2.2
  after_more : ∀ s, Running s → src.more (src.read s).1 = true → ∀ rows,
    (embed (src.read s).2.2).doAfterExecute cfg rows =
      (.dumpMoreData, rows, embed (src.read s).2.2)
  after_last : ∀ s, Running s → src.more (src.read s).1 = false → ∃ executor, ∀ rows,
    (embed (src.read s).2.2).doAfterExecute cfg rows = (.dumpOk, rows, executor)

section Reading

variable {env : DumpEnv} {opts : DumperOpts} {σ : Type} {sec : DumpSection}
  {done rest : List (DumpCfg × HidumperExecutor)}

/-- After all reads `AfterExecute` does not announce more. -/
theorem Reading.after_drain {cfg : DumpCfg} (reading : Reading env cfg σ) (s : σ)
    (hs : reading.Running s) : ∃ executor, ∀ rows,
      (reading.embed (reading.src.drain s).2.2).doAfterExecute cfg rows = (.dumpOk, rows, executor) := by
  induction s using reading.src.rec_reads with
  | last s hlast =>
    rw [Source.drain_of_last hlast]
    exact reading.after_last s hs hlast
  | more s hmore ih =>
    rw [Source.drain_of_more hmore]
    exact ih (reading.running_read s hs hmore)

/-- A round that reads for the last time leaves the dumper for good. -/
private theorem round_last (reading : Reading env sec.dumper σ) {s : σ} (hs : reading.Running s)
    {executor last : HidumperExecutor} {header : List Row} {result : DumpStatus × List Row × σ}
    (hresult : (if sec.dumper.loop = .loop then reading.src.read s else reading.src.drain s) = result)
    (hpre : ∀ rows, executor.doPreExecute env sec.dumper rows =
      (.dumpOk, rows.add header, reading.embed s))
    (hmore : result.1 ≠ .dumpMoreData)
    (hafter : ∀ rows, (reading.embed result.2.2).doAfterExecute sec.dumper rows = (.dumpOk, rows, last))
    (groupName : String) (rows : DumpRows) :
    ∃ executor', (stateAt done ((sec.dumper, executor) :: rest) groupName [] rows).round env opts =
      some (stateAt (done ++ [(sec.dumper, executor')]) rest (groupAfter groupName sec.dumper) []
        (rows.add (titleRows opts groupName sec.dumper ++ header ++ result.2.1))) := by
  rw [round_dumper sec.dumper_cls (hpre _)]
  simp only [reading.execute s hs, hresult]
  by_cases hok : result.1 = .dumpOk
  · refine ⟨last, ?_⟩
    simp [hok, hafter, stateAt]
  · refine ⟨reading.embed result.2.2, ?_⟩
    simp [hok, hmore, stateAt]

/-- The rounds from the last reading one to the end of the section. -/
private theorem reaches_last (reading : Reading env sec.dumper σ) {s : σ} (hs : reading.Running s)
    {executor last : HidumperExecutor} {header : List Row} {result : DumpStatus × List Row × σ}
    (hresult : (if sec.dumper.loop = .loop then reading.src.read s else reading.src.drain s) = result)
    (hpre : ∀ rows, executor.doPreExecute env sec.dumper rows =
      (.dumpOk, rows.add header, reading.embed s))
    (hmore : result.1 ≠ .dumpMoreData)
    (hafter : ∀ rows, (reading.embed result.2.2).doAfterExecute sec.dumper rows = (.dumpOk, rows, last))
    (groupName : String) (handed : List Row) :
    ∃ executor', Reaches (DumpState.round env opts)
      (stateAt done ((sec.dumper, executor) :: executorsOf (sec.filters ++ [sec.output]) ++ rest)
        groupName [] ⟨[], handed⟩)
      (stateAt (done ++ (sec.dumper, executor') :: executorsOf (sec.filters ++ [sec.output])) rest
        (groupAfter groupName sec.dumper) []
        ⟨[], handed ++ (titleRows opts groupName sec.dumper ++ header ++ result.2.1).map
          (filterRows sec.filters)⟩) := by
  obtain ⟨executor', hround⟩ := @round_last env opts σ sec done
    (executorsOf (sec.filters ++ [sec.output]) ++ rest) reading s hs executor last header result
    hresult hpre hmore hafter groupName ⟨[], handed⟩
  refine ⟨executor', (Reaches.one hround).trans ?_⟩
  rw [List.append_cons done _ (executorsOf (sec.filters ++ [sec.output]))]
  exact reaches_leave sec

/-- Whatever the dumper has read already, the section is left with the rest of its rows
    handed over. -/
theorem reaches_of_reading (reading : Reading env sec.dumper σ) (s : σ) (hs : reading.Running s)
    (executor : HidumperExecutor) (header : List Row)
    (hpre : ∀ rows, executor.doPreExecute env sec.dumper rows =
      (.dumpOk, rows.add header, reading.embed s))
    (groupName : String) (handed : List Row) :
    ∃ executor', Reaches (DumpState.round env opts)
      (stateAt done ((sec.dumper, executor) :: executorsOf (sec.filters ++ [sec.output]) ++ rest)
        groupName [] ⟨[], handed⟩)
      (stateAt (done ++ (sec.dumper, executor') :: executorsOf (sec.filters ++ [sec.output])) rest
        (groupAfter groupName sec.dumper) []
        ⟨[], handed ++ (titleRows opts groupName sec.dumper ++ header ++
          (reading.src.drain s).2.1).map (filterRows sec.filters)⟩) := by
  by_cases hloop : sec.dumper.loop = .loop
  · -- One line per pass: induction on what is left to read.
    induction s using reading.src.rec_reads generalizing executor header groupName handed with
    | last s hlast =>
      obtain ⟨last, hafter⟩ := reading.after_last s hs hlast
      rw [Source.drain_of_last hlast]
      refine reaches_last reading hs (if_pos hloop) hpre (fun hmore => ?_) hafter groupName handed
      rw [(reading.more_iff _).mpr hmore] at hlast
      exact nomatch hlast
    | more s hmore ih =>
      have hret := (reading.more_iff _).mp hmore
      have hround := @round_dumper env opts done (executorsOf (sec.filters ++ [sec.output]) ++ rest)
        groupName [] ⟨[], handed⟩ _ sec.dumper executor _ sec.dumper_cls .dumpOk (hpre _)
      simp only [reading.execute s hs, if_pos hloop, hret, reading.after_more s hs hmore] at hround
      have hcan : sec.dumper.canLoop = true := by simp [DumpCfg.canLoop, hloop]
      simp only [hcan] at hround
      obtain ⟨executor', hreaches⟩ := ih (reading.running_read s hs hmore)
        (reading.embed (reading.src.read s).2.2) []
        (fun rows => by rw [reading.pre _ (reading.running_read s hs hmore), add_nil])
        (groupAfter groupName sec.dumper)
        (handed ++ (titleRows opts groupName sec.dumper ++ header ++
          (reading.src.read s).2.1).map (filterRows sec.filters))
      -- The rows of this pass are handed over, and the next pass begins at the dumper.
      have hback := @reaches_back env opts done rest (groupAfter groupName sec.dumper)
        (DumpRows.add ⟨[], handed⟩ (titleRows opts groupName sec.dumper ++ header ++
          (reading.src.read s).2.1)) sec.dumper (reading.embed (reading.src.read s).2.2) sec
      rw [titleRows_groupAfter, groupAfter_groupAfter] at hreaches
      refine ⟨executor', (Reaches.one hround).trans ?_⟩
      rw [Source.drain_of_more hmore]
      simp [stateAt, DumpRows.add] at hback hreaches ⊢
      exact hback.trans hreaches
  · have hlast := reading.src.more_drain s
    obtain ⟨last, hafter⟩ := reading.after_drain s hs
    refine reaches_last reading hs (if_neg hloop) hpre (fun hmore => ?_) hafter groupName handed
    rw [(reading.more_iff _).mpr hmore] at hlast
    exact nomatch hlast

/-- A dumper whose `PreExecute` fails gives nothing but the title. -/
private theorem reaches_failed {executor executor' : HidumperExecutor}
    (hpre : ∀ rows, executor.doPreExecute env sec.dumper rows = (.dumpFail, rows, executor'))
    (groupName : String) (handed : List Row) :
    Reaches (DumpState.round env opts)
      (stateAt done ((sec.dumper, executor) :: executorsOf (sec.filters ++ [sec.output]) ++ rest)
        groupName [] ⟨[], handed⟩)
      (stateAt (done ++ (sec.dumper, executor') :: executorsOf (sec.filters ++ [sec.output])) rest
        (groupAfter groupName sec.dumper) []
        ⟨[], handed ++ (titleRows opts groupName sec.dumper).map (filterRows sec.filters)⟩) := by
  have hround := @round_dumper env opts done (executorsOf (sec.filters ++ [sec.output]) ++ rest)
    groupName [] ⟨[], handed⟩ _ sec.dumper executor executor' sec.dumper_cls .dumpFail (hpre _)
  refine (Reaches.one hround).trans ?_
  rw [List.append_cons done _ (executorsOf (sec.filters ++ [sec.output]))]
  exact reaches_leave sec

end Reading

/-! ## Commands and files -/

/-- `PreExecute` of a command refuses the stack of a process that is no user process. -/
def refusesStack (env : DumpEnv) (cfg : DumpCfg) : Bool :=
  cfg.args.any fun args => args.hasPid && cfg.name = "dumper_stack" &&
    !env.isUserPid (toString args.pid)

/-- A command that is being read. -/
def cmdReading (env : DumpEnv) (cfg : DumpCfg) (hstack : refusesStack env cfg = false) :
    Reading env cfg CMDDumper where
  src := CMDDumper.source
  embed := .cmdDumper
  Running st := (∃ fp, st.fp = some fp) ∧ st.hasLineData = true ∧
    st.cmd = replaceArgs cfg.args cfg.target ∧ st.needLoop = decide (cfg.loop = .loop)
  more_iff ret := by simp [CMDDumper.source]
  pre st hst rows := by
    obtain ⟨⟨fp, hfp⟩, hheader, hcmd, hloop⟩ := hst
    have hpre : st.preExecute env cfg = (.dumpOk, [], st) := by
      unfold CMDDumper.preExecute
      rw [if_neg (by simpa [refusesStack] using hstack)]
      simp [hfp, hheader, ← hcmd, ← hloop]
      rw [← hfp, ← hheader]
    simp [HidumperExecutor.doPreExecute, hpre]
  execute st hst rows := by
    obtain ⟨-, -, -, hloop⟩ := hst
    by_cases h : cfg.loop = .loop
    · simp [HidumperExecutor.doExecute, CMDDumper.execute, hloop, h]
      exact ⟨rfl, rfl, rfl⟩
    · simp [HidumperExecutor.doExecute, CMDDumper.execute, hloop, h]
  running_read st hst hmore := by
    obtain ⟨⟨fp, hfp⟩, hheader, hcmd, hloop⟩ := hst
    rcases readLineInCmd_cases hfp with ⟨hret, -⟩ | ⟨line, fp', hread, -⟩
    · exact absurd (of_decide_eq_true hmore) (by simp [CMDDumper.source, hret])
    · have hnext : CMDDumper.source.read st = _ := hread
      rw [hnext]
      exact ⟨⟨fp', rfl⟩, hheader, hcmd, hloop⟩
  after_more st hst hmore rows := by
    obtain ⟨⟨fp, hfp⟩, -⟩ := hst
    rcases readLineInCmd_cases hfp with ⟨hret, -⟩ | ⟨line, fp', hread, -⟩
    · exact absurd (of_decide_eq_true hmore) (by simp [CMDDumper.source, hret])
    · have hnext : CMDDumper.source.read st = _ := hread
      rw [hnext]
      rfl
  after_last st hst hlast := by
    obtain ⟨⟨fp, hfp⟩, -⟩ := hst
    rcases readLineInCmd_cases hfp with ⟨-, -, -, hmoreData⟩ | ⟨line, fp', hread, -⟩
    · have hdata : (CMDDumper.source.read st).2.2.moreData = false := hmoreData
      exact ⟨_, fun rows => by
        simp only [HidumperExecutor.doAfterExecute, CMDDumper.afterExecute, hdata]
        rfl⟩
    · simp [CMDDumper.source, hread] at hlast

/-- Files that are being read. -/
def fileReading (env : DumpEnv) (cfg : DumpCfg) : Reading env cfg FileStreamDumper where
  src := FileStreamDumper.source env
  embed := .fileStreamDumper
  Running st := (∃ fp, st.fp = some fp) ∧ st.nextFileIndex ≠ 0 ∧
    st.needLoop = decide (cfg.loop = .loop)
  more_iff ret := by simp [FileStreamDumper.source]
  pre st hst rows := by
    obtain ⟨-, hindex, -⟩ := hst
    simp [HidumperExecutor.doPreExecute, FileStreamDumper.preExecute, hindex]
  execute st hst rows := by
    obtain ⟨-, -, hloop⟩ := hst
    by_cases h : cfg.loop = .loop
    · simp [HidumperExecutor.doExecute, FileStreamDumper.execute, hloop, h]
      exact ⟨rfl, rfl, rfl⟩
    · simp [HidumperExecutor.doExecute, FileStreamDumper.execute, hloop, h]
  running_read st hst hmore := by
    obtain ⟨⟨fp, hfp⟩, hindex, hloop⟩ := hst
    rcases readLineInFile_cases hfp with ⟨hret, -⟩ | ⟨line, fp', hread, -⟩ |
        ⟨filename, content, -, hread, -⟩
    · exact absurd (of_decide_eq_true hmore) hret
    · have hnext : (FileStreamDumper.source env).read st = _ := hread
      rw [hnext]
      exact ⟨⟨fp', rfl⟩, hindex, hloop⟩
    · have hnext : (FileStreamDumper.source env).read st = _ := hread
      rw [hnext]
      exact ⟨⟨_, rfl⟩, Nat.succ_ne_zero _, hloop⟩
  after_more st hst hmore rows := by
    obtain ⟨⟨fp, hfp⟩, -⟩ := hst
    rcases readLineInFile_cases hfp with ⟨hret, -⟩ | ⟨line, fp', hread, -⟩ |
        ⟨filename, content, -, hread, -⟩
    · exact absurd (of_decide_eq_true hmore) hret
    all_goals
      have hnext : (FileStreamDumper.source env).read st = _ := hread
      rw [hnext]
      rfl
  after_last st hst hlast := by
    obtain ⟨⟨fp, hfp⟩, -⟩ := hst
    rcases readLineInFile_cases hfp with ⟨-, -, -, hmoreData⟩ | ⟨line, fp', hread, -⟩ |
        ⟨filename, content, -, hread, -⟩
    · have hdata : ((FileStreamDumper.source env).read st).2.2.moreData = false := hmoreData
      exact ⟨_, fun rows => by
        simp only [HidumperExecutor.doAfterExecute, FileStreamDumper.afterExecute, hdata]
        rfl⟩
    all_goals simp [FileStreamDumper.source, hread] at hlast

/-- A new dumper gives nothing, or is open after its first `PreExecute` with all its rows
    to come. -/
def Starts (env : DumpEnv) (cfg : DumpCfg) (executor : HidumperExecutor) : Prop :=
  (dumperRows env cfg = [] ∧ ∃ executor', ∀ rows,
    executor.doPreExecute env cfg rows = (.dumpFail, rows, executor')) ∨
  ∃ (σ : Type) (reading : Reading env cfg σ) (s : σ) (header : List Row), reading.Running s ∧
    (∀ rows, executor.doPreExecute env cfg rows = (.dumpOk, rows.add header, reading.embed s)) ∧
    dumperRows env cfg = header ++ (reading.src.drain s).2.1

/-- A dumper of commands gives nothing, or is open after its first `PreExecute`. -/
private theorem starts_cmd {env : DumpEnv} {cfg : DumpCfg} (hcls : cfg.cls = .cmdDumper) :
    Starts env cfg (.cmdDumper {}) := by
  unfold Starts
  rw [dumperRows, if_pos hcls, cmdRows]
  cases hstack : refusesStack env cfg with
  | true =>
    rw [if_pos (by simpa [refusesStack] using hstack)]
    refine .inl ⟨rfl, .cmdDumper {}, fun rows => ?_⟩
    have hpre : CMDDumper.preExecute env cfg {} = (.dumpFail, [], {}) := by
      unfold CMDDumper.preExecute
      rw [if_pos (by simpa [refusesStack] using hstack)]
    simp [HidumperExecutor.doPreExecute, hpre]
  | false =>
    have hnot : ¬ (cfg.args.any fun args => args.hasPid && cfg.name = "dumper_stack" &&
        !env.isUserPid (toString args.pid)) = true := by simpa [refusesStack] using hstack
    rw [if_neg hnot]
    dsimp only
    cases hrun : env.runCmd (CMDDumper.cmdPrefix ++ replaceArgs cfg.args cfg.target) with
    -- The command cannot be run.
    | none =>
      let st : CMDDumper :=
        { cmd := replaceArgs cfg.args cfg.target, needLoop := cfg.loop = .loop }
      refine .inl ⟨rfl, .cmdDumper st, fun rows => ?_⟩
      have hpre : CMDDumper.preExecute env cfg {} = (.dumpFail, [], st) := by
        unfold CMDDumper.preExecute
        rw [if_neg hnot]
        simp [hrun, st]
      simp [HidumperExecutor.doPreExecute, hpre]
    -- The header is a first block of its own; the lines of the output follow it.
    | some text =>
      let st : CMDDumper :=
        { cmd := replaceArgs cfg.args cfg.target
          fp := some ⟨text.toList, false⟩
          hasLineData := true
          needLoop := cfg.loop = .loop }
      refine .inr ⟨CMDDumper, cmdReading env cfg hstack, st,
        [CMDDumper.header (replaceArgs cfg.args cfg.target)], ⟨⟨_, rfl⟩, rfl, rfl, rfl⟩,
        fun rows => ?_, ?_⟩
      · have hpre : CMDDumper.preExecute env cfg {} =
            (.dumpOk, [CMDDumper.header (replaceArgs cfg.args cfg.target)], st) := by
          unfold CMDDumper.preExecute
          rw [if_neg hnot]
          simp [hrun, st]
        simp only [HidumperExecutor.doPreExecute, hpre]
        rfl
      · have hdrain : ((cmdReading env cfg hstack).src.drain st).2.1 =
            (textLines text.toList).map lineRow := drain_cmd st _ rfl
        rw [hdrain]
        rfl

private theorem starts_file {env : DumpEnv} {cfg : DumpCfg} (hcls : cfg.cls = .fileDumper) :
    Starts env cfg (.fileStreamDumper {}) := by
  unfold Starts
  rw [dumperRows, if_neg (by rw [hcls]; decide), filesRows]
  let st : FileStreamDumper :=
    { filenames := FileStreamDumper.buildFileNames env cfg.target cfg.args
      needLoop := cfg.loop = .loop
      needHideAddr := cfg.target = FileStreamDumper.binderState }
  have hpre : FileStreamDumper.preExecute env cfg {} =
      (if (st.openNextFile env).1 ≤ 0 then .dumpFail else .dumpOk, (st.openNextFile env).2) := by
    simp only [FileStreamDumper.preExecute, List.nil_append, Bool.or_false, if_true]
    split <;> rfl
  rcases openNextFile_cases env st with ⟨hret, hrows, hremaining⟩ |
      ⟨filename, content, hopen, hopened, hremaining⟩
  -- The first file does not open.
  · have hnone : (FileStreamDumper.buildFileNames env cfg.target cfg.args).takeWhile
        (fun filename => (env.openFile filename).isSome) = [] := hremaining
    refine .inl ⟨by rw [hnone, List.flatMap_nil], .fileStreamDumper (st.openNextFile env).2.2,
      fun rows => ?_⟩
    simp [HidumperExecutor.doPreExecute, hpre, hret, hrows]
  -- The first file is opened, and its header is a block in front of its lines.
  · let opened : FileStreamDumper :=
      { st with fp := some ⟨content.toList, false⟩, nextFileIndex := 1 }
    refine .inr ⟨FileStreamDumper, fileReading env cfg, opened, FileStreamDumper.header filename,
      ⟨⟨_, rfl⟩, Nat.one_ne_zero, rfl⟩, fun rows => ?_, ?_⟩
    · simp only [HidumperExecutor.doPreExecute, hpre, hopened]
      rfl
    · have hdrain := drain_file env opened ⟨content.toList, false⟩ rfl
      have hfiles : (FileStreamDumper.buildFileNames env cfg.target cfg.args).takeWhile
          (fun filename => (env.openFile filename).isSome) =
            filename :: remainingFiles env opened := hremaining
      rw [hfiles, List.flatMap_cons, fileRows, hopen, List.append_assoc]
      exact congrArg _ hdrain.symm

/-- From a new dumper to the end of its section. -/
private theorem reaches_section (env : DumpEnv) (opts : DumperOpts) (sec : DumpSection)
    (done rest : List (DumpCfg × HidumperExecutor)) (groupName : String) (handed : List Row) :
    ∃ executors, Reaches (DumpState.round env opts)
      (stateAt done (executorsOf (DumpPart.dumper sec).configs ++ rest) groupName [] ⟨[], handed⟩)
      (stateAt (done ++ executors) rest (groupAfter groupName sec.dumper) []
        ⟨[], handed ++ (titleRows opts groupName sec.dumper ++ dumperRows env sec.dumper).map
          (filterRows sec.filters)⟩) := by
  obtain ⟨executor, hcreate, hstarts⟩ : ∃ executor,
      HidumperExecutor.create sec.dumper.cls = some executor ∧ Starts env sec.dumper executor := by
    rcases sec.dumper_cls with hcls | hcls
    · exact ⟨.cmdDumper {}, by rw [hcls]; rfl, starts_cmd hcls⟩
    · exact ⟨.fileStreamDumper {}, by rw [hcls]; rfl, starts_file hcls⟩
  have hconfigs : executorsOf (DumpPart.dumper sec).configs =
      (sec.dumper, executor) :: executorsOf (sec.filters ++ [sec.output]) := by
    simp [DumpPart.configs, executorsOf, hcreate]
  rw [hconfigs]
  rcases hstarts with ⟨hrows, executor', hpre⟩ | ⟨σ, reading, s, header, hs, hpre, hrows⟩
  · rw [hrows, List.append_nil]
    exact ⟨_, reaches_failed hpre groupName handed⟩
  · obtain ⟨executor', hreaches⟩ := @reaches_of_reading env opts σ sec done rest reading s hs executor
      header hpre groupName handed
    rw [hrows, ← List.append_assoc]
    exact ⟨_, hreaches⟩

/-! ## Whole lists -/

/-- The rounds go through all parts of the list and hand on the rows of each. -/
private theorem reaches_parts (env : DumpEnv) (opts : DumperOpts) (parts : List DumpPart)
    (done : List (DumpCfg × HidumperExecutor)) (groupName : String) (handed : List Row) :
    ∃ executors groupName', Reaches (DumpState.round env opts)
      (stateAt done (executorsOf (parts.flatMap DumpPart.configs)) groupName [] ⟨[], handed⟩)
      (stateAt executors [] groupName' [] ⟨[], handed ++ partsRows env opts groupName parts⟩) := by
  induction parts generalizing done groupName handed with
  | nil =>
    refine ⟨done, groupName, ?_⟩
    rw [partsRows, List.append_nil]
    exact .refl _
  | cons part parts ih =>
    -- The executors of the part are at the front; the later ones wait behind them.
    have hsplit : executorsOf ((part :: parts).flatMap DumpPart.configs) =
        executorsOf part.configs ++ executorsOf (parts.flatMap DumpPart.configs) := by
      simp [executorsOf]
    rw [hsplit]
    cases part with
    | group cfg hcls =>
      have hgroup : executorsOf (DumpPart.group cfg hcls).configs = [(cfg, .dumperGroup)] := by
        simp [DumpPart.configs, executorsOf, hcls, HidumperExecutor.create]
      rw [hgroup, List.singleton_append]
      obtain ⟨executors, groupName', hreaches⟩ := ih (done ++ [(cfg, .dumperGroup)]) groupName handed
      exact ⟨executors, groupName', (Reaches.one (round_group hcls)).trans hreaches⟩
    | dumper sec =>
      obtain ⟨executors, hsection⟩ := reaches_section env opts sec done
        (executorsOf (parts.flatMap DumpPart.configs)) groupName handed
      obtain ⟨executors', groupName', hreaches⟩ := ih (done ++ executors)
        (groupAfter groupName sec.dumper) (handed ++ (titleRows opts groupName sec.dumper ++
          dumperRows env sec.dumper).map (filterRows sec.filters))
      rw [List.append_assoc] at hreaches
      exact ⟨executors', groupName', hsection.trans hreaches⟩

/-- The rows of a list of parts do not depend on which dumpers loop. -/
private theorem partsRows_withLoop (env : DumpEnv) (opts : DumperOpts) (parts : List DumpPart)
    (loops : Nat → DumperConstant) (groupName : String) :
    partsRows env opts groupName (parts.mapIdx fun i part => part.withLoop (loops i)) =
      partsRows env opts groupName parts := by
  induction parts generalizing loops groupName with
  | nil => rfl
  | cons part parts ih =>
    rw [List.mapIdx_cons]
    cases part with
    | group cfg hcls => exact ih (fun i => loops (i + 1)) groupName
    | dumper sec =>
      have hrest := ih (fun i => loops (i + 1)) (groupAfter groupName sec.dumper)
      exact congrArg ((titleRows opts groupName sec.dumper ++ dumperRows env sec.dumper).map
        (filterRows sec.filters) ++ ·) hrest

end HiDumper.Spec
