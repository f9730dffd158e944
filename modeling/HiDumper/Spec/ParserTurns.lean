import HiDumper.Spec.CommandLine

/-!
# Turns of the two parsers

Both parsers store what the command line says: `legacyOpts` and `newOpts` are the options
of `DumpImplement` and of `CmdParse` for a `CommandLine`. A turn of either loop leads from
the options of a command line to those of the command line after the turn, and it fails
exactly where one of its checks does.

## Key results

- `parseOption_ok_iff`: a turn of `DumpImplement`
- `cmdParse_parseOption_ok_iff`: a turn of `CmdParse`
-/

namespace HiDumper.Spec

open HiDumper.Native Checks

/-! ## Options of a command line -/

namespace CommandLine

/-- A number of the command line, or the value it has if it is not given. -/
def numberOr (line : CommandLine) (unset : Int) (field : ValueField) : Int :=
  (line.number field).elim unset Int.ofNat

/-- The options of `DumpImplement` for a command line. -/
def legacyOpts (ctx : CmdContext) (line : CommandLine) : DumperOpts where
  isDumpCpuFreq := line.isDumpCpuFreq
  isDumpCpuUsage := line.isDumpCpuUsage
  cpuUsagePid := line.numberOr (-1) .cpuUsagePid
  isDumpMem := line.isDumpMem
  memPid := line.numberOr (-1) .memPid
  isDumpStorage := line.isDumpStorage
  storagePid := line.numberOr (-1) .storagePid
  isDumpNet := line.isDumpNet
  netPid := line.numberOr (-1) .netPid
  isDumpList := line.isDumpList
  isDumpSystemAbility := line.isDumpSystemAbility
  abilitieNames := line.abilityNames
  abilitieArgs := line.abilityArgs
  isDumpSystem := line.isDumpSystem
  systemArgs := line.systemArgs
  isDumpProcesses := line.isDumpProcesses
  processPid := line.numberOr (-1) .processPid
  eventId := line.eventId
  showEventCount := line.numberOr (-1) .showEventCount
  processName := line.processName
  isFaultLog := line.isFaultLog
  path := if line.zip then zipFolder ++ ctx.time ++ ".zip" else ""
  isShowSmaps := line.isShowSmaps
  isShowSmapsInfo := line.isShowSmapsInfo
  isDumpJsHeapMem := line.isDumpJsHeapMem
  isDumpJsHeapMemGC := line.isDumpJsHeapMemGC
  isDumpJsHeapLeakobj := line.isDumpJsHeapLeakobj
  isDumpJsHeapCombine := line.isDumpJsHeapCombine
  dumpJsHeapMemPid := line.numberOr 0 .dumpJsHeapMemPid
  threadId := line.numberOr 0 .threadId
  ipcStatPid := line.numberOr (-1) .ipcStatPid
  dumpHeapMemPid := line.numberOr 0 .dumpHeapMemPid
  dumpHeapArgPid := line.heapArg.elim 0 Int.ofNat
  isDumpAllIpc := line.isDumpAllIpc
  isDumpIpc := line.isDumpIpc
  isDumpIpcStartStat := line.isDumpIpcStartStat
  isDumpIpcStopStat := line.isDumpIpcStopStat
  isDumpIpcStat := line.isDumpIpcStat
  dumpJsRawHeap := line.dumpJsRawHeap
  timeInterval := line.numberOr 0 .timeInterval
  isReceivedSigInt := line.isReceivedSigInt

/-- The options of `CmdParse` for a command line. -/
def newOpts (line : CommandLine) : DumperOptions where
  cpuUsagePid := line.numberOr (-1) .cpuUsagePid
  memPid := line.numberOr (-1) .memPid
  storagePid := line.numberOr (-1) .storagePid
  netPid := line.numberOr (-1) .netPid
  processPid := line.numberOr (-1) .processPid
  dumpJsHeapMemPid := line.numberOr (-1) .dumpJsHeapMemPid
  threadId := line.numberOr (-1) .threadId
  ipcStatPid := line.numberOr (-1) .ipcStatPid
  isDumpCpuFreq := line.isDumpCpuFreq
  isDumpCpuUsage := line.isDumpCpuUsage
  isDumpMem := line.isDumpMem
  isDumpStorage := line.isDumpStorage
  isDumpNet := line.isDumpNet
  isDumpList := line.isDumpList
  isDumpSystemAbility := line.isDumpSystemAbility
  isDumpSystem := line.isDumpSystem
  isDumpProcesses := line.isDumpProcesses
  isFaultLog := line.isFaultLog
  isShowSmaps := line.isShowSmaps
  isShowSmapsInfo := line.isShowSmapsInfo
  isDumpJsHeapMem := line.isDumpJsHeapMem
  isDumpJsHeapMemGC := line.isDumpJsHeapMemGC
  isDumpJsHeapLeakobj := line.isDumpJsHeapLeakobj
  isDumpJsHeapCombine := line.isDumpJsHeapCombine
  isDumpAllIpc := line.isDumpAllIpc
  isDumpIpc := line.isDumpIpc
  isDumpIpcStartStat := line.isDumpIpcStartStat
  isDumpIpcStopStat := line.isDumpIpcStopStat
  isDumpIpcStat := line.isDumpIpcStat
  dumpJsRawHeap := line.dumpJsRawHeap
  abilityArgs := line.abilityArgs
  abilityNames := line.abilityNames
  systemArgs := line.systemArgs.foldl CmdParse.setInsert []

/-- A number goes into the field of the same name in the old options. -/
private theorem legacyOpts_setNumber (ctx : CmdContext) (line : CommandLine) {field : ValueField}
    (value : Nat) (hfield : field ≠ .dumpCjHeapMemPid) :
    (line.setNumber field value).legacyOpts ctx = field.set value (line.legacyOpts ctx) := by
  cases field <;> first | rfl | exact absurd rfl hfield

section Fields

variable (ctx : CmdContext) (line : CommandLine)

/-- The flag of the heap dump is the same in both descriptions of a command line. -/
@[simp] theorem legacyOpts_isDumpJsHeapMem :
    (line.legacyOpts ctx).isDumpJsHeapMem = line.isDumpJsHeapMem := rfl
@[simp] theorem legacyOpts_isDumpCjHeapMem : (line.legacyOpts ctx).isDumpCjHeapMem = false := rfl
@[simp] theorem legacyOpts_isDumpHeapMem : (line.legacyOpts ctx).isDumpHeapMem = false := rfl
@[simp] theorem legacyOpts_isDumpIpc : (line.legacyOpts ctx).isDumpIpc = line.isDumpIpc := rfl
@[simp] theorem legacyOpts_isDumpSystemAbility :
    (line.legacyOpts ctx).isDumpSystemAbility = line.isDumpSystemAbility := rfl
@[simp] theorem newOpts_isDumpJsHeapMem : line.newOpts.isDumpJsHeapMem = line.isDumpJsHeapMem := rfl
@[simp] theorem newOpts_dumpJsRawHeap : line.newOpts.dumpJsRawHeap = line.dumpJsRawHeap := rfl
@[simp] theorem newOpts_isDumpIpc : line.newOpts.isDumpIpc = line.isDumpIpc := rfl
@[simp] theorem newOpts_isDumpSystemAbility :
    line.newOpts.isDumpSystemAbility = line.isDumpSystemAbility := rfl

end Fields

end CommandLine

section Turns

variable {ctx : CmdContext} {argv : List String} {line : CommandLine}

/-! ## Steps that may fail -/

/-- What a step that stores `b` if `check` holds says about an accepting run. -/
private theorem ok_iff {σ : Type} {a b s : σ} (h : b = a) :
    (.ok a : Except Rejection σ) = .ok s ↔ true = true ∧ s = b := by
  subst h
  exact ⟨fun hok => ⟨rfl, (Except.ok.inj hok).symm⟩, fun ⟨_, hs⟩ => hs ▸ rfl⟩

/-- A check with one outcome succeeds when it holds. -/
private theorem ite_ok_iff {σ : Type} {check : Bool} {a b s : σ} {e : Rejection} (h : b = a) :
    (if check then .ok a else .error e : Except Rejection σ) = .ok s ↔ check = true ∧ s = b := by
  cases check with
  | true => exact ok_iff h
  | false => exact ⟨fun hok => (nomatch hok), fun ⟨hcheck, _⟩ => (nomatch hcheck)⟩

/-- A number is accepted if the text is one. -/
private theorem setCmdIntegerParameter_ok_iff (hstrings : LawfulStrings ctx.sys.strings)
    {text : String}
    {value : Int} : setCmdIntegerParameter ctx text = .ok value ↔
      isInteger ctx text = true ∧ value = natOf ctx text := by
  unfold setCmdIntegerParameter isInteger natOf
  cases hnumeric : ctx.sys.strings.isNumericStr text with
  | false => simp
  | true =>
    cases hvalue : ctx.sys.strings.strToInt text with
    | none => simp
    | some number =>
      have hnonneg := hstrings.strToInt_nonneg text number hnumeric hvalue
      simp only [Bool.not_true, Bool.false_eq_true, if_false, Except.ok.injEq, Option.isSome_some,
        Bool.and_self, Option.getD_some, true_and]
      omega

/-- The two parsers read the same numbers. -/
private theorem cmdParse_setCmdIntegerParameter_ok_iff {text : String} {value : Int} :
    CmdParse.setCmdIntegerParameter ctx text = .ok value ↔
      setCmdIntegerParameter ctx text = .ok value := by
  unfold CmdParse.setCmdIntegerParameter setCmdIntegerParameter
  cases ctx.sys.strings.isNumericStr text with
  | false => simp
  | true => cases ctx.sys.strings.strToInt text <;> simp

/-- A step that stores the number a text stands for. -/
private theorem number_iff {σ : Type} {parsed : Except Rejection Int} {check : Bool} {number : Nat}
    {store : Int → σ} {b s : σ} (hparsed : ∀ value, parsed = .ok value ↔ check = true ∧ value = number)
    (h : b = store number) :
    (parsed >>= fun value => .ok (store value)) = .ok s ↔ check = true ∧ s = b := by
  subst h
  rw [bind_eq_ok]
  constructor
  · rintro ⟨value, hvalue, hs⟩
    obtain ⟨hcheck, rfl⟩ := (hparsed value).mp hvalue
    exact ⟨hcheck, (Except.ok.inj hs).symm⟩
  · rintro ⟨hcheck, rfl⟩
    exact ⟨number, (hparsed number).mpr ⟨hcheck, rfl⟩, rfl⟩

/-! ## Parameters -/

/-- The step `x` of `DumpImplement` takes `value` for `param`. -/
def LegacyTakes (ctx : CmdContext) (line : CommandLine) (value : String) (param : Parameter)
    (x : Except Rejection DumperOpts) : Prop :=
  ∀ opts, x = .ok opts ↔ (commonParameter ctx value param && legacyParameter ctx value param) = true ∧
    opts = (line.takeParameter ctx value param).legacyOpts ctx

/-- The step `x` of `CmdParse` takes `value` for `param`. -/
def NewTakes (ctx : CmdContext) (line : CommandLine) (value : String) (param : Parameter)
    (x : Except Rejection DumperOptions) : Prop :=
  ∀ opts, x = .ok opts ↔ (commonParameter ctx value param && newParameter param) = true ∧
    opts = (line.takeParameter ctx value param).newOpts

/-- A choice between two turns is right when each is. -/
theorem LegacyTakes.ite {c : Prop} [Decidable c] {value : String} {param param' : Parameter}
    {x y : Except Rejection DumperOpts} (hthen : LegacyTakes ctx line value param x)
    (helse : LegacyTakes ctx line value param' y) :
    LegacyTakes ctx line value (if c then param else param') (if c then x else y) := by
  by_cases hc : c
  · rw [if_pos hc, if_pos hc]
    exact hthen
  · rw [if_neg hc, if_neg hc]
    exact helse

/-- A turn that accepts its value and stores it. -/
theorem LegacyTakes.of_ok {value : String} {param : Parameter} {opts : DumperOpts}
    (hcheck : (commonParameter ctx value param && legacyParameter ctx value param) = true)
    (hopts : (line.takeParameter ctx value param).legacyOpts ctx = opts) :
    LegacyTakes ctx line value param (.ok opts) := by
  intro opts'
  rw [hcheck]
  exact ok_iff hopts

/-- A number that has no check of its own. -/
theorem LegacyTakes.number (hstrings : LawfulStrings ctx.sys.strings) {value : String}
    (field : ValueField) (hfield : field ≠ .showEventCount) (hcj : field ≠ .dumpCjHeapMemPid) :
    LegacyTakes ctx line value (.number field)
      (setCmdIntegerParameter ctx value >>= fun number =>
        .ok (field.set number (line.legacyOpts ctx))) := by
  intro opts
  have hcheck : (commonParameter ctx value (.number field) &&
      legacyParameter ctx value (.number field)) = isInteger ctx value := by
    simp [commonParameter, legacyParameter, hfield]
  rw [hcheck]
  exact number_iff (fun _ => setCmdIntegerParameter_ok_iff hstrings)
    (line.legacyOpts_setNumber ctx (natOf ctx value) hcj)

/-- A count is accepted if the text is a positive number. -/
private theorem setShowCount_ok_iff (hstrings : LawfulStrings ctx.sys.strings) {text : String}
    {value : Int} : setShowCount ctx text = .ok value ↔
      (isInteger ctx text && decide (0 < natOf ctx text)) = true ∧ value = natOf ctx text := by
  unfold setShowCount
  simp only [bind_eq_ok, setCmdIntegerParameter_ok_iff hstrings]
  constructor
  · rintro ⟨number, ⟨hinteger, rfl⟩, h⟩
    split at h
    · cases h
    · rename_i hpos
      rw [← Except.ok.inj h]
      refine ⟨?_, rfl⟩
      rw [hinteger, Bool.true_and, decide_eq_true_eq]
      omega
  · rintro ⟨hcheck, rfl⟩
    rw [Bool.and_eq_true, decide_eq_true_eq] at hcheck
    refine ⟨natOf ctx text, ⟨hcheck.1, rfl⟩, ?_⟩
    rw [if_neg (by omega)]

/-- The count of events is a positive number, or the turn fails. -/
theorem LegacyTakes.showCount (hstrings : LawfulStrings ctx.sys.strings) {value : String} :
    LegacyTakes ctx line value (.number .showEventCount)
      (setShowCount ctx value >>= fun number =>
        .ok (ValueField.set number (line.legacyOpts ctx) .showEventCount)) := by
  intro opts
  have hcheck : (commonParameter ctx value (.number .showEventCount) &&
      legacyParameter ctx value (.number .showEventCount)) =
        (isInteger ctx value && decide (0 < natOf ctx value)) := by
    simp [commonParameter, legacyParameter]
  rw [hcheck]
  exact number_iff (fun _ => setShowCount_ok_iff hstrings)
    (line.legacyOpts_setNumber ctx (natOf ctx value) (by decide))

/-- The pid behind a heap option is a number, or the turn fails. -/
theorem LegacyTakes.heapArg (hstrings : LawfulStrings ctx.sys.strings) {value : String} :
    LegacyTakes ctx line value .heapArg
      (setCmdIntegerParameter ctx value >>= fun number =>
        .ok { line.legacyOpts ctx with dumpHeapArgPid := number }) := by
  intro opts
  have hcheck : (commonParameter ctx value .heapArg && legacyParameter ctx value .heapArg) =
      isInteger ctx value := by
    simp [commonParameter, legacyParameter]
  rw [hcheck]
  exact number_iff (fun _ => setCmdIntegerParameter_ok_iff hstrings) rfl

/-- A number is the id of an event and anything else the name of a process. -/
theorem LegacyTakes.eventOrProcess {value : String} :
    LegacyTakes ctx line value .eventOrProcess
      (if ctx.sys.strings.isNumericStr value then .ok { line.legacyOpts ctx with eventId := value }
      else .ok { line.legacyOpts ctx with processName := value }) := by
  by_cases hnumeric : ctx.sys.strings.isNumericStr value = true
  · rw [if_pos hnumeric]
    refine .of_ok rfl ?_
    simp only [CommandLine.takeParameter, hnumeric, if_true]
    rfl
  · rw [if_neg hnumeric]
    refine .of_ok rfl ?_
    simp only [CommandLine.takeParameter, hnumeric]
    rfl

/-- A value that no option takes is refused. -/
theorem LegacyTakes.unknown {value : String} {e : Rejection} :
    LegacyTakes ctx line value .unknown (.error e) :=
  fun _ => ⟨fun h => (nomatch h), fun ⟨h, _⟩ => (nomatch h)⟩

/-- The old parser takes the value of an option by the kind of the option. -/
private theorem handleOptionParameter_takes (hstrings : LawfulStrings ctx.sys.strings)
    (optind : Nat)
    (prevArg value : String) :
    LegacyTakes ctx line value (parameterOf ctx argv optind prevArg value)
      (handleOptionParameter ctx argv optind prevArg value (line.legacyOpts ctx)) := by
  have hnumber := fun field hfield => @LegacyTakes.number ctx line hstrings value field hfield
  have hheapArg := @LegacyTakes.heapArg ctx line hstrings value
  unfold handleOptionParameter parameterOf
  dsimp only
  -- The tests of the source, in its order.
  refine .ite (hnumber .cpuUsagePid (by decide) (by decide)) ?_
  refine .ite (.ite (.of_ok rfl rfl) (hnumber .memPid (by decide) (by decide))) ?_
  refine .ite (hnumber .netPid (by decide) (by decide)) ?_
  refine .ite (hnumber .storagePid (by decide) (by decide)) ?_
  refine .ite (.of_ok rfl rfl) ?_
  refine .ite (hnumber .processPid (by decide) (by decide)) ?_
  refine .ite (hnumber .threadId (by decide) (by decide)) ?_
  refine .ite (hnumber .timeInterval (by decide) (by decide)) ?_
  refine .ite (LegacyTakes.showCount hstrings) ?_
  refine .ite (.of_ok rfl rfl) ?_
  refine .ite LegacyTakes.eventOrProcess ?_
  refine .ite (.of_ok rfl rfl) ?_
  refine .ite (hnumber .ipcStatPid (by decide) (by decide)) ?_
  refine .ite (hnumber .dumpHeapMemPid (by decide) (by decide)) ?_
  exact .ite hheapArg (.ite hheapArg (.ite hheapArg (.ite hheapArg .unknown)))

/-- A choice between two turns is right when each is. -/
theorem NewTakes.ite {c : Prop} [Decidable c] {value : String} {param param' : Parameter}
    {x y : Except Rejection DumperOptions} (hthen : NewTakes ctx line value param x)
    (helse : NewTakes ctx line value param' y) :
    NewTakes ctx line value (if c then param else param') (if c then x else y) := by
  by_cases hc : c
  · rw [if_pos hc, if_pos hc]
    exact hthen
  · rw [if_neg hc, if_neg hc]
    exact helse

/-- A test that only the old parser makes. -/
theorem NewTakes.skip {c : Prop} [Decidable c] {value : String} {param param' : Parameter}
    {x : Except Rejection DumperOptions} (hthen : c → NewTakes ctx line value param x)
    (helse : NewTakes ctx line value param' x) :
    NewTakes ctx line value (if c then param else param') x := by
  by_cases hc : c
  · rw [if_pos hc]
    exact hthen hc
  · rw [if_neg hc]
    exact helse

/-- A turn that refuses its value. -/
theorem NewTakes.refused {value : String} {param : Parameter} {e : Rejection}
    (hcheck : (commonParameter ctx value param && newParameter param) = false) :
    NewTakes ctx line value param (.error e) := by
  intro opts
  rw [hcheck]
  exact ⟨fun h => (nomatch h), fun ⟨h, _⟩ => (nomatch h)⟩

/-- A turn that stores the number it is given. -/
theorem NewTakes.number (hstrings : LawfulStrings ctx.sys.strings) {value : String}
    {field : ValueField} (hfield : isCommonField field = true) {store : Int → DumperOptions}
    (hstore : (line.setNumber field (natOf ctx value)).newOpts = store (natOf ctx value)) :
    NewTakes ctx line value (.number field)
      (CmdParse.setCmdIntegerParameter ctx value >>= fun number => .ok (store number)) := by
  intro opts
  have hcheck : (commonParameter ctx value (.number field) && newParameter (.number field)) =
      isInteger ctx value := by
    simp [commonParameter, newParameter, hfield]
  rw [hcheck]
  refine number_iff (fun _ => ?_) hstore
  rw [cmdParse_setCmdIntegerParameter_ok_iff, setCmdIntegerParameter_ok_iff hstrings]

/-- A turn that accepts its value and stores it. -/
theorem NewTakes.of_ok {value : String} {param : Parameter} {opts : DumperOptions}
    (hcheck : (commonParameter ctx value param && newParameter param) = true)
    (hopts : (line.takeParameter ctx value param).newOpts = opts) :
    NewTakes ctx line value param (.ok opts) := by
  intro opts'
  rw [hcheck]
  exact ok_iff hopts

/-- The value after an option other than `-s` and `-a` is no ability. -/
private theorem isSADumperOption_of_option (hstrings : LawfulStrings ctx.sys.strings) {optind : Nat}
    {prevArg : String} (hoptind : optind ≤ argv.length) (hprev : argv.getD (optind - 2) "" = prevArg)
    (hoption : StringEx.simple.isSubStr prevArg "-" = true)
    (hother : (prevArg = "-s" || prevArg = "-a") = false) :
    isSADumperOption ctx argv optind = false := by
  unfold isSADumperOption
  by_cases hlow : optind ≤ 2
  · -- There is nothing between the program and the value.
    have hnone : (argv.take (optind - 1)).drop 1 = [] := by
      rw [List.drop_eq_nil_iff, List.length_take]
      omega
    rw [hnone]
    rfl
  · have hlt : optind - 2 < argv.length := by omega
    have hlast : argv.take (optind - 1) = argv.take (optind - 2) ++ [prevArg] := by
      rw [show optind - 1 = optind - 2 + 1 by omega, List.take_add_one,
        List.getElem?_eq_getElem hlt, Option.toList_some, ← hprev]
      simp [List.getD_eq_getElem?_getD, List.getElem?_eq_getElem hlt]
    have hdrop : (argv.take (optind - 1)).drop 1 = (argv.take (optind - 2)).drop 1 ++ [prevArg] := by
      rw [hlast, List.drop_append_of_le_length]
      rw [List.length_take]
      omega
    rw [hdrop, List.reverse_append, hstrings.isSubStr]
    simp only [List.reverse_cons, List.reverse_nil, List.nil_append, List.cons_append,
      List.find?_cons, hoption]
    exact hother

private theorem handleParameter_takes (hstrings : LawfulStrings ctx.sys.strings) {optind : Nat}
    {prevArg value : String} (hoptind : optind ≤ argv.length)
    (hprev : argv.getD (optind - 2) "" = prevArg) :
    NewTakes ctx line value (parameterOf ctx argv optind prevArg value)
      (CmdParse.handleParameter ctx argv optind prevArg value line.newOpts) := by
  -- Options of the old parser end in the last branch.
  have hold : ∀ {option : String} {param : Parameter} {x : Except Rejection DumperOptions},
      option ∈ ["-t", "-n", "--list", "--print"] → newParameter param = false → prevArg = option →
      NewTakes ctx line value param
        (if isSADumperOption ctx argv optind then x
        else if prevArg = "--ipc" then
          CmdParse.setCmdIntegerParameter ctx value >>= fun number =>
            .ok { line.newOpts with ipcStatPid := number }
        else .error ⟨.dumpFail, unrecognizedError ++ removeCharacterFromStr value '-'⟩) := by
    intro option param x hmem hparam hoption
    have hfacts : ∀ option ∈ ["-t", "-n", "--list", "--print"],
        StringEx.simple.isSubStr option "-" = true ∧ (option = "-s" || option = "-a") = false ∧
        option ≠ "--ipc" := by decide
    obtain ⟨hdash, hother, hipc⟩ := hfacts option hmem
    rw [← hoption] at hdash hother hipc
    have hno := isSADumperOption_of_option hstrings hoptind hprev hdash hother
    rw [hno, if_neg Bool.false_ne_true, if_neg hipc]
    exact .refused (by rw [hparam, Bool.and_false])
  have hnumber := fun field hfield store hstore =>
    @NewTakes.number ctx line hstrings value field hfield store hstore
  unfold CmdParse.handleParameter parameterOf
  refine .ite (hnumber .cpuUsagePid rfl _ rfl) ?_
  refine .ite (.skip (fun hstop => ?_) (hnumber .memPid rfl _ rfl)) ?_
  · -- A stop word is no number.
    have hword : ctx.sys.strings.isNumericStr value = false := by
      rw [hstop, hstrings.isNumericStr]
      decide
    have herror : CmdParse.setCmdIntegerParameter ctx value =
        .error ⟨.dumpInvalidArg, invalidError ++ value⟩ := by
      unfold CmdParse.setCmdIntegerParameter
      rw [hword]
      rfl
    rw [herror]
    exact .refused rfl
  refine .ite (hnumber .netPid rfl _ rfl) ?_
  refine .ite (hnumber .storagePid rfl _ rfl) ?_
  refine .ite (.of_ok rfl ?_) ?_
  · simp [CommandLine.takeParameter, CommandLine.newOpts, CommandLine.numberOr]
  refine .ite (hnumber .processPid rfl _ rfl) ?_
  refine .ite (hnumber .threadId rfl _ rfl) ?_
  refine .skip (hold (by decide) rfl) ?_
  refine .skip (hold (by decide) rfl) ?_
  refine .skip (hold (by decide) rfl) ?_
  refine .skip (hold (by decide) rfl) ?_
  refine .ite (.of_ok rfl rfl) ?_
  refine .ite (hnumber .ipcStatPid rfl _ rfl) ?_
  have hrefused : ∀ {param : Parameter} {e : Rejection}, newParameter param = false →
      NewTakes ctx line value param (.error e) :=
    fun hparam => .refused (by rw [hparam, Bool.and_false])
  refine .skip (fun _ => hrefused rfl) (.skip (fun _ => hrefused rfl) ?_)
  exact .skip (fun _ => hrefused rfl) (.skip (fun _ => hrefused rfl)
    (.skip (fun _ => hrefused rfl) (.refused rfl)))

/-- A plain argument in the old parser. -/
private theorem setCmdParameter_ok_iff (hstrings : LawfulStrings ctx.sys.strings) (optind : Nat)
    (opts : DumperOpts) : setCmdParameter ctx argv optind (line.legacyOpts ctx) = .ok opts ↔
      (commonValue ctx argv optind && legacyValue ctx argv optind) = true ∧
      opts = (line.takeValue ctx argv optind).legacyOpts ctx := by
  unfold setCmdParameter commonValue legacyValue CommandLine.takeValue parameterAt
  by_cases hrange : (decide (optind > 1) && decide (optind ≤ argv.length)) = true
  · simp only [hrange, if_true, Option.all_some]
    exact handleOptionParameter_takes hstrings optind _ _ opts
  · simp only [hrange]
    exact ok_iff rfl

/-- A plain argument in the new one. -/
private theorem cmdParse_setCmdParameter_ok_iff (hstrings : LawfulStrings ctx.sys.strings)
    (optind : Nat)
    (opts : DumperOptions) : CmdParse.setCmdParameter ctx argv optind line.newOpts = .ok opts ↔
      (commonValue ctx argv optind && newValue ctx argv optind) = true ∧
      opts = (line.takeValue ctx argv optind).newOpts := by
  unfold CmdParse.setCmdParameter commonValue newValue CommandLine.takeValue parameterAt
  by_cases hrange : (decide (optind > 1) && decide (optind ≤ argv.length)) = true
  · simp only [hrange, if_true, Option.all_some]
    rw [Bool.and_eq_true, decide_eq_true_eq, decide_eq_true_eq] at hrange
    exact handleParameter_takes hstrings hrange.2 rfl opts
  · simp only [hrange]
    exact ok_iff rfl

/-! ## Long options -/

/-- The long options that `CmdParse` knows. -/
private theorem mem_longOptions {build : Build} {name : String}
    (h : name ∈ (CmdParse.longOptions build).map LongOption.name) :
    (name = "cpuusage" ∧ build.hiviewEnable = true) ∨
    name ∈ ["cpufreq", "mem", "net", "storage", "zip", "gc", "leakobj"] ∨
    name ∈ ["mem-smaps", "mem-jsheap", "raw", "single", "ipc"] ∨ name ∈ ipcStats := by
  unfold CmdParse.longOptions at h
  cases hview : build.hiviewEnable <;>
    · simp only [hview, ipcStats] at h ⊢
      simp at h ⊢
      tauto

/-- A step that always passes. -/
private theorem passes_iff {σ : Type} {x : Except Rejection σ} {check : Bool} {a s : σ}
    (hx : x = .ok a)
    (hcheck : check = true) : x = .ok s ↔ check = true ∧ s = a := by
  rw [hx, hcheck]
  exact ok_iff rfl

/-- A step that always fails. -/
private theorem fails_iff {σ : Type} {x : Except Rejection σ} {check : Bool} {a s : σ}
    (hx : ∃ e, x = .error e) (hcheck : check = false) : x = .ok s ↔ check = true ∧ s = a := by
  obtain ⟨e, rfl⟩ := hx
  rw [hcheck]
  exact ⟨fun h => (nomatch h), fun ⟨h, _⟩ => (nomatch h)⟩

/-- Both parsers take the four IPC options. -/
private theorem setIpcStatParam_of_mem {param : String} (h : param ∈ ipcStats) :
    setIpcStatParam param (line.legacyOpts ctx) = some ((line.takeIpcStat param).legacyOpts ctx) ∧
    CmdParse.setIpcStatParam param line.newOpts = some (line.takeIpcStat param).newOpts := by
  simp only [ipcStats, List.mem_cons, List.not_mem_nil, or_false] at h
  rcases h with rfl | rfl | rfl
  all_goals
    simp only [setIpcStatParam, CmdParse.setIpcStatParam]
    exact ⟨rfl, rfl⟩

private theorem setIpcStatParam_of_notMem {param : String} (h : param ∉ ipcStats) :
    setIpcStatParam param (line.legacyOpts ctx) = none ∧
    CmdParse.setIpcStatParam param line.newOpts = none := by
  simp only [ipcStats, List.mem_cons, List.not_mem_nil, or_false, not_or] at h
  simp only [setIpcStatParam, CmdParse.setIpcStatParam, if_neg h.1, if_neg h.2.1, if_neg h.2.2]
  exact ⟨trivial, trivial⟩

private theorem takeIpcStat_isDumpIpc (param : String) :
    (line.takeIpcStat param).isDumpIpc = line.isDumpIpc := by
  unfold CommandLine.takeIpcStat
  split <;> rfl

/-- The turn for an IPC option. -/
private theorem takeLong_of_stat {name : String} {optarg : Option String} (h : name ∈ ipcStats) :
    line.takeLong ctx argv name optarg = line.takeIpcStat name ∧
    commonLong ctx argv line name optarg = line.isDumpIpc ∧
    legacyLong ctx argv line name = true ∧ newLong line name = true := by
  simp only [ipcStats, List.mem_cons, List.not_mem_nil, or_false] at h
  rcases h with rfl | rfl | rfl <;> exact ⟨rfl, rfl, rfl, rfl⟩

/-- The turn of the old parser for a long option, one case for each option. -/
private theorem parseLongCmdOption_ok_iff (hstrings : LawfulStrings ctx.sys.strings) {name : String}
    {optarg : Option String} (hname : name ∈ (CmdParse.longOptions ctx.build).map LongOption.name)
    (opts : DumperOpts) :
    parseLongCmdOption ctx argv name optarg (line.legacyOpts ctx) = .ok opts ↔
      (commonLong ctx argv line name optarg && legacyLong ctx argv line name) = true ∧
      opts = (line.takeLong ctx argv name optarg).legacyOpts ctx := by
  rcases mem_longOptions hname with ⟨rfl, hview⟩ | hflag | hother | hstat
  · refine passes_iff ?_ rfl
    simp [parseLongCmdOption, parseSubLongCmdOption, hview]
    rfl
  · simp only [List.mem_cons, List.not_mem_nil, or_false] at hflag
    rcases hflag with rfl | rfl | rfl | rfl | rfl | rfl | rfl
    -- `--gc` and `--leakobj` ask for a `--mem-jsheap` in front of them.
    case inr.inr.inr.inr.inr.inl =>
      have heq : parseLongCmdOption ctx argv "gc" optarg (line.legacyOpts ctx) =
          setGCParam ctx (line.legacyOpts ctx) := by
        simp [parseLongCmdOption, parseSubLongCmdOption]
      rw [heq]
      cases hjs : line.isDumpJsHeapMem with
      | true => exact passes_iff (if_pos hjs) hjs
      | false =>
        refine fails_iff ?_ hjs
        simp [setGCParam, setDependentParam, rejectWithHelp, hjs]
    case inr.inr.inr.inr.inr.inr =>
      have heq : parseLongCmdOption ctx argv "leakobj" optarg (line.legacyOpts ctx) =
          setLeakobjParam ctx (line.legacyOpts ctx) := by
        simp [parseLongCmdOption, parseSubLongCmdOption]
      rw [heq]
      cases hjs : line.isDumpJsHeapMem with
      | true => exact passes_iff (if_pos hjs) hjs
      | false =>
        refine fails_iff ?_ hjs
        simp [setLeakobjParam, setDependentParam, rejectWithHelp, hjs]
    all_goals
      refine passes_iff ?_ rfl
      simp [parseLongCmdOption, parseSubLongCmdOption]
      rfl
  · simp only [List.mem_cons, List.not_mem_nil, or_false] at hother
    rcases hother with rfl | rfl | rfl | rfl | rfl
    · have heq : parseLongCmdOption ctx argv "mem-smaps" optarg (line.legacyOpts ctx) =
          setMemSmapsParam ctx argv (line.legacyOpts ctx) := by
        simp [parseLongCmdOption, parseSubLongCmdOption]
      rw [heq, setMemSmapsParam]
      -- The pid of `--mem-smaps` is the third argument, whatever that belongs to.
      by_cases hargc : 2 < argv.length
      · rw [if_neg (by omega), show (commonLong ctx argv line "mem-smaps" optarg &&
          legacyLong ctx argv line "mem-smaps") = isInteger ctx (argv.getD 2 "") by
            simp [commonLong, legacyLong, hargc]]
        exact number_iff (fun _ => setCmdIntegerParameter_ok_iff hstrings) rfl
      · rw [if_pos (by omega)]
        exact fails_iff ⟨_, rfl⟩ (by simp [legacyLong, hargc])
    · have heq : parseLongCmdOption ctx argv "mem-jsheap" optarg (line.legacyOpts ctx) =
          setMemJsheapParam ctx optarg (line.legacyOpts ctx) := by
        simp [parseLongCmdOption, parseSubLongCmdOption]
      rw [heq]
      cases optarg with
      | none => exact fails_iff ⟨_, rfl⟩ rfl
      | some value =>
        rw [show (commonLong ctx argv line "mem-jsheap" (some value) &&
          legacyLong ctx argv line "mem-jsheap") = isInteger ctx value from Bool.and_true _]
        exact number_iff (fun _ => setCmdIntegerParameter_ok_iff hstrings) rfl
    · have heq : parseLongCmdOption ctx argv "raw" optarg (line.legacyOpts ctx) =
          setRawParam ctx (line.legacyOpts ctx) := by
        simp [parseLongCmdOption, parseSubLongCmdOption]
      rw [heq]
      cases hjs : line.isDumpJsHeapMem with
      | true => exact passes_iff (if_pos hjs) (by simp [commonLong, legacyLong, hjs])
      | false =>
        refine fails_iff ?_ (by simp [commonLong, hjs])
        simp [setRawParam, setDependentParam, rejectWithHelp, hjs]
    · refine passes_iff ?_ rfl
      simp [parseLongCmdOption, parseSubLongCmdOption]
      rfl
    -- `--ipc` wants exactly four arguments.
    · by_cases hargc : argv.length = 4
      · refine passes_iff ?_ (by simp [commonLong, legacyLong, hargc])
        simp [parseLongCmdOption, parseSubLongCmdOption, parseIpcOrEventOption, hargc]
        rfl
      · refine fails_iff ?_ (by simp [commonLong, hargc])
        simp [parseLongCmdOption, parseSubLongCmdOption, parseIpcOrEventOption, hargc,
          rejectWithHelp]
  · obtain ⟨htake, hcommon, hlegacy, -⟩ := @takeLong_of_stat ctx argv line name optarg hstat
    have heq : parseLongCmdOption ctx argv name optarg (line.legacyOpts ctx) =
        parseIpcOrEventOption ctx argv name optarg (line.legacyOpts ctx) := by
      simp only [ipcStats, List.mem_cons, List.not_mem_nil, or_false] at hstat
      rcases hstat with rfl | rfl | rfl <;> simp [parseLongCmdOption, parseSubLongCmdOption]
    have hipc : name ≠ "ipc" := fun h => by simp [h, ipcStats] at hstat
    rw [heq, htake, hcommon, hlegacy, Bool.and_true, parseIpcOrEventOption, if_neg hipc,
      (setIpcStatParam_of_mem hstat).1]
    dsimp only
    rw [CommandLine.legacyOpts_isDumpIpc, takeIpcStat_isDumpIpc]
    -- What follows `--ipc` is only taken behind it.
    cases hflag : line.isDumpIpc with
    | true => exact passes_iff rfl rfl
    | false => exact fails_iff ⟨_, rfl⟩ rfl

/-- The thread of `--single` is compared as a number, with -1 for one that is not given. -/
private theorem setHeapCombineParam_ok_iff (opts : DumperOptions) :
    CmdParse.setHeapCombineParam line.newOpts = .ok opts ↔
      newLong line "single" = true ∧ opts = { line with isDumpJsHeapCombine := true }.newOpts := by
  -- No number that was read is -1.
  have hsame : ∀ number other : Option Nat, number.elim (-1) Int.ofNat = other.elim (-1) Int.ofNat ↔
      number = other := by
    intro number other
    cases number with
    | none =>
      cases other with
      | none => simp
      | some other =>
        show (-1 : Int) = (other : Int) ↔ _
        constructor
        · omega
        · exact fun h => nomatch h
    | some number =>
      cases other with
      | none =>
        show (number : Int) = -1 ↔ _
        constructor
        · omega
        · exact fun h => nomatch h
      | some other =>
        show (number : Int) = (other : Int) ↔ _
        rw [Option.some.injEq]
        omega
  have hzero : ∀ number : Option Nat, number.elim (-1) Int.ofNat = 0 ↔ number = some 0 :=
    fun number => hsame number (some 0)
  unfold CmdParse.setHeapCombineParam
  by_cases hraw : line.dumpJsRawHeap = true
  case neg =>
    refine fails_iff ⟨_, if_pos ?_⟩ ?_
    · simp [hraw]
    · simp [newLong, hraw]
  case pos =>
    -- The thread is not given, 0, or the process itself.
    by_cases hthread : line.newOpts.threadId ≠ 0 ∧ line.newOpts.threadId ≠ line.newOpts.dumpJsHeapMemPid
    · refine fails_iff ⟨_, (if_neg ?_).trans (if_pos ?_)⟩ ?_
      · simp [hraw]
      · simp [hthread]
      · have hne := (hzero (line.number .threadId)).not.mp hthread.1
        have hne' := (hsame (line.number .threadId) (line.number .dumpJsHeapMemPid)).not.mp hthread.2
        simp [newLong, hne, hne']
    · rw [if_neg (by simp [hraw]), if_neg (by simpa using hthread)]
      refine passes_iff rfl ?_
      have hor : line.newOpts.threadId = 0 ∨
          line.newOpts.threadId = line.newOpts.dumpJsHeapMemPid := by tauto
      have hline := hor.imp (hzero (line.number .threadId)).mp
        (hsame (line.number .threadId) (line.number .dumpJsHeapMemPid)).mp
      simpa [newLong, hraw] using hline

/-- The turn of the new one. -/
private theorem cmdParse_parseLongCmdOption_ok_iff (hstrings : LawfulStrings ctx.sys.strings)
    {name : String}
    {optarg : Option String} (hname : name ∈ (CmdParse.longOptions ctx.build).map LongOption.name)
    (hargc : 2 ≤ argv.length) (opts : DumperOptions) :
    CmdParse.parseLongCmdOption ctx argv name optarg line.newOpts = .ok opts ↔
      (commonLong ctx argv line name optarg && newLong line name) = true ∧
      opts = (line.takeLong ctx argv name optarg).newOpts := by
  rcases mem_longOptions hname with ⟨rfl, hview⟩ | hflag | hother | hstat
  · refine passes_iff ?_ rfl
    simp [CmdParse.parseLongCmdOption, CmdParse.parseSubLongCmdOption, hview]
    rfl
  · simp only [List.mem_cons, List.not_mem_nil, or_false] at hflag
    rcases hflag with rfl | rfl | rfl | rfl | rfl | rfl | rfl
    all_goals
      refine passes_iff ?_ rfl
      simp [CmdParse.parseLongCmdOption, CmdParse.parseSubLongCmdOption]
      rfl
  · simp only [List.mem_cons, List.not_mem_nil, or_false] at hother
    rcases hother with rfl | rfl | rfl | rfl | rfl
    -- Where there is an option `argc` is at least 2, and then `--mem-smaps` is refused.
    · refine fails_iff ?_ (Bool.and_false _)
      simp [CmdParse.parseLongCmdOption, CmdParse.parseSubLongCmdOption, CmdParse.setMemSmapsParam,
        hargc]
    · have heq : CmdParse.parseLongCmdOption ctx argv "mem-jsheap" optarg line.newOpts =
          CmdParse.setMemJsheapParam ctx optarg line.newOpts := by
        simp [CmdParse.parseLongCmdOption, CmdParse.parseSubLongCmdOption]
      rw [heq]
      cases optarg with
      | none => exact fails_iff ⟨_, rfl⟩ rfl
      | some value =>
        rw [show (commonLong ctx argv line "mem-jsheap" (some value) && newLong line "mem-jsheap") =
          isInteger ctx value from Bool.and_true _]
        exact number_iff (fun _ => cmdParse_setCmdIntegerParameter_ok_iff.trans
          (setCmdIntegerParameter_ok_iff hstrings)) rfl
    · have heq : CmdParse.parseLongCmdOption ctx argv "raw" optarg line.newOpts =
          CmdParse.setRawParam line.newOpts := by
        simp [CmdParse.parseLongCmdOption, CmdParse.parseSubLongCmdOption]
      rw [heq, show (commonLong ctx argv line "raw" optarg && newLong line "raw") =
        line.isDumpJsHeapMem from Bool.and_true _]
      exact ite_ok_iff rfl
    · have heq : CmdParse.parseLongCmdOption ctx argv "single" optarg line.newOpts =
          CmdParse.setHeapCombineParam line.newOpts := by
        simp [CmdParse.parseLongCmdOption, CmdParse.parseSubLongCmdOption]
      rw [heq, show (commonLong ctx argv line "single" optarg && newLong line "single") =
        newLong line "single" from Bool.true_and _]
      exact setHeapCombineParam_ok_iff opts
    · by_cases hfour : argv.length = 4
      · refine passes_iff ?_ (by simp [commonLong, newLong, hfour])
        simp [CmdParse.parseLongCmdOption, CmdParse.parseSubLongCmdOption, hfour]
        rfl
      · refine fails_iff ?_ (by simp [commonLong, hfour])
        simp [CmdParse.parseLongCmdOption, CmdParse.parseSubLongCmdOption, CmdParse.rejectIpc, hfour]
  · obtain ⟨htake, hcommon, -, hnew⟩ := @takeLong_of_stat ctx argv line name optarg hstat
    have hset : CmdParse.setIpcStatParam name line.newOpts = some (line.takeIpcStat name).newOpts :=
      (@setIpcStatParam_of_mem ctx line name hstat).2
    have heq : CmdParse.parseLongCmdOption ctx argv name optarg line.newOpts =
        if line.isDumpIpc = false then CmdParse.rejectIpc ctx
        else .ok (line.takeIpcStat name).newOpts := by
      simp only [ipcStats, List.mem_cons, List.not_mem_nil, or_false] at hstat
      rcases hstat with rfl | rfl | rfl <;>
        simp [CmdParse.parseLongCmdOption, CmdParse.parseSubLongCmdOption, hset,
          takeIpcStat_isDumpIpc]
    rw [heq, htake, hcommon, hnew, Bool.and_true]
    -- What follows `--ipc` is only taken behind it.
    cases hflag : line.isDumpIpc with
    | true => exact passes_iff rfl rfl
    | false => exact fails_iff ⟨_, rfl⟩ rfl

/-! ## Short options -/

/-- The statistics that `-a` asks for when no abilities are dumped. -/
private theorem takeForA_of_ipc (hno : line.isDumpSystemAbility = false) {value param : String}
    (hsplit : (ctx.sys.strings.splitStr value "--" false true).head? = some param) :
    line.takeForA ctx (some value) = { line with isDumpAllIpc := true }.takeIpcStat param := by
  simp [CommandLine.takeForA, hno, hsplit]

/-- The option `-a` without an argument, where no abilities are asked for. -/
private theorem takeForA_none (hno : line.isDumpSystemAbility = false) :
    line.takeForA ctx none = { line with isDumpAllIpc := true } := by
  rw [CommandLine.takeForA, if_neg (by simp [hno])]
  dsimp only
  split <;> rfl

/-- The turn of the old parser for `-a`. -/
private theorem parseCmdOptionForA_ok_iff (optind : Nat) (optarg : Option String)
    (opts : DumperOpts) :
    parseCmdOptionForA ctx argv optind optarg (line.legacyOpts ctx) = .ok opts ↔
      commonForA ctx line optarg = true ∧ opts = (line.takeForA ctx optarg).legacyOpts ctx := by
  unfold parseCmdOptionForA
  by_cases hability : line.isDumpSystemAbility = true
  -- Behind `-s` the argument is the ability's, and always taken.
  case pos =>
    have htake : line.takeForA ctx optarg = { line with
        abilityArgs := ctx.sys.strings.splitStr (optarg.getD "") " " false true } := if_pos hability
    rw [htake]
    exact passes_iff (if_pos hability) (by simp [commonForA, hability])
  case neg =>
    rw [if_neg (show ¬(line.legacyOpts ctx).isDumpSystemAbility = true from hability)]
    rw [Bool.not_eq_true] at hability
    by_cases hipc : line.isDumpIpc = true
    case neg =>
      rw [if_neg (show ¬(line.legacyOpts ctx).isDumpIpc = true from hipc)]
      -- Without `-s` and `--ipc` there is nothing that `-a` could belong to.
      exact fails_iff ⟨_, rfl⟩ (by simp [commonForA, hability, hipc])
    case pos =>
      rw [if_pos (show (line.legacyOpts ctx).isDumpIpc = true from hipc)]
      cases optarg with
      -- `--ipc -a` without an argument stands for all.
      | none =>
        rw [takeForA_none hability]
        exact passes_iff rfl (by simp [commonForA, hipc])
      | some value =>
        dsimp only
        cases hsplit : ctx.sys.strings.splitStr value "--" false true with
        | nil => exact fails_iff ⟨_, rfl⟩ (by simp [commonForA, hability, hsplit])
        | cons param rest =>
          rw [takeForA_of_ipc hability (by rw [hsplit]; rfl)]
          -- With an argument it must be one of the names of `--ipc`.
          by_cases hmem : param ∈ ipcStats
          · have hset : setIpcStatParam param { line.legacyOpts ctx with isDumpAllIpc := true } =
                some (({ line with isDumpAllIpc := true }.takeIpcStat param).legacyOpts ctx) :=
              (@setIpcStatParam_of_mem ctx { line with isDumpAllIpc := true } param hmem).1
            dsimp only at hset ⊢
            rw [hset]
            exact passes_iff rfl (by simp [commonForA, hipc, hsplit, hmem])
          · have hset : setIpcStatParam param { line.legacyOpts ctx with isDumpAllIpc := true } = none :=
              (@setIpcStatParam_of_notMem ctx { line with isDumpAllIpc := true } param hmem).1
            dsimp only at hset ⊢
            rw [hset]
            exact fails_iff ⟨_, rfl⟩ (by simp [commonForA, hability, hsplit, hmem])

/-- The turn of the new one. -/
private theorem cmdParse_parseCmdOptionForA_ok_iff (optind : Nat) (optarg : Option String)
    (opts : DumperOptions) :
    CmdParse.parseCmdOptionForA ctx argv optind optarg line.newOpts = .ok opts ↔
      commonForA ctx line optarg = true ∧ opts = (line.takeForA ctx optarg).newOpts := by
  unfold CmdParse.parseCmdOptionForA
  by_cases hability : line.isDumpSystemAbility = true
  case pos =>
    have htake : line.takeForA ctx optarg = { line with
        abilityArgs := ctx.sys.strings.splitStr (optarg.getD "") " " false true } := if_pos hability
    rw [htake]
    exact passes_iff (if_pos hability) (by simp [commonForA, hability])
  case neg =>
    -- Without `-s` in front, `-a` is only allowed behind `--ipc`.
    rw [if_neg (show ¬line.newOpts.isDumpSystemAbility = true from hability)]
    rw [Bool.not_eq_true] at hability
    by_cases hipc : line.isDumpIpc = true
    case neg =>
      rw [if_neg (show ¬line.newOpts.isDumpIpc = true from hipc)]
      exact fails_iff ⟨_, rfl⟩ (by simp [commonForA, hability, hipc])
    case pos =>
      rw [if_pos (show line.newOpts.isDumpIpc = true from hipc)]
      cases optarg with
      | none =>
        rw [takeForA_none hability]
        exact passes_iff rfl (by simp [commonForA, hipc])
      | some value =>
        dsimp only
        cases hsplit : ctx.sys.strings.splitStr value "--" false true with
        | nil => exact fails_iff ⟨_, rfl⟩ (by simp [commonForA, hability, hsplit])
        | cons param rest =>
          rw [takeForA_of_ipc hability (by rw [hsplit]; rfl)]
          by_cases hmem : param ∈ ipcStats
          -- The text behind `-a` may name a statistic.
          · have hset : CmdParse.setIpcStatParam param { line.newOpts with isDumpAllIpc := true } =
                some ({ line with isDumpAllIpc := true }.takeIpcStat param).newOpts :=
              (@setIpcStatParam_of_mem ctx { line with isDumpAllIpc := true } param hmem).2
            dsimp only at hset ⊢
            rw [hset]
            exact passes_iff rfl (by simp [commonForA, hipc, hsplit, hmem])
          · have hset : CmdParse.setIpcStatParam param { line.newOpts with isDumpAllIpc := true } =
                none :=
              (@setIpcStatParam_of_notMem ctx { line with isDumpAllIpc := true } param hmem).2
            dsimp only at hset ⊢
            rw [hset]
            exact fails_iff ⟨_, rfl⟩ (by simp [commonForA, hability, hsplit, hmem])

/-! ## Turns -/

/-- A result that `getopt_long` may give for the options of `CmdParse`. -/
def isKnown (build : Build) (result : GetoptResult) : Prop :=
  match result.code with
  | .long name _ => name ∈ (CmdParse.longOptions build).map LongOption.name
  | .short c _ => c ∈ "hlcsaepvT".toList
  | .plain _ | .unknown _ => True

/-- A turn of the loop of `DumpImplement`. -/
theorem parseOption_ok_iff (hstrings : LawfulStrings ctx.sys.strings) {result : GetoptResult}
    (hknown : isKnown ctx.build result) (opts : DumperOpts) :
    parseOption ctx argv (line.legacyOpts ctx) result = .ok opts ↔
      (commonTurn ctx argv line result && legacyTurn ctx argv line result) = true ∧
      opts = (line.next ctx argv result).legacyOpts ctx := by
  obtain ⟨code, optind⟩ := result
  cases code with
  | long name optarg => exact parseLongCmdOption_ok_iff hstrings hknown opts
  | short c optarg =>
    have hc : c ∈ ['h', 'l', 'c', 's', 'a', 'e', 'p', 'v', 'T'] := hknown
    simp only [List.mem_cons, List.not_mem_nil, or_false] at hc
    rcases hc with rfl | rfl | rfl | rfl | rfl | rfl | rfl | rfl | rfl
    · exact fails_iff ⟨_, rfl⟩ rfl
    · exact passes_iff rfl rfl
    · exact passes_iff rfl rfl
    · exact passes_iff rfl rfl
    · rw [show (commonTurn ctx argv line ⟨.short 'a' optarg, optind⟩ &&
        legacyTurn ctx argv line ⟨.short 'a' optarg, optind⟩) = commonForA ctx line optarg from
          Bool.and_true _]
      exact parseCmdOptionForA_ok_iff optind optarg opts
    · exact passes_iff rfl rfl
    · exact passes_iff rfl rfl
    · exact passes_iff rfl rfl
    · exact setCmdParameter_ok_iff hstrings optind opts
  | plain arg => exact setCmdParameter_ok_iff hstrings optind opts
  | unknown optopt => exact fails_iff ⟨_, rfl⟩ rfl

/-- A turn of the loop of `CmdParse`. -/
theorem cmdParse_parseOption_ok_iff (hstrings : LawfulStrings ctx.sys.strings)
    {result : GetoptResult} (hknown : isKnown ctx.build result) (hargc : 2 ≤ argv.length)
    (opts : DumperOptions) :
    CmdParse.parseOption ctx argv line.newOpts result = .ok opts ↔
      (commonTurn ctx argv line result && newTurn ctx argv line result) = true ∧
      opts = (line.next ctx argv result).newOpts := by
  obtain ⟨code, optind⟩ := result
  cases code with
  | long name optarg => exact cmdParse_parseLongCmdOption_ok_iff hstrings hknown hargc opts
  | short c optarg =>
    have hc : c ∈ ['h', 'l', 'c', 's', 'a', 'e', 'p', 'v', 'T'] := hknown
    simp only [List.mem_cons, List.not_mem_nil, or_false] at hc
    rcases hc with rfl | rfl | rfl | rfl | rfl | rfl | rfl | rfl | rfl
    · exact fails_iff ⟨_, rfl⟩ rfl
    · exact passes_iff rfl rfl
    · exact passes_iff rfl rfl
    · exact passes_iff rfl rfl
    · rw [show (commonTurn ctx argv line ⟨.short 'a' optarg, optind⟩ &&
        newTurn ctx argv line ⟨.short 'a' optarg, optind⟩) = commonForA ctx line optarg from
          Bool.and_true _]
      exact cmdParse_parseCmdOptionForA_ok_iff optind optarg opts
    · exact passes_iff rfl rfl
    · exact passes_iff rfl rfl
    · exact passes_iff rfl rfl
    · exact cmdParse_setCmdParameter_ok_iff hstrings optind opts
  | plain arg => exact cmdParse_setCmdParameter_ok_iff hstrings optind opts
  | unknown optopt => exact fails_iff ⟨_, rfl⟩ rfl

end Turns

end HiDumper.Spec
