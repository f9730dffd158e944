import Mathlib.Data.List.Induction
import HiDumper.Spec.DumpPermission

/-!
# What the turns of the option loop read

Each turn of the loop of `CmdParseWithParameter` takes at most one text for the value
of a field, and it takes it from one of three places: `optarg`, the last element
before `optind` (with the option named by the element before that), or `argv[2]`.
`readOf` says which text goes to which field; all other turns leave these fields alone.
`Selection` follows three more fields, which `--zip`, `--mem-heap` and `--arkweb-js` set.

## Key results

- `parseOption_turn`: one turn stores the text that `readOf` names, and nothing else
- `foldlM_reads`: after the loop a field has the value of the last text read for it
- `foldlM_selection`: the same for the selection
-/

namespace HiDumper.Spec

open HiDumper.Native Checks

/-! ## Fields -/

/-- The fields of `DumperOpts` that the values of options go to. -/
inductive ValueField where
  | cpuUsagePid
  | memPid
  | netPid
  | storagePid
  | processPid
  | threadId
  | timeInterval
  | showEventCount
  | ipcStatPid
  | dumpJsHeapMemPid
  | dumpCjHeapMemPid
  | dumpHeapMemPid
  deriving DecidableEq, Repr

namespace ValueField

def get (opts : DumperOpts) : ValueField → Int
  | cpuUsagePid => opts.cpuUsagePid
  | memPid => opts.memPid
  | netPid => opts.netPid
  | storagePid => opts.storagePid
  | processPid => opts.processPid
  | threadId => opts.threadId
  | timeInterval => opts.timeInterval
  | showEventCount => opts.showEventCount
  | ipcStatPid => opts.ipcStatPid
  | dumpJsHeapMemPid => opts.dumpJsHeapMemPid
  | dumpCjHeapMemPid => opts.dumpCjHeapMemPid
  | dumpHeapMemPid => opts.dumpHeapMemPid

def set (value : Int) (opts : DumperOpts) : ValueField → DumperOpts
  | cpuUsagePid => { opts with cpuUsagePid := value }
  | memPid => { opts with memPid := value }
  | netPid => { opts with netPid := value }
  | storagePid => { opts with storagePid := value }
  | processPid => { opts with processPid := value }
  | threadId => { opts with threadId := value }
  | timeInterval => { opts with timeInterval := value }
  | showEventCount => { opts with showEventCount := value }
  | ipcStatPid => { opts with ipcStatPid := value }
  | dumpJsHeapMemPid => { opts with dumpJsHeapMemPid := value }
  | dumpCjHeapMemPid => { opts with dumpCjHeapMemPid := value }
  | dumpHeapMemPid => { opts with dumpHeapMemPid := value }

/-- A field has the value that it was set to. -/
private theorem get_set (field : ValueField) (value : Int) (opts : DumperOpts) :
    field.get (field.set value opts) = value := by
  cases field <;> rfl

/-- Setting one field leaves the others. -/
private theorem get_set_of_ne {field other : ValueField} (value : Int) (opts : DumperOpts)
    (h : other ≠ field) : other.get (field.set value opts) = other.get opts := by
  cases field <;> cases other <;> first | rfl | exact absurd rfl h

end ValueField

/-- The fields that `--zip`, `--mem-heap` and `--arkweb-js` set. -/
structure Selection where
  path : String
  isDumpHeapMem : Bool
  isDumpHeapArkwebJs : Bool

def Selection.of (opts : DumperOpts) : Selection :=
  ⟨opts.path, opts.isDumpHeapMem, opts.isDumpHeapArkwebJs⟩

/-- A value does not select anything. -/
theorem ValueField.selection_set (field : ValueField) (value : Int) (opts : DumperOpts) :
    Selection.of (field.set value opts) = Selection.of opts := by
  cases field <;> rfl

/-! ## Texts -/

section Routes

variable (ctx : CmdContext) (argv : List String)

/-- The text that `HandleOptionParameter` reads for the value of a field. -/
def readOfName (optind : Nat) (name value : String) : Option (ValueField × String) :=
  if ctx.build.hiviewEnable && name = "--cpuusage" then some (.cpuUsagePid, value)
  else if name = "--mem" then if value = "SIGINT" then none else some (.memPid, value)
  else if name = "--net" then some (.netPid, value)
  else if name = "--storage" then some (.storagePid, value)
  else if name = "-c" then none
  else if name = "-p" then some (.processPid, value)
  else if name = "-T" then some (.threadId, value)
  else if name = "-t" then some (.timeInterval, value)
  else if name = "-n" then some (.showEventCount, value)
  else if name = "--list" then none
  else if name = "--print" then none
  else if isSADumperOption ctx argv optind then none
  else if name = "--ipc" then some (.ipcStatPid, value)
  else if name = "--mem-heap" then some (.dumpHeapMemPid, value)
  else none

/-- The text that `SetCmdParameter` reads: the last element before `optind`, for the
    option named by the element before it. -/
def readBefore (optind : Nat) : Option (ValueField × String) :=
  if optind > 1 && optind ≤ argv.length then
    readOfName ctx argv optind (argv.getD (optind - 2) "") (argv.getD (optind - 1) "")
  else none

/-- The text that `ParseLongCmdOption` reads. -/
def readOfLong (name : String) (optarg : Option String) : Option (ValueField × String) :=
  if name = "mem-smaps" then some (.memPid, argv.getD 2 "")
  else if name = "mem-jsheap" then optarg.map (.dumpJsHeapMemPid, ·)
  else if name = "mem-cjheap" then optarg.map (.dumpCjHeapMemPid, ·)
  else none

/-- The text that one turn of the loop reads for the value of a field. -/
def readOf (result : GetoptResult) : Option (ValueField × String) :=
  match result.code with
  | .long name optarg => readOfLong argv name optarg
  | .short c _ => if c ∈ "ahceslpv".toList then none else readBefore ctx argv result.optind
  | .plain _ => readBefore ctx argv result.optind
  | .unknown _ => none

/-- The last text read for a field. -/
def lastRead (results : List GetoptResult) (field : ValueField) : Option String :=
  ((results.filterMap (readOf ctx argv)).filterMap fun (other, text) =>
    if other = field then some text else none).getLast?

end Routes

/-- The results of all calls of `getopt_long` for a command line. -/
def getoptResults (ctx : CmdContext) (argv : List String) : List GetoptResult :=
  getoptLong (longOptions ctx.build) (optStr.toList.drop 1) 1 (argv.drop 1)

/-- The long option `name`. -/
def isLong (name : String) (result : GetoptResult) : Bool :=
  match result.code with
  | .long name' _ => name' = name
  | _ => false

/-- What a list of turns makes of the selection. -/
def Selection.after (ctx : CmdContext) (results : List GetoptResult) (selection : Selection) :
    Selection where
  path := if results.any (isLong "zip") then zipFolder ++ ctx.time ++ ".zip" else selection.path
  isDumpHeapMem := selection.isDumpHeapMem || results.any (isLong "mem-heap")
  isDumpHeapArkwebJs := selection.isDumpHeapArkwebJs ||
    (ctx.build.pluginEnable && results.any (isLong "arkweb-js"))

/-- What results select, they select one after the other. -/
theorem Selection.after_cons (ctx : CmdContext) (result : GetoptResult)
    (results : List GetoptResult) (selection : Selection) :
    selection.after ctx (result :: results) = (selection.after ctx [result]).after ctx results := by
  unfold Selection.after
  simp only [List.any_cons, List.any_nil, Bool.or_false, Bool.or_assoc, Bool.and_or_distrib_left]
  by_cases hzip : isLong "zip" result = true <;> simp [hzip]

section Reads

variable {ctx : CmdContext} {argv : List String} {opts opts' : DumperOpts}

/-! ## Steps -/

/-- `opts'` has the values and the selection of `opts`. -/
structure Keeps (opts opts' : DumperOpts) : Prop where
  values : ValueField.get opts' = ValueField.get opts
  selection : Selection.of opts' = Selection.of opts

/-- A text that is taken for an integer. -/
def StandsFor (ctx : CmdContext) (text : String) (value : Int) : Prop :=
  ctx.sys.strings.isNumericStr text = true ∧ ctx.sys.strings.strToInt text = some value

/-- A step from `opts` to `opts'` that stores the text `read` in its field and keeps all
    other values and the selection. -/
structure Reads (ctx : CmdContext) (read : Option (ValueField × String)) (opts opts' : DumperOpts) :
    Prop where
  value : ∀ field text, read = some (field, text) → StandsFor ctx text (field.get opts')
  frame : ∀ field, (∀ text, read ≠ some (field, text)) → field.get opts' = field.get opts
  selection : Selection.of opts' = Selection.of opts

theorem Keeps.refl (opts : DumperOpts) : Keeps opts opts := ⟨rfl, rfl⟩

/-- A turn that keeps the values reads none. -/
theorem Keeps.reads (h : Keeps opts opts') : Reads ctx none opts opts' :=
  ⟨fun _ _ hread => (nomatch hread), fun field _ => congrFun h.values field, h.selection⟩

/-- A step that only sets other fields. -/
theorem Keeps.of_ok {base : DumperOpts} (h : (.ok base : Except Rejection DumperOpts) = .ok opts')
    (hvalues : ValueField.get base = ValueField.get opts)
    (hselection : Selection.of base = Selection.of opts) : Keeps opts opts' :=
  Except.ok.inj h ▸ ⟨hvalues, hselection⟩

/-- A turn keeps the values when both of its branches do. -/
theorem Keeps.ite {c : Prop} [Decidable c] {x y : Except Rejection DumperOpts}
    (h : (if c then x else y) = .ok opts') (hthen : x = .ok opts' → Keeps opts opts')
    (helse : y = .ok opts' → Keeps opts opts') : Keeps opts opts' := by
  by_cases hc : c
  · rw [if_pos hc] at h
    exact hthen h
  · rw [if_neg hc] at h
    exact helse h

/-- Two branches that read what the same test chooses. -/
theorem Reads.ite {c : Prop} [Decidable c] {x y : Except Rejection DumperOpts}
    {read read' : Option (ValueField × String)} (h : (if c then x else y) = .ok opts')
    (hthen : x = .ok opts' → Reads ctx read opts opts')
    (helse : y = .ok opts' → Reads ctx read' opts opts') :
    Reads ctx (if c then read else read') opts opts' := by
  by_cases hc : c
  · rw [if_pos hc] at h ⊢
    exact hthen h
  · rw [if_neg hc] at h ⊢
    exact helse h

/-- An accepted text stands for its value. -/
private theorem setCmdIntegerParameter_ok {text : String} {value : Int}
    (h : setCmdIntegerParameter ctx text = .ok value) : StandsFor ctx text value := by
  unfold setCmdIntegerParameter at h
  split at h
  · exact nomatch h
  · rename_i hnumeric
    split at h
    · exact nomatch h
    · rename_i hvalue
      exact ⟨by simpa using hnumeric, by rw [hvalue, Except.ok.inj h]⟩

private theorem setShowCount_ok {text : String} {value : Int}
    (h : setShowCount ctx text = .ok value) :
    StandsFor ctx text value := by
  obtain ⟨value', hvalue, h⟩ := bind_eq_ok.mp h
  split at h
  · exact nomatch h
  · rw [← Except.ok.inj h]
    exact setCmdIntegerParameter_ok hvalue

/-- A step that stores the integer a text stands for. -/
theorem Reads.of_set {field : ValueField} {text : String} {parsed : Except Rejection Int}
    {base : DumperOpts} (h : (parsed >>= fun value => .ok (field.set value base)) = .ok opts')
    (hparsed : ∀ value, parsed = .ok value → StandsFor ctx text value)
    (hbase : Keeps opts base) : Reads ctx (some (field, text)) opts opts' := by
  obtain ⟨value, hvalue, hstore⟩ := bind_eq_ok.mp h
  rw [← Except.ok.inj hstore]
  constructor
  case value =>
    intro field' text' heq
    obtain ⟨rfl, rfl⟩ := Prod.mk.inj (Option.some.inj heq)
    rw [field.get_set]
    exact hparsed value hvalue
  case frame =>
    intro other hother
    have hne : other ≠ field := fun heq => hother text (by rw [heq])
    rw [ValueField.get_set_of_ne value base hne]
    exact congrFun hbase.values other
  case selection => rw [field.selection_set, hbase.selection]

/-! ## Parameters -/

/-- The value behind an option is read into the field of the option. -/
private theorem handleOptionParameter_reads {optind : Nat} {name value : String}
    (h : handleOptionParameter ctx argv optind name value opts = .ok opts') :
    Reads ctx (readOfName ctx argv optind name value) opts opts' := by
  have hint := fun v => @setCmdIntegerParameter_ok ctx value v
  have hsame := Keeps.refl opts
  have hheapArg : (do .ok { opts with dumpHeapArgPid := ← setCmdIntegerParameter ctx value }) =
      (.ok opts' : Except Rejection DumperOpts) → Keeps opts opts' := by
    intro hset
    obtain ⟨pid, -, hpid⟩ := bind_eq_ok.mp hset
    exact .of_ok hpid rfl rfl
  unfold handleOptionParameter at h
  dsimp only at h
  -- The tests of the source, in its order.
  refine .ite h (fun h => .of_set h hint hsame) fun h => ?_
  refine .ite h (fun h => .ite h (fun h => ?_) fun h => .of_set h hint hsame) fun h => ?_
  · exact Keeps.reads (.of_ok h rfl rfl)
  refine .ite h (fun h => .of_set h hint hsame) fun h => ?_
  refine .ite h (fun h => .of_set h hint hsame) fun h => ?_
  refine .ite h (fun h => Keeps.reads (.of_ok h rfl rfl)) fun h => ?_
  refine .ite h (fun h => .of_set h hint hsame) fun h => ?_
  refine .ite h (fun h => .of_set h hint hsame) fun h => ?_
  refine .ite h (fun h => .of_set h hint hsame) fun h => ?_
  refine .ite h (fun h => .of_set h (fun _ => setShowCount_ok) hsame) fun h => ?_
  refine .ite h (fun h => Keeps.reads (.of_ok h rfl rfl)) fun h => ?_
  refine .ite h (fun h => ?_) fun h => ?_
  · refine Keeps.reads (.ite h (fun h => ?_) fun h => ?_)
    · exact .of_ok h rfl rfl
    · exact .of_ok h rfl rfl
  refine .ite h (fun h => Keeps.reads (.of_ok h rfl rfl)) fun h => ?_
  refine .ite h (fun h => .of_set h hint hsame) fun h => ?_
  refine .ite h (fun h => .of_set h hint hsame) fun h => ?_
  refine Keeps.reads (.ite h hheapArg fun h => .ite h hheapArg fun h => .ite h hheapArg fun h =>
    .ite h hheapArg fun h => ?_)
  exact nomatch h

/-- A plain argument is read for the option in front of it. -/
private theorem setCmdParameter_reads {optind : Nat}
    (h : setCmdParameter ctx argv optind opts = .ok opts') :
    Reads ctx (readBefore ctx argv optind) opts opts' := by
  refine .ite h handleOptionParameter_reads fun h => ?_
  exact Keeps.reads (.of_ok h rfl rfl)

/-! ## Long options -/

private theorem setDependentParam_keeps {name : String} {needed : Bool} {base : DumperOpts}
    (h : setDependentParam ctx name needed base = .ok opts') (hbase : Keeps opts base) :
    Keeps opts opts' :=
  .ite h (fun h => Except.ok.inj h ▸ hbase) fun h => nomatch h

private theorem setShowLeakthreadParam_keeps (h : setShowLeakthreadParam ctx opts = .ok opts') :
    Keeps opts opts' :=
  .ite h (fun h => .of_ok h rfl rfl) fun h => nomatch h

private theorem setRawParam_keeps (h : setRawParam ctx opts = .ok opts') : Keeps opts opts' :=
  .ite h (fun h => .of_ok h rfl rfl) fun h => setDependentParam_keeps h ⟨rfl, rfl⟩

private theorem setMemPruneParam_keeps (h : setMemPruneParam opts = .ok opts') : Keeps opts opts' :=
  .ite h (fun h => .of_ok h rfl rfl) fun h => nomatch h

private theorem setGCParam_keeps (h : setGCParam ctx opts = .ok opts') : Keeps opts opts' :=
  .ite h (fun h => .of_ok h rfl rfl) fun h => .ite h (fun h => .of_ok h rfl rfl) fun h =>
    setDependentParam_keeps h ⟨rfl, rfl⟩

private theorem setLeakobjParam_keeps (h : setLeakobjParam ctx opts = .ok opts') :
    Keeps opts opts' :=
  .ite h (fun h => .of_ok h rfl rfl) fun h => setDependentParam_keeps h ⟨rfl, rfl⟩

private theorem setCleanParam_keeps (h : setCleanParam opts = .ok opts') : Keeps opts opts' :=
  .ite h (fun h => .of_ok h rfl rfl) fun h => nomatch h

/-- The options without a value read none. -/
private theorem parseSubLongCmdOption_keeps {name : String} (hzip : name ≠ "zip")
    (h : parseSubLongCmdOption ctx name opts = some opts') : Keeps opts opts' := by
  unfold parseSubLongCmdOption at h
  rw [if_neg hzip] at h
  repeat' split at h
  all_goals first
    | exact Option.some.inj h ▸ ⟨rfl, rfl⟩
    | exact absurd h nofun

private theorem setIpcStatParam_keeps {param : String}
    (h : setIpcStatParam param opts = some opts') :
    Keeps opts opts' := by
  unfold setIpcStatParam at h
  repeat' split at h
  all_goals first
    | exact Option.some.inj h ▸ ⟨rfl, rfl⟩
    | exact absurd h nofun

private theorem parseIpcOrEventOption_keeps {name : String} {optarg : Option String}
    (h : parseIpcOrEventOption ctx argv name optarg opts = .ok opts') : Keeps opts opts' := by
  unfold parseIpcOrEventOption at h
  refine .ite h (fun h => .ite h (fun h => nomatch h) fun h => ?_) fun h => ?_
  · exact .of_ok h rfl rfl
  cases hipc : setIpcStatParam name opts with
  | some opts₁ =>
    rw [hipc] at h
    exact .ite h (fun h => nomatch h) fun h => Except.ok.inj h ▸ setIpcStatParam_keeps hipc
  -- The event options: their times are read, the values are not touched.
  | none =>
    rw [hipc] at h
    refine .ite h (fun h => ?_) fun h => .of_ok h rfl rfl
    unfold setEventParam at h
    refine .ite h (fun h => .of_ok h rfl rfl) fun h => ?_
    refine .ite h (fun h => .of_ok h rfl rfl) fun h => ?_
    refine .ite h (fun h => ?_) fun h => .ite h (fun h => ?_) fun h => nomatch h
    all_goals
      obtain ⟨time, -, h⟩ := bind_eq_ok.mp h
      exact .of_ok h rfl rfl

/-- The long options that read no value. -/
private theorem parseLongCmdOption_keeps {name : String} {optarg : Option String}
    (hzip : name ≠ "zip")
    (hheap : name ≠ "mem-heap") (harkweb : (ctx.build.pluginEnable && name = "arkweb-js") ≠ true)
    (hsmaps : name ≠ "mem-smaps") (hjs : name ≠ "mem-jsheap") (hcj : name ≠ "mem-cjheap")
    (h : parseLongCmdOption ctx argv name optarg opts = .ok opts') : Keeps opts opts' := by
  unfold parseLongCmdOption at h
  cases hsub : parseSubLongCmdOption ctx name opts with
  | some opts₁ =>
    rw [hsub] at h
    exact Except.ok.inj h ▸ parseSubLongCmdOption_keeps hzip hsub
  | none =>
    rw [hsub] at h
    dsimp only at h
    rw [if_neg hsmaps, if_neg hjs, if_neg hcj, if_neg hheap, if_neg harkweb] at h
    -- One line for each branch, in the order of the source.
    refine .ite h (fun h => .of_ok h rfl rfl) fun h => ?_
    refine .ite h (fun h => .of_ok h rfl rfl) fun h => ?_
    refine .ite h (fun h => .of_ok h rfl rfl) fun h => ?_
    refine .ite h (fun h => .of_ok h rfl rfl) fun h => ?_
    refine .ite h setShowLeakthreadParam_keeps fun h => ?_
    refine .ite h (fun h => .of_ok h rfl rfl) fun h => ?_
    refine .ite h (fun h => .of_ok h rfl rfl) fun h => ?_
    refine .ite h (fun h => setDependentParam_keeps h ⟨rfl, rfl⟩) fun h => ?_
    refine .ite h (fun h => setDependentParam_keeps h ⟨rfl, rfl⟩) fun h => ?_
    refine .ite h (fun h => setDependentParam_keeps h ⟨rfl, rfl⟩) fun h => ?_
    refine .ite h setRawParam_keeps fun h => ?_
    refine .ite h setMemPruneParam_keeps fun h => ?_
    refine .ite h setGCParam_keeps fun h => ?_
    refine .ite h setLeakobjParam_keeps fun h => ?_
    refine .ite h (fun h => .of_ok h rfl rfl) fun h => ?_
    refine .ite h setCleanParam_keeps fun h => ?_
    exact parseIpcOrEventOption_keeps h

/-- A long option reads its argument. -/
private theorem parseLongCmdOption_reads {name : String} {optarg : Option String}
    (hzip : name ≠ "zip")
    (hheap : name ≠ "mem-heap") (harkweb : (ctx.build.pluginEnable && name = "arkweb-js") ≠ true)
    (h : parseLongCmdOption ctx argv name optarg opts = .ok opts') :
    Reads ctx (readOfLong argv name optarg) opts opts' := by
  -- Three long options have a value; each reads it into the field of a pid.
  by_cases hsmaps : name = "mem-smaps"
  · rw [hsmaps] at h ⊢
    replace h : setMemSmapsParam ctx argv opts = .ok opts' := by
      simpa [parseLongCmdOption, parseSubLongCmdOption] using h
    unfold setMemSmapsParam at h
    split at h
    · exact nomatch h
    · exact @Reads.of_set _ opts _ .memPid _ _ { opts with isShowSmaps := true } h
        (fun _ => setCmdIntegerParameter_ok) ⟨rfl, rfl⟩
  by_cases hjs : name = "mem-jsheap"
  · rw [hjs] at h ⊢
    replace h : setMemJsheapParam ctx optarg opts = .ok opts' := by
      simpa [parseLongCmdOption, parseSubLongCmdOption] using h
    cases optarg with
    | none => exact nomatch h
    | some value =>
      exact @Reads.of_set _ opts _ .dumpJsHeapMemPid _ _ { opts with isDumpJsHeapMem := true } h
        (fun _ => setCmdIntegerParameter_ok) ⟨rfl, rfl⟩
  by_cases hcj : name = "mem-cjheap"
  · rw [hcj] at h ⊢
    replace h : setMemCjheapParam ctx optarg opts = .ok opts' := by
      simpa [parseLongCmdOption, parseSubLongCmdOption] using h
    cases optarg with
    | none => exact nomatch h
    | some value =>
      exact @Reads.of_set _ opts _ .dumpCjHeapMemPid _ _ { opts with isDumpCjHeapMem := true } h
        (fun _ => setCmdIntegerParameter_ok) ⟨rfl, rfl⟩
  -- The others read nothing.
  unfold readOfLong
  rw [if_neg hsmaps, if_neg hjs, if_neg hcj]
  exact (parseLongCmdOption_keeps hzip hheap harkweb hsmaps hjs hcj h).reads

/-! ## Short options -/

/-- The option `-a` reads no value. -/
private theorem parseCmdOptionForA_keeps {optind : Nat} {optarg : Option String}
    (h : parseCmdOptionForA ctx argv optind optarg opts = .ok opts') : Keeps opts opts' := by
  unfold parseCmdOptionForA at h
  refine .ite h (fun h => .of_ok h rfl rfl) fun h => .ite h (fun h => ?_) fun h => nomatch h
  dsimp only at h
  split at h
  · exact .of_ok h rfl rfl
  split at h
  · exact nomatch h
  split at h
  · rename_i hipc
    have hkeeps := setIpcStatParam_keeps hipc
    exact Except.ok.inj h ▸ ⟨hkeeps.values, hkeeps.selection⟩
  · exact nomatch h

/-- A short option with an argument looks at the two texts before `optind`. -/
private theorem parseShortCmdOption_reads {optind : Nat} {c : Char} {optarg : Option String}
    (hhelp : c ≠ 'h') (h : parseShortCmdOption ctx argv optind c optarg opts = .ok opts') :
    Reads ctx (if c ∈ "ahceslpv".toList then none else readBefore ctx argv optind) opts opts' := by
  unfold parseShortCmdOption at h
  split at h
  case h_1 => exact (parseCmdOptionForA_keeps h).reads
  case h_8 hA hC hE hL hS hP hV =>
    have hnone : c ∉ "ahceslpv".toList := by
      simp [hhelp]
      exact ⟨hA, hC, hE, hS, hL, hP, hV⟩
    rw [if_neg hnone]
    exact setCmdParameter_reads h
  all_goals exact Keeps.reads (.of_ok h rfl rfl)

/-! ## The loop -/

/-- What one turn of the loop does. -/
structure Turn (ctx : CmdContext) (argv : List String) (result : GetoptResult)
    (opts opts' : DumperOpts) : Prop where
  value : ∀ field text, readOf ctx argv result = some (field, text) →
    StandsFor ctx text (field.get opts')
  frame : ∀ field, (∀ text, readOf ctx argv result ≠ some (field, text)) →
    field.get opts' = field.get opts
  selection : Selection.of opts' = (Selection.of opts).after ctx [result]
  /-- `--arkweb-js` needs `--mem-heap` before it. -/
  heap : ctx.build.pluginEnable = true → isLong "arkweb-js" result = true →
    opts.isDumpHeapMem = true

/-- A turn that is none of the three that change the selection. -/
theorem Reads.turn {result : GetoptResult} (h : Reads ctx (readOf ctx argv result) opts opts')
    (hzip : isLong "zip" result = false) (hheap : isLong "mem-heap" result = false)
    (harkweb : (ctx.build.pluginEnable && isLong "arkweb-js" result) = false) :
    Turn ctx argv result opts opts' := by
  refine ⟨h.value, h.frame, ?_, fun hplugin hlong => ?_⟩
  · rw [h.selection]
    simp [Selection.after, hzip, hheap, harkweb]
  · rw [hplugin, hlong] at harkweb
    exact nomatch harkweb

/-- A turn that changes the selection only. -/
theorem Turn.of_selection {result : GetoptResult} (hread : readOf ctx argv result = none)
    (hvalues : ValueField.get opts' = ValueField.get opts)
    (hselection : Selection.of opts' = (Selection.of opts).after ctx [result])
    (hheap : ctx.build.pluginEnable = true → isLong "arkweb-js" result = true →
      opts.isDumpHeapMem = true) : Turn ctx argv result opts opts' := by
  refine ⟨fun field text h => ?_, fun field _ => congrFun hvalues field, hselection, hheap⟩
  exact nomatch hread.symm.trans h

/-- A turn for a long option. -/
private theorem parseLongCmdOption_turn {name : String} {optarg : Option String} {optind : Nat}
    (h : parseLongCmdOption ctx argv name optarg opts = .ok opts') :
    Turn ctx argv ⟨.long name optarg, optind⟩ opts opts' := by
  -- `--zip`, `--mem-heap` and `--arkweb-js` are selections; what is left reads a value or none.
  by_cases hzip : name = "zip"
  · subst hzip
    have hopts : opts' = { opts with path := zipFolder ++ ctx.time ++ ".zip" } := by
      simpa [parseLongCmdOption, parseSubLongCmdOption] using h.symm
    rw [hopts]
    exact .of_selection rfl rfl (by simp [Selection.after, Selection.of, isLong]) fun _ => nofun
  by_cases hheap : name = "mem-heap"
  · subst hheap
    have hopts : opts' = { opts with isDumpHeapMem := true } := by
      simpa [parseLongCmdOption, parseSubLongCmdOption] using h.symm
    rw [hopts]
    exact .of_selection rfl rfl (by simp [Selection.after, Selection.of, isLong]) fun _ => nofun
  by_cases harkweb : (ctx.build.pluginEnable && name = "arkweb-js") = true
  · obtain ⟨hplugin, hname⟩ := Bool.and_eq_true_iff.mp harkweb
    have hname := of_decide_eq_true hname
    subst hname
    replace h : setArkwebJsParam ctx opts = .ok opts' := by
      simpa [parseLongCmdOption, parseSubLongCmdOption, hplugin] using h
    unfold setArkwebJsParam setDependentParam at h
    split at h
    · rename_i hmem
      rw [← Except.ok.inj h]
      refine .of_selection rfl rfl ?_ fun _ _ => hmem
      simp [Selection.after, Selection.of, isLong, hplugin]
    · exact nomatch h
  have hreads : Reads ctx (readOf ctx argv ⟨.long name optarg, optind⟩) opts opts' :=
    parseLongCmdOption_reads hzip hheap harkweb h
  exact hreads.turn (decide_eq_false hzip) (decide_eq_false hheap)
    (Bool.eq_false_iff.mpr harkweb)

/-- One turn. -/
theorem parseOption_turn {result : GetoptResult}
    (h : parseOption ctx argv opts result = .ok opts') : Turn ctx argv result opts opts' := by
  obtain ⟨code, optind⟩ := result
  cases code with
  | long name optarg => exact parseLongCmdOption_turn h
  | short c optarg =>
    -- `-h` prints the help and ends the parse.
    by_cases hhelp : c = 'h'
    · subst hhelp
      exact nomatch h
    · have hshort : parseShortCmdOption ctx argv optind c optarg opts = .ok opts' := by
        simpa only [parseOption, hhelp] using h
      have hreads : Reads ctx (readOf ctx argv ⟨.short c optarg, optind⟩) opts opts' :=
        parseShortCmdOption_reads hhelp hshort
      exact hreads.turn rfl rfl (Bool.and_false _)
  | plain arg =>
    have hreads : Reads ctx (readOf ctx argv ⟨.plain arg, optind⟩) opts opts' :=
      setCmdParameter_reads h
    exact hreads.turn rfl rfl (Bool.and_false _)
  | unknown optopt => exact nomatch h

/-- What `lastRead` makes of one more turn. -/
private theorem lastRead_append_singleton (results : List GetoptResult) (result : GetoptResult)
    (field : ValueField) :
    lastRead ctx argv (results ++ [result]) field =
      match readOf ctx argv result with
      | none => lastRead ctx argv results field
      | some (other, text) => if other = field then some text else lastRead ctx argv results field := by
  unfold lastRead
  rw [List.filterMap_append, List.filterMap_append]
  cases hread : readOf ctx argv result with
  | none => simp [hread]
  | some read =>
    obtain ⟨other, text⟩ := read
    by_cases hfield : other = field <;> simp [hread, hfield]

/-- After the loop a field has the value of the last text read for it, or the value it
    had before. -/
theorem foldlM_reads {results : List GetoptResult}
    (h : results.foldlM (parseOption ctx argv) opts = .ok opts') (field : ValueField) :
    match lastRead ctx argv results field with
    | some text => ctx.sys.strings.strToInt text = some (field.get opts')
    | none => field.get opts' = field.get opts := by
  induction results using List.reverseRecOn generalizing opts' with
  | nil => exact congrArg field.get (Except.ok.inj h).symm
  | append_singleton results result ih =>
    rw [List.foldlM_append] at h
    obtain ⟨opts₁, hbefore, hlast⟩ := bind_eq_ok.mp h
    have hlast : parseOption ctx argv opts₁ result = .ok opts' := by simpa using hlast
    have ih := ih hbefore
    rw [lastRead_append_singleton]
    have hturn := parseOption_turn hlast
    -- The last turn reads a text for this field, or leaves it as it was.
    cases hread : readOf ctx argv result with
    | none =>
      rw [hturn.frame field (by simp [hread])]
      exact ih
    | some read =>
      obtain ⟨other, text⟩ := read
      dsimp only
      by_cases hfield : other = field
      · rw [if_pos hfield]
        exact (hturn.value field text (hfield ▸ hread)).2
      · rw [if_neg hfield, hturn.frame field (by simp [hread, hfield])]
        exact ih

/-- The selection after the loop. -/
theorem foldlM_selection {results : List GetoptResult}
    (h : results.foldlM (parseOption ctx argv) opts = .ok opts') :
    Selection.of opts' = (Selection.of opts).after ctx results := by
  induction results generalizing opts with
  | nil =>
    rw [← Except.ok.inj h]
    simp [Selection.after]
  | cons result results ih =>
    rw [List.foldlM_cons] at h
    obtain ⟨opts₁, hfirst, hrest⟩ := bind_eq_ok.mp h
    rw [ih hrest, (parseOption_turn hfirst).selection, ← Selection.after_cons]

/-- Where the web heap is selected, `--mem-heap` is selected as well. -/
theorem foldlM_heap {results : List GetoptResult}
    (h : results.foldlM (parseOption ctx argv) opts = .ok opts')
    (hopts : opts.isDumpHeapArkwebJs = true → opts.isDumpHeapMem = true)
    (harkweb : opts'.isDumpHeapArkwebJs = true) : opts'.isDumpHeapMem = true := by
  induction results generalizing opts with
  | nil =>
    rw [← Except.ok.inj h] at harkweb ⊢
    exact hopts harkweb
  | cons result results ih =>
    rw [List.foldlM_cons] at h
    obtain ⟨opts₁, hfirst, hrest⟩ := bind_eq_ok.mp h
    refine ih hrest fun harkweb₁ => ?_
    have hturn := parseOption_turn hfirst
    have hflag : opts₁.isDumpHeapArkwebJs = ((Selection.of opts).after ctx [result]).isDumpHeapArkwebJs :=
      congrArg Selection.isDumpHeapArkwebJs hturn.selection
    have hmem : opts₁.isDumpHeapMem = ((Selection.of opts).after ctx [result]).isDumpHeapMem :=
      congrArg Selection.isDumpHeapMem hturn.selection
    simp only [Selection.after, Selection.of, List.any_cons, List.any_nil, Bool.or_false] at hflag hmem
    rw [hflag, Bool.or_eq_true, Bool.and_eq_true] at harkweb₁
    -- The flag is old, or was set by this turn, which needs `--mem-heap` before it.
    have hbefore : opts.isDumpHeapMem = true := by
      cases harkweb₁ with
      | inl hold => exact hopts hold
      | inr hnew => exact hturn.heap hnew.1 hnew.2
    rw [hmem, hbefore, Bool.true_or]

/-- What is selected after the loop is what the turns select one after the other. -/
theorem parseOptions_selection (h : parseOptions ctx argv = .ok opts) :
    Selection.of opts = (Selection.of {}).after ctx (getoptResults ctx argv) :=
  foldlM_selection h

end Reads

end HiDumper.Spec
