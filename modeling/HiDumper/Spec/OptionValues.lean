import HiDumper.Spec.OptionRoutes

/-!
# Values of options

Where the routes of the parser reach what is written for a field (`OptionRoutes`), the field has
the integer written last, after all checks, wherever the option stands and whatever other
options surround it. The one exception is made on purpose: with `--arkweb-js` the pid of a
render process gives way to that of its main process.

## Key results

- `validateHeapMem_values`: what validation makes of the values
- `cmdParse_value`: the value of a field on an accepted command line
-/

namespace HiDumper.Spec

open HiDumper.Native Checks

/-- There is an `--arkweb-js` on the command line. -/
def asksArkweb (ctx : CmdContext) (argv : List String) : Bool :=
  ctx.build.pluginEnable && (getoptResults ctx argv).any (isLong "arkweb-js")

/-- The main process of a render process. -/
def mainPid (sys : System) (renderPid : Int) : Int :=
  match (sys.getProcessNameByPid renderPid).bind mainProcName with
  | some name => findMainPid sys name
  | none => -1

/-! ## Validation -/

section Validation

variable {ctx : CmdContext} {argv : List String} {opts opts' : DumperOpts}

/-- With `--arkweb-js` the pid of the heap dump becomes that of the main process. -/
private theorem checkArkwebJsParameter_heapPid
    (hvalid : (0 < opts.dumpHeapMemPid ∧ opts.dumpHeapArgPid = 0) ∨
      (opts.dumpHeapMemPid = 0 ∧ 0 < opts.dumpHeapArgPid))
    (h : checkArkwebJsParameter ctx opts = .ok opts') :
    opts'.dumpHeapMemPid =
      if 0 < opts.dumpHeapMemPid then mainPid ctx.sys opts.dumpHeapMemPid
      else opts.dumpHeapMemPid := by
  obtain ⟨renderName, mainName, hrender, hmain, -, rfl⟩ := checkArkwebJsParameter_ok h
  show (if opts.dumpHeapMemPid > 0 then findMainPid ctx.sys mainName else 0) = _
  split
  · -- The only pid is the one given to `--mem-heap`, so it is the one looked up.
    rename_i hpos
    have hpid : heapPid opts = opts.dumpHeapMemPid := by
      unfold heapPid
      rw [if_neg (by omega)]
    rw [hpid] at hrender
    simp [mainPid, hrender, hmain]
  · omega

/-- Validation keeps all values, but puts a main process in the place of a render process. -/
theorem validateHeapMem_values {argc : Nat} (h : validateHeapMem ctx argc opts = .ok opts')
    (field : ValueField) :
    field.get opts' =
      if field = .dumpHeapMemPid ∧ (opts.isDumpHeapMem = true ∧ opts.isDumpHeapArkwebJs = true) ∧
          0 < opts.dumpHeapMemPid then mainPid ctx.sys opts.dumpHeapMemPid
      else field.get opts := by
  cases validateHeapMem_cases h with
  | inl hsame =>
    obtain ⟨rfl, hnot⟩ := hsame
    rw [if_neg fun hall => hnot hall.2.1]
  | inr hmain =>
    by_cases hfield : field = .dumpHeapMemPid
    · subst hfield
      unfold validateHeapMem at h
      rw [if_pos hmain.isDumpHeapMem, rejectAs_eq_ok] at h
      obtain ⟨hvalid, ⟨-, hcheck⟩ | ⟨hnot, -⟩⟩ := checkDumpHeapMemParameter_ok h
      case inr => exact absurd hmain.isDumpHeapArkwebJs hnot
      have hpid := checkArkwebJsParameter_heapPid hvalid hcheck
      simpa [ValueField.get, hmain.isDumpHeapMem, hmain.isDumpHeapArkwebJs] using hpid
    · rw [if_neg fun hall => hfield hall.1, hmain.frame]
      cases field <;> first | rfl | exact absurd rfl hfield

end Validation

/-! ## Command lines that select nothing -/

/-- Short options give no long one. -/
private theorem isLong_shortResults {name : String} {optstring : List Char} {optind : Nat}
    {next : Option String} (chars : List Char) {result : GetoptResult}
    (h : result ∈ (GetoptLong.shortResults optstring optind next chars).1) :
    isLong name result = false := by
  induction chars with
  | nil => cases h
  | cons c rest ih =>
    unfold GetoptLong.shortResults at h
    dsimp only at h
    split at h
    · simp only [List.mem_singleton] at h
      rw [h]
      rfl
    -- A flag is followed by the rest of its element; the other cases end it.
    · simp only [List.mem_cons] at h
      cases h with
      | inl heq => rw [heq]; rfl
      | inr hrest => exact ih hrest
    · split at h
      · simp only [List.mem_singleton] at h
        rw [h]
        rfl
      · split at h
        all_goals
          simp only [List.mem_singleton] at h
          rw [h]
          rfl

/-- The option `--zip` takes no value. -/
private theorem occurrence_of_zip {result : GetoptResult} (h : isLong "zip" result = true) :
    occurrence result.code = none := by
  obtain ⟨code, optind⟩ := result
  cases code with
  | long name optarg =>
    have hname : name = "zip" := of_decide_eq_true h
    rw [hname]
    rfl
  | short | plain | unknown => exact absurd h Bool.false_ne_true

/-- If the only element is a `--zip`, no value is written. -/
private theorem written_of_zip {longOptions : List LongOption} {optstring : List Char}
    {optind : Nat}
    {arg : String}
    (h : (getoptLong longOptions optstring optind [arg]).any (isLong "zip") = true) :
    written (getoptLong longOptions optstring optind [arg]) = [] := by
  have hone : getoptLong longOptions optstring optind [arg] =
      (GetoptLong.elementResults longOptions optstring optind none arg).1 := by
    simp only [getoptLong, List.head?_nil]
    split
    · simp [getoptLong]
    · rename_i heq
      cases heq
    · rfl
  rw [hone] at h ⊢
  obtain ⟨result, hmem, hzip⟩ := List.any_eq_true.mp h
  unfold GetoptLong.elementResults at hmem ⊢
  split at hmem
  · cases hmem
  · -- A long option makes one result.
    dsimp only at hmem ⊢
    rw [List.mem_singleton] at hmem
    subst hmem
    simp [written, occurrence_of_zip hzip]
  · exact absurd hzip (by simp [isLong_shortResults _ hmem])
  · rw [List.mem_singleton] at hmem
    subst hmem
    exact absurd hzip Bool.false_ne_true

/-- Where nothing is selected, no value is written: the arguments are empty or a `--zip`. -/
private theorem written_of_unselected {ctx : CmdContext} {argv : List String} {parsed : DumperOpts}
    (hparse : parseOptions ctx argv = .ok parsed)
    (h : argv.length = 1 ∨ (argv.length = 2 ∧ parsed.isDumpZip = true)) :
    written (getoptResults ctx argv) = [] := by
  cases h with
  | inl hone =>
    obtain ⟨program, rfl⟩ := List.length_eq_one_iff.mp hone
    rfl
  | inr htwo =>
    obtain ⟨hlength, hzip⟩ := htwo
    obtain ⟨program, arg, rfl⟩ := List.length_eq_two.mp hlength
    apply written_of_zip
    by_contra hnone
    have hpath : parsed.path = if (getoptResults ctx [program, arg]).any (isLong "zip") then
        zipFolder ++ ctx.time ++ ".zip" else "" :=
      congrArg Selection.path (parseOptions_selection hparse)
    replace hpath := hpath.trans (if_neg hnone)
    rw [DumperOpts.isDumpZip, hpath] at hzip
    exact absurd hzip (by decide)

/-! ## The value of a field -/

/-- After the loop the two flags that validation asks for say whether there is an
    `--arkweb-js`. -/
private theorem parseOptions_arkweb {ctx : CmdContext} {argv : List String} {parsed : DumperOpts}
    (hparse : parseOptions ctx argv = .ok parsed) :
    (parsed.isDumpHeapMem = true ∧ parsed.isDumpHeapArkwebJs = true) ↔
      asksArkweb ctx argv = true := by
  have hflag : parsed.isDumpHeapArkwebJs = asksArkweb ctx argv := by
    have hselection := congrArg Selection.isDumpHeapArkwebJs (parseOptions_selection hparse)
    simpa only [asksArkweb, Selection.after, Selection.of, Bool.false_or] using hselection
  rw [← hflag]
  refine ⟨fun h => h.2, fun h => ⟨foldlM_heap hparse (fun hnone => ?_) h, h⟩⟩
  cases hnone

/-- On every accepted command line on which the routes reach its values, a field has the integer
    of the last value written for it. Only the pid of a render process given to `--mem-heap` is
    replaced, by that of the main process, when there is an `--arkweb-js`. -/
theorem cmdParse_value (ctx : CmdContext) (hstrings : LawfulStrings ctx.sys.strings)
    (argv : List String) (opts : DumperOpts) (haccepted : cmdParse ctx argv = .ok opts)
    (field : ValueField) (text : String)
    (hwritten : lastWritten (getoptResults ctx argv) field = some text)
    (hreach : RoutesReach ctx argv field) :
    ∃ value, ctx.sys.strings.strToInt text = some value ∧
      field.get opts =
        if field = .dumpHeapMemPid ∧ asksArkweb ctx argv = true ∧ 0 < value then
          mainPid ctx.sys value
        else value := by
  obtain ⟨parsed, valid, hparse, -, hvalid, hall, hopts⟩ := cmdParse_stages haccepted
  have hparsed := foldlM_reads hparse field
  rw [show getoptLong _ _ _ _ = getoptResults ctx argv from rfl,
    lastRead_eq_lastWritten hstrings hparse hreach, hwritten] at hparsed
  refine ⟨field.get parsed, hparsed, ?_⟩
  by_cases hselect : (removeDuplicateStrings valid).isSelectAny = true
  · have hvalues := validateHeapMem_values hvalid field
    rw [hopts, if_pos hselect, show field.get (removeDuplicateStrings valid) = field.get valid by
      cases field <;> rfl, hvalues]
    by_cases hfield : field = .dumpHeapMemPid
    · subst hfield
      simp only [parseOptions_arkweb hparse, ValueField.get]
    · simp [hfield]
  · -- `ProcessDumpOptions` sets pids of its own, but there is nothing written then.
    have hselect : valid.isSelectAny = false := Bool.eq_false_iff.mpr hselect
    simp only [checkUnableToDumpAll, hselect, Bool.not_false, Bool.true_and, Bool.not_eq_false',
      Bool.or_eq_true, Bool.and_eq_true, decide_eq_true_eq] at hall
    have hzip : valid.isDumpZip = parsed.isDumpZip :=
      congrArg (startWith · "/") (validateHeapMem_path hvalid)
    rw [hzip] at hall
    rw [lastWritten, written_of_unselected hparse hall] at hwritten
    cases hwritten

/-- `hidumper --mem 100 -p 200 --mem 200`. -/
def repeatedCommand : List String := ["hidumper", "--mem", "100", "-p", "200", "--mem", "200"]

/-- Every value is an element of its own, behind the full name of its option. -/
private theorem repeatedCommand_reach : RoutesReach notesDevice repeatedCommand .memPid := by
  have hresults : getoptResults notesDevice repeatedCommand =
      [⟨.long "mem" none, 2⟩, ⟨.plain "100", 3⟩, ⟨.short 'p' none, 4⟩, ⟨.plain "200", 5⟩,
        ⟨.long "mem" none, 6⟩, ⟨.plain "200", 7⟩] := by
    decide +kernel
  refine ⟨fun name hname => ?_, fun result hresult => ?_⟩
  · obtain rfl := Option.some.inj hname
    decide
  · rw [hresults] at hresult
    simp only [List.mem_cons, List.not_mem_nil, or_false] at hresult
    rcases hresult with rfl | rfl | rfl | rfl | rfl | rfl
    all_goals exact ⟨fun _ text h => absurd h (by simp [occurrence, fieldOfLong, fieldOfShort]),
      fun _ h => absurd h (by decide), .inl rfl⟩

/-- A pid given twice: the later one counts. -/
theorem cmdParse_value_repeated :
    ∃ opts, cmdParse notesDevice repeatedCommand = .ok opts ∧ opts.memPid = 200 := by
  have hrun : (cmdParse notesDevice repeatedCommand).toOption.map (fun _ => ()) = some () := by
    decide +kernel
  obtain ⟨opts, haccepted, -⟩ := exists_ok_of_map hrun
  refine ⟨opts, haccepted, ?_⟩
  have hwritten : lastWritten (getoptResults notesDevice repeatedCommand) .memPid = some "200" := by
    decide +kernel
  obtain ⟨value, hvalue, hfield⟩ := cmdParse_value notesDevice lawfulStrings_simple repeatedCommand
    opts haccepted .memPid "200" hwritten repeatedCommand_reach
  have hnumber : notesDevice.sys.strings.strToInt "200" = some 200 := by decide +kernel
  rw [hnumber, Option.some.injEq] at hvalue
  simpa [ValueField.get, ← hvalue] using hfield

/-- `hidumper --net 100 --mem-smaps 200`. -/
def lateSmapsCommand : List String := ["hidumper", "--net", "100", "--mem-smaps", "200"]

/-- The value of a field on a command line, with the last text written for it. -/
def valueAndText (ctx : CmdContext) (argv : List String) (field : ValueField) :
    Option (Int × Option String) :=
  (cmdParse ctx argv).toOption.map fun opts =>
    (field.get opts, lastWritten (getoptResults ctx argv) field)

/-- `--mem-heap 200 --arkweb-js` leaves the main process, and `--mem-smaps 200` after
    another option the value of that option. -/
theorem cmdParse_value_replaced :
    (∃ opts, cmdParse notesDevice arkwebCommand = .ok opts ∧
      lastWritten (getoptResults notesDevice arkwebCommand) .dumpHeapMemPid = some "200" ∧
      notesDevice.sys.strings.strToInt "200" = some 200 ∧ opts.dumpHeapMemPid = 100) ∧
    ∃ opts, cmdParse notesDevice lateSmapsCommand = .ok opts ∧
      lastWritten (getoptResults notesDevice lateSmapsCommand) .memPid = some "200" ∧
      opts.memPid = 100 := by
  have harkweb : valueAndText notesDevice arkwebCommand .dumpHeapMemPid = some (100, some "200") := by
    decide +kernel
  have hsmaps : valueAndText notesDevice lateSmapsCommand .memPid = some (100, some "200") := by
    decide +kernel
  obtain ⟨opts, haccepted, hopts⟩ := exists_ok_of_map harkweb
  obtain ⟨opts', haccepted', hopts'⟩ := exists_ok_of_map hsmaps
  obtain ⟨hvalue, hwritten⟩ := Prod.mk.inj hopts
  obtain ⟨hvalue', hwritten'⟩ := Prod.mk.inj hopts'
  exact ⟨⟨opts, haccepted, hwritten, by decide +kernel, hvalue⟩, opts', haccepted', hwritten', hvalue'⟩

end HiDumper.Spec
