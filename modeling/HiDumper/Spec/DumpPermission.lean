import HiDumper.Native.DumpImplement

/-!
# Whose memory a command line may dump

In user mode `CheckDumpPermission` lets the memory dumpers at debug applications
only. It runs on the parsed options; what the dumpers read are the options after
validation. Validation changes the pids of one kind of request, `--mem-heap` with
`--arkweb-js`, where it puts the main process in the place of the render process
that was checked. So the options that come out are within the permissions exactly
if that main process would have passed the check as well.

Key results:
* `validateHeapMem_cases`: what validation does to the options
* `cmdParse_stages`: the stages of an accepted command line
* `cmdParse_permitted_iff`: the exact condition
-/

namespace HiDumper.Spec

open HiDumper.Native Checks

/-- The processes that the selected memory dumpers read are debug applications, or
    for `--mem-jsheap` profileable enterprise ones in developer mode. -/
structure Permitted (ctx : CmdContext) (opts : DumperOpts) : Prop where
  smaps : opts.isShowSmaps = true → ctx.uid ≠ hiviewUid →
    ctx.sys.checkAppDebugVersion opts.memPid = true
  jsHeap : opts.isDumpJsHeapMem = true →
    ctx.sys.checkAppDebugVersion opts.dumpJsHeapMemPid = true ∨
      (ctx.sys.checkAppProfileable opts.dumpJsHeapMemPid = true ∧
        ctx.sys.checkAppInhouse opts.dumpJsHeapMemPid = true ∧
        ctx.sys.isDeveloperModeEnabled = true)
  cjHeap : opts.isDumpCjHeapMem = true →
    ctx.sys.checkAppDebugVersion opts.dumpCjHeapMemPid = true
  heap : opts.isDumpHeapMem = true → ctx.sys.checkAppDebugVersion (heapPid opts) = true

/-- If the arguments ask for the script heap of a web render process, the first
    process with the name of its main process is a debug application. -/
def MainIsDebug (ctx : CmdContext) (argv : List String) : Prop :=
  ∀ opts, parseOptions ctx argv = .ok opts →
    opts.isDumpHeapMem = true → opts.isDumpHeapArkwebJs = true →
    ∀ renderName mainName, ctx.sys.getProcessNameByPid (heapPid opts) = some renderName →
      mainProcName renderName = some mainName →
      ctx.sys.checkAppDebugVersion (findMainPid ctx.sys mainName) = true

section Permission

variable {ctx : CmdContext} {opts opts' : DumperOpts}

/-! ## The permission check -/

/-- The JS heap is open to debug versions, and to profileable inhouse applications in developer
    mode. -/
private theorem checkJsHeapPermission_ok {pid : Int} (h : checkJsHeapPermission ctx pid = .ok ()) :
    ctx.sys.checkAppDebugVersion pid = true ∨
      (ctx.sys.checkAppProfileable pid = true ∧ ctx.sys.checkAppInhouse pid = true ∧
        ctx.sys.isDeveloperModeEnabled = true) := by
  unfold checkJsHeapPermission at h
  split at h
  · rename_i hdebug
    exact .inl hdebug
  · dsimp only at h
    split at h
    · exact nomatch h
    · -- Not a debug application: all three conditions of the exception hold.
      rename_i hall
      simp only [Bool.or_eq_true, Bool.not_eq_true', not_or, Bool.not_eq_false] at hall
      exact .inr ⟨hall.1.1, hall.1.2, hall.2⟩

/-- What passes the check of a user mode request is within its permissions. -/
private theorem permitted_of_checkUserPermission (h : checkUserPermission ctx opts = .ok ()) :
    Permitted ctx opts := by
  simp only [checkUserPermission, bind_eq_ok, failIf_eq_ok, checkIf_eq_ok] at h
  obtain ⟨-, hsmaps, -, hjs, -, hcj, -, hheap, -⟩ := h
  constructor
  case smaps =>
    intro hflag huid
    rw [hflag, decide_eq_true huid] at hsmaps
    simpa using hsmaps
  case jsHeap => exact fun hflag => checkJsHeapPermission_ok (hjs hflag)
  case cjHeap =>
    intro hflag
    rw [hflag] at hcj
    simpa using hcj
  case heap =>
    intro hflag
    rw [hflag] at hheap
    simpa using hheap

/-- On a user version the check leaves permitted options only. -/
private theorem permitted_of_checkDumpPermission (huser : ctx.sys.isUserMode = true)
    (h : checkDumpPermission ctx opts = .ok ()) : Permitted ctx opts := by
  unfold checkDumpPermission at h
  split at h
  · exact nomatch h
  · rw [huser] at h
    exact permitted_of_checkUserPermission h

/-! ## Validation -/

/-- Giving an error its status makes nothing succeed. -/
theorem rejectAs_eq_ok {α : Type} {status : DumpStatus} {suffix : String} {x : Except String α}
    {a : α} : rejectAs status suffix x = .ok a ↔ x = .ok a := by
  cases x with
  | error text => exact ⟨fun h => (nomatch h), fun h => (nomatch h)⟩
  | ok b => exact ⟨fun h => congrArg _ (Except.ok.inj h), fun h => congrArg _ (Except.ok.inj h)⟩

/-- Validation puts the main process in the place of a render process. -/
structure MainFor (ctx : CmdContext) (opts opts' : DumperOpts) : Prop where
  isDumpHeapMem : opts.isDumpHeapMem = true
  isDumpHeapArkwebJs : opts.isDumpHeapArkwebJs = true
  found : ∃ renderName mainName,
    ctx.sys.getProcessNameByPid (heapPid opts) = some renderName ∧
    mainProcName renderName = some mainName ∧
    heapPid opts' = findMainPid ctx.sys mainName
  /-- Nothing else changes. -/
  frame : opts' = { opts with
    dumpHeapRenderPid := opts'.dumpHeapRenderPid
    dumpHeapArgPid := opts'.dumpHeapArgPid
    dumpHeapMemPid := opts'.dumpHeapMemPid }

/-- What `CheckArkwebJsParameter` has found when it succeeds. -/
theorem checkArkwebJsParameter_ok (h : checkArkwebJsParameter ctx opts = .ok opts') :
    ∃ renderName mainName, ctx.sys.getProcessNameByPid (heapPid opts) = some renderName ∧
      mainProcName renderName = some mainName ∧ 0 < findMainPid ctx.sys mainName ∧
      opts' = { opts with
        dumpHeapRenderPid := heapPid opts
        dumpHeapArgPid := if opts.dumpHeapArgPid > 0 then findMainPid ctx.sys mainName else 0
        dumpHeapMemPid := if opts.dumpHeapMemPid > 0 then findMainPid ctx.sys mainName else 0 } := by
  unfold checkArkwebJsParameter at h
  split at h
  · exact nomatch h
  dsimp only [validateRenderProcessAndFindMainPid] at h
  split at h
  · exact nomatch h
  rename_i renderName hrender
  split at h
  · exact nomatch h
  rename_i mainName hmain
  split at h
  · exact nomatch h
  rename_i hfound
  exact ⟨renderName, mainName, hrender, hmain, by omega, (Except.ok.inj h).symm⟩

/-- With `--arkweb-js` the pid is replaced by that of the main process. -/
private theorem mainFor_of_checkArkwebJsParameter (hheap : opts.isDumpHeapMem = true)
    (harkweb : opts.isDumpHeapArkwebJs = true)
    (hpid : 0 < opts.dumpHeapMemPid ∨ 0 < opts.dumpHeapArgPid)
    (h : checkArkwebJsParameter ctx opts = .ok opts') : MainFor ctx opts opts' := by
  obtain ⟨renderName, mainName, hrender, hmain, hfound, rfl⟩ := checkArkwebJsParameter_ok h
  refine ⟨hheap, harkweb, ⟨renderName, mainName, hrender, hmain, ?_⟩, rfl⟩
  -- One of the two pids is positive, and it is this one that the dumper reads.
  by_cases harg : 0 < opts.dumpHeapArgPid
  · simp [heapPid, harg, hfound]
  · have hmem : 0 < opts.dumpHeapMemPid := hpid.resolve_right harg
    simp [heapPid, harg, hmem]

/-- What passes `CheckDumpHeapMemParameter` has one pid, and only an `--arkweb-js` changes it. -/
theorem checkDumpHeapMemParameter_ok {argc : Nat}
    (h : checkDumpHeapMemParameter ctx argc opts = .ok opts') :
    ((0 < opts.dumpHeapMemPid ∧ opts.dumpHeapArgPid = 0) ∨
      (opts.dumpHeapMemPid = 0 ∧ 0 < opts.dumpHeapArgPid)) ∧
    ((opts.isDumpHeapArkwebJs = true ∧ checkArkwebJsParameter ctx opts = .ok opts') ∨
      (¬opts.isDumpHeapArkwebJs = true ∧ opts' = opts)) := by
  unfold checkDumpHeapMemParameter at h
  dsimp only at h
  split at h
  · exact nomatch h
  split at h
  · exact nomatch h
  split at h
  · exact nomatch h
  rename_i hvalid
  constructor
  · simpa only [Bool.not_eq_true', Bool.not_eq_false, Bool.or_eq_true, Bool.and_eq_true,
      decide_eq_true_eq] using hvalid
  · split at h
    · rename_i harkweb
      exact .inl ⟨harkweb, h⟩
    · rename_i harkweb
      refine .inr ⟨harkweb, ?_⟩
      split at h
      · obtain ⟨-, -, h⟩ := bind_eq_ok.mp h
        exact (Except.ok.inj h).symm
      · exact (Except.ok.inj h).symm

/-- Validation leaves the options alone or puts a main process into them. -/
theorem validateHeapMem_cases {argc : Nat} (h : validateHeapMem ctx argc opts = .ok opts') :
    (opts' = opts ∧ ¬ (opts.isDumpHeapMem = true ∧ opts.isDumpHeapArkwebJs = true)) ∨
      MainFor ctx opts opts' := by
  unfold validateHeapMem at h
  split at h
  · rename_i hheap
    rw [rejectAs_eq_ok] at h
    obtain ⟨hvalid, hcases⟩ := checkDumpHeapMemParameter_ok h
    cases hcases with
    | inl harkweb =>
      -- The pid is validated right before, so one of the two fields is positive.
      exact .inr (mainFor_of_checkArkwebJsParameter hheap harkweb.1 (by omega) harkweb.2)
    | inr hsame => exact .inl ⟨hsame.2, fun hboth => hsame.1 hboth.2⟩
  · rename_i hheap
    exact .inl ⟨(Except.ok.inj h).symm, fun hboth => hheap hboth.1⟩

/-- The check of the heap options does not touch the path. -/
theorem validateHeapMem_path {argc : Nat} (h : validateHeapMem ctx argc opts = .ok opts') :
    opts'.path = opts.path := by
  cases validateHeapMem_cases h with
  | inl hsame => rw [hsame.1]
  | inr hmain => rw [hmain.frame]

/-! ## The whole command line -/

/-- The stages of an accepted command line, as far as they matter here. -/
theorem cmdParse_stages {argv : List String} (h : cmdParse ctx argv = .ok opts) :
    ∃ parsed valid, parseOptions ctx argv = .ok parsed ∧
      checkDumpPermission ctx parsed = .ok () ∧
      validateHeapMem ctx argv.length parsed = .ok valid ∧
      checkUnableToDumpAll argv.length valid = false ∧
      opts = (if (removeDuplicateStrings valid).isSelectAny then removeDuplicateStrings valid
        else processDumpOptions ctx (removeDuplicateStrings valid)) := by
  simp only [cmdParse, cmdParseWithParameter, cmdParseArgs, validateDumpOptions, bind_eq_ok,
    failIf_eq_ok, checkIf_eq_ok, rejectAs_eq_ok] at h
  -- From the outside in: arguments, `CheckOptions`, then the stages of the parser.
  obtain ⟨-, -, checked, ⟨unchecked, hargs, hcheck⟩, hopts⟩ := h
  obtain ⟨parsed, hparse, -, -, done, hpermission, valid, hvalid, heq⟩ := hargs
  obtain ⟨-, -, -, -, valid', hheap, -, -, -, hall, heq'⟩ := hvalid
  have hall : checkUnableToDumpAll argv.length valid' = false :=
    Bool.eq_false_iff.mpr fun hunable => by cases hall hunable
  split at hcheck
  · rw [← Except.ok.inj hcheck, ← Except.ok.inj heq, ← Except.ok.inj heq'] at hopts
    exact ⟨parsed, valid', hparse, hpermission, hheap, hall, (Except.ok.inj hopts).symm⟩
  · cases hcheck

/-- `ProcessDumpOptions` selects no memory dumper. -/
private theorem processDumpOptions_flags (ctx : CmdContext) (opts : DumperOpts) :
    (processDumpOptions ctx opts).isShowSmaps = opts.isShowSmaps ∧
    (processDumpOptions ctx opts).isDumpJsHeapMem = opts.isDumpJsHeapMem ∧
    (processDumpOptions ctx opts).isDumpCjHeapMem = opts.isDumpCjHeapMem ∧
    (processDumpOptions ctx opts).isDumpHeapMem = opts.isDumpHeapMem := by
  unfold processDumpOptions DumperOpts.addSelectAll
  split
  · exact ⟨rfl, rfl, rfl, rfl⟩
  · dsimp only
    split <;> exact ⟨rfl, rfl, rfl, rfl⟩

/-- A dump of everything is permitted, as it has no pid. -/
private theorem permitted_processDumpOptions (h : opts.isSelectAny = false) :
    Permitted ctx (processDumpOptions ctx opts) := by
  simp only [DumperOpts.isSelectAny, Bool.or_eq_false_iff] at h
  obtain ⟨⟨⟨⟨⟨-, hsmaps⟩, hjs⟩, hcj⟩, hheap⟩, -⟩ := h
  have hnone : ∀ {flag flag' : Bool}, flag' = flag → flag = false → flag' ≠ true := by decide
  obtain ⟨heqSmaps, heqJs, heqCj, heqHeap⟩ := processDumpOptions_flags ctx opts
  constructor
  case smaps => exact fun hflag => absurd hflag (hnone heqSmaps hsmaps)
  case jsHeap => exact fun hflag => absurd hflag (hnone heqJs hjs)
  case cjHeap => exact fun hflag => absurd hflag (hnone heqCj hcj)
  case heap => exact fun hflag => absurd hflag (hnone heqHeap hheap)

/-- Removing duplicates changes nothing that the permission depends on. -/
private theorem permitted_removeDuplicateStrings :
    Permitted ctx (removeDuplicateStrings opts) ↔ Permitted ctx opts :=
  ⟨fun h => ⟨h.smaps, h.jsHeap, h.cjHeap, h.heap⟩, fun h => ⟨h.smaps, h.jsHeap, h.cjHeap, h.heap⟩⟩

/-- Of the options with a main process in them, only this process is in question. -/
theorem MainFor.permitted_iff (h : MainFor ctx opts opts') (hopts : Permitted ctx opts) :
    Permitted ctx opts' ↔ ctx.sys.checkAppDebugVersion (heapPid opts') = true := by
  have hheap : opts'.isDumpHeapMem = true := by rw [h.frame]; exact h.isDumpHeapMem
  refine ⟨fun hopts' => hopts'.heap hheap, fun hmain => ?_⟩
  constructor
  case smaps => rw [h.frame]; exact hopts.smaps
  case jsHeap => rw [h.frame]; exact hopts.jsHeap
  case cjHeap => rw [h.frame]; exact hopts.cjHeap
  case heap => exact fun _ => hmain

/-- Options that select a heap dumper are not empty. -/
private theorem isSelectAny_of_heap (h : opts.isDumpHeapMem = true) :
    (removeDuplicateStrings opts).isSelectAny = true := by
  show opts.isSelectAny = true
  simp only [DumperOpts.isSelectAny, h, Bool.or_true, Bool.true_or]

end Permission

/-- In user mode the options of an accepted command line are within the permissions
    if and only if the main process that `--arkweb-js` leads to, if it is asked for,
    is a debug application. -/
theorem cmdParse_permitted_iff (ctx : CmdContext) (argv : List String) (opts : DumperOpts)
    (huser : ctx.sys.isUserMode = true) (haccepted : cmdParse ctx argv = .ok opts) :
    Permitted ctx opts ↔ MainIsDebug ctx argv := by
  obtain ⟨parsed, valid, hparse, hpermission, hvalid, -, hopts⟩ := cmdParse_stages haccepted
  have hparsed := permitted_of_checkDumpPermission huser hpermission
  cases validateHeapMem_cases hvalid with
  | inl hsame =>
    -- The checked options are the final ones, up to duplicates and defaults.
    obtain ⟨rfl, harkweb⟩ := hsame
    have hleft : Permitted ctx opts := by
      rw [hopts]
      split
      · exact permitted_removeDuplicateStrings.mpr hparsed
      · rename_i hnone
        exact permitted_processDumpOptions (Bool.eq_false_iff.mpr hnone)
    have hright : MainIsDebug ctx argv := by
      intro opts₀ hparse₀ hheap₀ harkweb₀
      obtain rfl := Except.ok.inj (hparse.symm.trans hparse₀)
      exact absurd ⟨hheap₀, harkweb₀⟩ harkweb
    exact ⟨fun _ => hright, fun _ => hleft⟩
  | inr hmain =>
    -- The pid in the final options is that of the process found by name.
    obtain ⟨renderName, mainName, hrender, hname, hpid⟩ := hmain.found
    have hheap : valid.isDumpHeapMem = true := by rw [hmain.frame]; exact hmain.isDumpHeapMem
    rw [hopts, if_pos (isSelectAny_of_heap hheap), permitted_removeDuplicateStrings,
      hmain.permitted_iff hparsed, hpid]
    constructor
    · intro hdebug opts₀ hparse₀ _ _ renderName₀ mainName₀ hrender₀ hname₀
      obtain rfl := Except.ok.inj (hparse.symm.trans hparse₀)
      obtain rfl := Option.some.inj (hrender.symm.trans hrender₀)
      obtain rfl := Option.some.inj (hname.symm.trans hname₀)
      exact hdebug
    · intro hdebug
      exact hdebug parsed hparse hmain.isDumpHeapMem hmain.isDumpHeapArkwebJs renderName mainName
        hrender hname

/-! ## Two render processes -/

/-- A device in user mode with process 100 and its render process 200. The debug
    application `com.example.notes` is the only one installed. -/
def renderDevice (mainCmdline renderCmdline : String) : CmdContext where
  build := ⟨true, true, false⟩
  sys :=
    { strings := .simple
      procNames := some ["100", "200"]
      procExists := fun pid => pid = 100 || pid = 200
      procStatus := fun pid =>
        if pid = 100 then some "Pid:\t100\nPPid:\t1\nUid:\t20010001\t0\nGid:\t20010001\n"
        else if pid = 200 then some "Pid:\t200\nPPid:\t1\nUid:\t20010001\t0\nGid:\t20010001\n"
        else none
      procCmdline := fun pid =>
        if pid = 100 then some mainCmdline else if pid = 200 then some renderCmdline else none
      cpuNames := none
      applicationInfo := fun bundleName =>
        if bundleName = "com.example.notes" then some ⟨"debug", false, "none"⟩ else none
      debuggable := "0"
      developerMode := "" }
  uid := 2000
  pid := 300
  saNameMap := []
  time := "20240101-000000-000"
  stringToUnixMs _ := -1

/-- `hidumper --mem-heap 200 --arkweb-js`. -/
def arkwebCommand : List String := ["hidumper", "--mem-heap", "200", "--arkweb-js"]

/-- A value that comes out at the end was there before the last function. -/
theorem exists_ok_of_map {ε α β : Type} {x : Except ε α} {f : α → β} {b : β}
    (h : x.toOption.map f = some b) : ∃ a, x = .ok a ∧ f a = b := by
  cases x with
  | error _ => exact nomatch h
  | ok a => exact ⟨a, rfl, Option.some.inj h⟩

/-- The device with the processes of the debug application. -/
def notesDevice : CmdContext := renderDevice "com.example.notes" "com.example.notes:render"

/-- The process that such a command dumps: the main process. -/
private theorem heapPid_arkwebCommand :
    (cmdParse notesDevice arkwebCommand).toOption.map heapPid = some 100 ∧
      (parseOptions notesDevice arkwebCommand).toOption.map heapPid = some 200 := by
  decide +kernel

/-- The render process of a debug application leads to the application itself. -/
theorem cmdParse_permitted_iff_notes :
    ∃ opts, cmdParse notesDevice arkwebCommand = .ok opts ∧ heapPid opts = 100 ∧
      Permitted notesDevice opts := by
  obtain ⟨opts, haccepted, hpid⟩ := exists_ok_of_map heapPid_arkwebCommand.1
  refine ⟨opts, haccepted, hpid, ?_⟩
  rw [cmdParse_permitted_iff notesDevice arkwebCommand opts rfl haccepted]
  intro parsed hparse _ _ renderName mainName hrender hmain
  obtain ⟨parsed', hparse', hpid'⟩ := exists_ok_of_map heapPid_arkwebCommand.2
  obtain rfl := Except.ok.inj (hparse.symm.trans hparse')
  have hname : (notesDevice.sys.getProcessNameByPid 200).bind mainProcName =
      some "com.example.notes" := by decide +kernel
  rw [← hpid', hrender, Option.bind_some, hmain, Option.some.injEq] at hname
  rw [hname]
  decide +kernel

/-- A device on which a process of the debug application calls itself the render
    process of a system service. -/
def serviceDevice : CmdContext :=
  renderDevice "/system/bin/foundation" "com.example.notes:/bin/foundation:render"

/-- The check sees the bundle name before the first colon, the search the name after
    the last slash: the command is accepted, and dumps the service. -/
theorem cmdParse_dumps_service :
    ¬ ∀ opts, serviceDevice.sys.isUserMode = true → cmdParse serviceDevice arkwebCommand = .ok opts →
      Permitted serviceDevice opts := by
  intro hpermitted
  have hrun : ((cmdParse serviceDevice arkwebCommand).toOption.map fun opts =>
      (opts.isDumpHeapMem, heapPid opts)) = some (true, 100) := by decide +kernel
  obtain ⟨opts, haccepted, hopts⟩ := exists_ok_of_map hrun
  obtain ⟨hflag, hpid⟩ := Prod.mk.inj hopts
  have hdebug := (hpermitted opts rfl haccepted).heap hflag
  rw [hpid] at hdebug
  have hrelease : serviceDevice.sys.checkAppDebugVersion 100 = false := by decide +kernel
  exact nomatch hrelease.symm.trans hdebug

end HiDumper.Spec
