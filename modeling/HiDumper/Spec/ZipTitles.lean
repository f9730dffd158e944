import HiDumper.ForStd.Runs
import HiDumper.Native.DumpMain
import HiDumper.Spec.OptionReads

/-!
# The path announced to a --zip client

A `--zip` request writes its archive to the path in its own options, but announces the
path in the member `path_`, which every other request with a `--zip` writes as well. The
two are the same as long as no request gets to a `--zip` of another time while one is
between `InitHandle` and `SetTitle`.

## Key results

- `cmdParse_path`: an accepted `--zip` request leaves its own path in `path_`
- `step_waitingInv`: under the condition `path_` stays the path of every waiting request
- `run_announces_own`: every title announces the archive of its own request
-/

namespace HiDumper.Spec

open HiDumper.Native DumpCalls Checks

/-- The parser gets to a `--zip`, whether it accepts the arguments in the end or not. -/
def ReachesZip (ctx : CmdContext) (argv : List String) : Prop :=
  checkArgs argv = true ∧
    ∃ before zip after opts, getoptResults ctx argv = before ++ zip :: after ∧ isLong "zip" zip = true ∧
      before.foldlM (parseOption ctx argv) {} = .ok opts

/-- A `--zip` request is between `InitHandle` and `SetTitle`, with this path. -/
def Waiting (s : DumpCalls) (thread : Nat) (path : String) : Prop :=
  ∃ build opts configs, s.calls.lookup thread = some (.handled build opts configs) ∧
    opts.isDumpZip = true ∧ opts.path = path

/-- A request that gets to a `--zip` does so at the time of all requests that wait. -/
def KeepsWaiting (s : DumpCalls) : DumpCalls.Action → Prop
  | .initHandle _ ctx argv =>
    ReachesZip ctx argv → ∀ other path, Waiting s other path →
      path = zipFolder ++ ctx.time ++ ".zip"
  | _ => True

/-- What a request has been told names the file in its own options, and this is the file
    that its archive goes to. -/
def OwnTitle : MainPhase → Prop
  | .handled _ _ _ => True
  | .titled opts _ title => opts.isDumpZip = true → title = resultTitle opts.path
  | .done opts title archive => opts.isDumpZip = true →
    (title = resultTitle opts.path ∨ title = failedTitle) ∧
      ∀ file, archive = some file → file = opts.path

/-! ## The path after parsing -/

section Path

variable {ctx : CmdContext} {argv : List String} {opts opts' : DumperOpts}

/-- A turn sets the path for `--zip` only. -/
private theorem setPath_eq (result : GetoptResult) (path : String) :
    setPath ctx result path =
      if isLong "zip" result then zipFolder ++ ctx.time ++ ".zip" else path := by
  obtain ⟨code, optind⟩ := result
  cases code with
  | long name optarg => by_cases hname : name = "zip" <;> simp [setPath, isLong, hname]
  | short | plain | unknown => rfl

/-- A loop that ends well leaves the path of a `--zip`, if it met one. -/
private theorem pathAfterLoop_of_ok {results : List GetoptResult} {path : String}
    (h : results.foldlM (parseOption ctx argv) opts = .ok opts') :
    pathAfterLoop ctx argv results opts path =
      if results.any (isLong "zip") then zipFolder ++ ctx.time ++ ".zip" else path := by
  induction results generalizing opts path with
  | nil => rfl
  | cons result results ih =>
    rw [List.foldlM_cons] at h
    obtain ⟨opts₁, hfirst, hrest⟩ := bind_eq_ok.mp h
    simp only [pathAfterLoop, hfirst, ih hrest, setPath_eq, List.any_cons]
    by_cases hzip : isLong "zip" result = true <;> simp [hzip]

/-- The loop leaves `path_` alone, or gets to a `--zip`. -/
private theorem pathAfterLoop_cases (results : List GetoptResult) (opts : DumperOpts)
    (path : String) :
    pathAfterLoop ctx argv results opts path = path ∨
      pathAfterLoop ctx argv results opts path = zipFolder ++ ctx.time ++ ".zip" ∧
        ∃ before zip after opts', results = before ++ zip :: after ∧ isLong "zip" zip = true ∧
          before.foldlM (parseOption ctx argv) opts = .ok opts' := by
  induction results generalizing opts path with
  | nil => exact .inl rfl
  | cons result results ih =>
    unfold pathAfterLoop
    cases hfirst : parseOption ctx argv opts result with
    | error rejection => exact .inl rfl
    | ok opts₁ =>
      dsimp only
      cases ih opts₁ (setPath ctx result path) with
      | inl hsame =>
        -- Nothing after this turn writes it: what counts is the turn itself.
        rw [hsame, setPath_eq]
        cases hzip : isLong "zip" result with
        | false => exact .inl rfl
        | true => exact .inr ⟨rfl, [], result, results, opts, rfl, hzip, rfl⟩
      | inr hlater =>
        obtain ⟨heq, before, zip, after, opts₂, hresults, hzip, hbefore⟩ := hlater
        refine .inr ⟨heq, result :: before, zip, after, opts₂, by rw [hresults]; rfl, hzip, ?_⟩
        rw [List.foldlM_cons, hfirst]
        exact hbefore

/-- After parsing the path is the old one or the one of this call. -/
private theorem pathAfterCmdParse_cases (ctx : CmdContext) (argv : List String) (path : String) :
    pathAfterCmdParse ctx argv path = path ∨
      pathAfterCmdParse ctx argv path = zipFolder ++ ctx.time ++ ".zip" ∧ ReachesZip ctx argv := by
  unfold pathAfterCmdParse
  split
  · rename_i hargs
    cases pathAfterLoop_cases (getoptResults ctx argv) {} path with
    | inl hsame => exact .inl hsame
    | inr hzip => exact .inr ⟨hzip.1, hargs, hzip.2⟩
  · exact .inl rfl

/-- The default options leave the path. -/
private theorem processDumpOptions_path (ctx : CmdContext) (opts : DumperOpts) :
    (processDumpOptions ctx opts).path = opts.path := by
  unfold processDumpOptions DumperOpts.addSelectAll
  split
  · rfl
  · dsimp only
    split <;> rfl

/-- The path of accepted options is that of a `--zip`, if there is one. -/
private theorem path_of_cmdParse (h : cmdParse ctx argv = .ok opts) :
    opts.path =
      if (getoptResults ctx argv).any (isLong "zip") then zipFolder ++ ctx.time ++ ".zip" else "" := by
  obtain ⟨parsed, valid, hparse, -, hvalid, -, hopts⟩ := cmdParse_stages h
  have hparsed : opts.path = parsed.path := by
    have hpath : valid.path = parsed.path := validateHeapMem_path hvalid
    rw [hopts]
    split
    · exact hpath
    · rw [processDumpOptions_path]
      exact hpath
  rw [hparsed]
  exact congrArg Selection.path (parseOptions_selection hparse)

/-- An accepted `--zip` request leaves its own path in `path_`. -/
theorem cmdParse_path (h : cmdParse ctx argv = .ok opts) (hzip : opts.isDumpZip = true)
    (path : String) :
    pathAfterCmdParse ctx argv path = opts.path ∧
      opts.path = zipFolder ++ ctx.time ++ ".zip" := by
  have hpath := path_of_cmdParse h
  have hany : (getoptResults ctx argv).any (isLong "zip") = true := by
    by_contra hnone
    rw [if_neg hnone] at hpath
    rw [DumperOpts.isDumpZip, hpath] at hzip
    exact absurd hzip (by decide)
  rw [if_pos hany] at hpath
  refine ⟨?_, hpath⟩
  obtain ⟨parsed, -, hparse, -⟩ := cmdParse_stages h
  have hargs : checkArgs argv = true := by
    simp only [cmdParse, bind_eq_ok, failIf_eq_ok, Bool.not_eq_false'] at h
    exact h.choose_spec.1
  have hloop := @pathAfterLoop_of_ok ctx argv {} parsed (getoptResults ctx argv) path hparse
  rw [if_pos hany] at hloop
  rw [hpath, pathAfterCmdParse, if_pos hargs]
  exact hloop

end Path

/-! ## Steps -/

/-- Every waiting request finds its path in `path_`, and every request that has been
    told something was told about its own archive. -/
structure WaitingInv (s : DumpCalls) : Prop where
  waiting : ∀ thread path, Waiting s thread path → s.path = path
  told : ∀ thread phase, s.calls.lookup thread = some phase → OwnTitle phase

section Steps

variable {s : DumpCalls} {thread other : Nat} {phase : MainPhase} {path file : String}

/-- The calls after one thread moved. -/
private theorem waiting_insert_of_ne (h : other ≠ thread)
    (hwaiting : Waiting ⟨path, s.calls.insert thread phase⟩ other file) : Waiting s other file := by
  obtain ⟨build, opts, configs, hlookup, hopts⟩ := hwaiting
  rw [AList.lookup_insert_ne h] at hlookup
  exact ⟨build, opts, configs, hlookup, hopts⟩

/-- Who waits after a call has returned was waiting before. -/
private theorem waiting_of_erase (hwaiting : Waiting ⟨path, s.calls.erase thread⟩ other file) :
    Waiting s other file := by
  obtain ⟨build, opts, configs, hlookup, hopts⟩ := hwaiting
  by_cases hother : other = thread
  · rw [hother, AList.lookup_erase] at hlookup
    exact nomatch hlookup
  · rw [AList.lookup_erase_ne hother] at hlookup
    exact ⟨build, opts, configs, hlookup, hopts⟩

/-- A call that is told its own file leaves the others told theirs. -/
private theorem told_insert (h : WaitingInv s) (hphase : OwnTitle phase) (other : Nat)
    (phase' : MainPhase)
    (hlookup : (s.calls.insert thread phase).lookup other = some phase') : OwnTitle phase' := by
  by_cases hother : other = thread
  · rw [hother, AList.lookup_insert, Option.some.injEq] at hlookup
    exact hlookup ▸ hphase
  · rw [AList.lookup_insert_ne hother] at hlookup
    exact h.told other phase' hlookup

private theorem told_erase (h : WaitingInv s) (other : Nat) (phase' : MainPhase)
    (hlookup : (s.calls.erase thread).lookup other = some phase') : OwnTitle phase' := by
  by_cases hother : other = thread
  · rw [hother, AList.lookup_erase] at hlookup
    exact nomatch hlookup
  · rw [AList.lookup_erase_ne hother] at hlookup
    exact h.told other phase' hlookup

/-- A step that does not write `path_` and puts no request between `InitHandle` and
    `SetTitle`. -/
theorem WaitingInv.insert (h : WaitingInv s) (hphase : OwnTitle phase)
    (hnot : ∀ build opts configs, phase ≠ .handled build opts configs) :
    WaitingInv { s with calls := s.calls.insert thread phase } := by
  refine ⟨fun other file hwaiting => ?_, told_insert h hphase⟩
  by_cases hother : other = thread
  · obtain ⟨build, opts, configs, hlookup, -⟩ := hwaiting
    rw [hother, AList.lookup_insert, Option.some.injEq] at hlookup
    exact absurd hlookup (hnot build opts configs)
  · exact h.waiting other file (waiting_insert_of_ne hother hwaiting)

/-- A call that has returned waits no longer. -/
theorem WaitingInv.erase (h : WaitingInv s) :
    WaitingInv { s with calls := s.calls.erase thread } :=
  ⟨fun other file hwaiting => h.waiting other file (waiting_of_erase hwaiting), told_erase h⟩

/-- Parsing leaves the path of those who wait, under the condition. -/
private theorem waiting_pathAfterCmdParse {ctx : CmdContext} {argv : List String} (h : WaitingInv s)
    (hok : KeepsWaiting s (.initHandle thread ctx argv)) (hwaiting : Waiting s other file) :
    pathAfterCmdParse ctx argv s.path = file := by
  cases pathAfterCmdParse_cases ctx argv s.path with
  | inl hsame => rw [hsame, h.waiting other file hwaiting]
  | inr hzip => rw [hzip.1, hok hzip.2 other file hwaiting]

end Steps

/-- Step lemma. -/
theorem step_waitingInv (s : DumpCalls) (a : DumpCalls.Action) (s' : DumpCalls)
    (h : WaitingInv s) (hok : KeepsWaiting s a) (hstep : s.step a = some s') : WaitingInv s' := by
  cases a with
  | initHandle thread ctx argv =>
    simp only [step] at hstep
    split at hstep
    · split at hstep
      · rw [← Option.some.inj hstep]
        exact ⟨fun other file hwaiting =>
          waiting_pathAfterCmdParse h hok (waiting_of_erase hwaiting), told_erase h⟩
      · rename_i opts haccepted
        rw [← Option.some.inj hstep]
        -- The path is set for everybody, so all requests that wait are looked at.
        refine ⟨fun other file hwaiting => ?_, told_insert h trivial⟩
        by_cases hother : other = thread
        · -- The request that was parsed just now.
          obtain ⟨build, opts', configs, hlookup, hzip, hfile⟩ := hwaiting
          rw [hother, AList.lookup_insert, Option.some.injEq, MainPhase.handled.injEq] at hlookup
          obtain ⟨-, rfl, -⟩ := hlookup
          rw [(cmdParse_path haccepted hzip s.path).1, hfile]
        · exact waiting_pathAfterCmdParse h hok (waiting_insert_of_ne hother hwaiting)
    · exact nomatch hstep
  | setTitle thread =>
    simp only [step] at hstep
    split at hstep
    · rename_i build opts configs hlookup
      split at hstep
      · rw [← Option.some.inj hstep]
        exact h.erase
      · rw [← Option.some.inj hstep]
        -- Now the title is made, from the path that there is by now.
        refine h.insert (fun hzip => ?_) fun _ _ _ => nofun
        rw [if_pos hzip, h.waiting thread opts.path ⟨build, opts, configs, hlookup, hzip, rfl⟩]
    · exact nomatch hstep
  | dumpDatas thread output =>
    simp only [step] at hstep
    split at hstep
    · rename_i opts executors title hlookup
      split at hstep
      · exact nomatch hstep
      · rw [← Option.some.inj hstep]
        refine h.insert (fun hzip => ?_) fun _ _ _ => nofun
        have htitle : title = resultTitle opts.path := h.told thread _ hlookup hzip
        constructor
        · split
          · exact .inr rfl
          · exact .inl htitle
        · intro file hfile
          split at hfile
          · exact (Option.some.inj hfile).symm
          · exact nomatch hfile
    · exact nomatch hstep

/-- Along every interleaving of calls that meets the condition, every title names the
    file in the options of its own request, and no archive goes elsewhere. -/
theorem run_announces_own (actions : List DumpCalls.Action) (s : DumpCalls)
    (hok : Runs.AllSteps DumpCalls.step KeepsWaiting {} actions)
    (hrun : Runs.run DumpCalls.step {} actions = some s) (thread : Nat) (phase : MainPhase)
    (hphase : s.calls.lookup thread = some phase) : OwnTitle phase := by
  have hinit : WaitingInv {} := by
    constructor
    · intro thread path hwaiting
      obtain ⟨build, opts, configs, hlookup, -⟩ := hwaiting
      simp at hlookup
    · intro thread phase hlookup
      simp at hlookup
  exact (Runs.run_invariant step_waitingInv hinit hok hrun).told thread phase hphase

/-! ## Two requests -/

/-- `hidumper -lc --zip`. -/
def zipCommand : List String := ["hidumper", "-lc", "--zip"]

/-- A request of that command at a given time. -/
def zipRequest (thread : Nat) (time : String) : DumpCalls.Action :=
  .initHandle thread { notesDevice with time := time } zipCommand

/-- The path in the options of a request and the title it was given last. -/
def pathAndTitle : MainPhase → Option (String × String)
  | .handled _ _ _ => none
  | .titled opts _ title | .done opts title _ => some (opts.path, title)

/-- A request by itself. -/
def aloneRun : List DumpCalls.Action :=
  [zipRequest 0 "20240101-000000-000", .setTitle 0, .dumpDatas 0 .written]

/-- A single call announces its own file. -/
theorem run_announces_own_alone :
    ∃ s phase, Runs.run DumpCalls.step {} aloneRun = some s ∧ s.calls.lookup 0 = some phase ∧
      OwnTitle phase ∧
      pathAndTitle phase = some ("/data/log/hidumper/20240101-000000-000.zip",
        ",The result is:/data/log/hidumper/20240101-000000-000.zip") := by
  have hrun : ((Runs.run DumpCalls.step {} aloneRun).bind (·.calls.lookup 0)).bind pathAndTitle =
      some ("/data/log/hidumper/20240101-000000-000.zip",
        ",The result is:/data/log/hidumper/20240101-000000-000.zip") := by decide +kernel
  obtain ⟨phase, hphase, htitle⟩ := Option.bind_eq_some_iff.mp hrun
  obtain ⟨s, hs, hlookup⟩ := Option.bind_eq_some_iff.mp hphase
  have hok : Runs.AllSteps DumpCalls.step KeepsWaiting {} aloneRun := by
    refine ⟨fun _ other path hwaiting => ?_, fun s₁ _ => ?_⟩
    · -- Nobody waits at the beginning.
      obtain ⟨build, opts, configs, hlookup, -⟩ := hwaiting
      simp at hlookup
    · exact ⟨trivial, fun s₂ _ => ⟨trivial, fun _ _ => trivial⟩⟩
  exact ⟨s, phase, hs, hlookup, run_announces_own aloneRun s hok hs 0 phase hlookup, htitle⟩

/-- A second request is parsed, one millisecond later, before the first gets its title. -/
def overtakenRun : List DumpCalls.Action :=
  [zipRequest 0 "20240101-000000-000", zipRequest 1 "20240101-000000-001", .setTitle 0,
    .dumpDatas 0 .written]

/-- The first request is told the path of the second. -/
theorem run_announces_other :
    ∃ s phase, Runs.run DumpCalls.step {} overtakenRun = some s ∧ s.calls.lookup 0 = some phase ∧
      ¬ OwnTitle phase ∧
      pathAndTitle phase = some ("/data/log/hidumper/20240101-000000-000.zip",
        ",The result is:/data/log/hidumper/20240101-000000-001.zip") := by
  have hrun : ((Runs.run DumpCalls.step {} overtakenRun).bind (·.calls.lookup 0)).bind
        pathAndTitle =
      some ("/data/log/hidumper/20240101-000000-000.zip",
        ",The result is:/data/log/hidumper/20240101-000000-001.zip") := by decide +kernel
  obtain ⟨phase, hphase, htitle⟩ := Option.bind_eq_some_iff.mp hrun
  obtain ⟨s, hs, hlookup⟩ := Option.bind_eq_some_iff.mp hphase
  refine ⟨s, phase, hs, hlookup, fun hown => ?_, htitle⟩
  have hzip : ∀ opts : DumperOpts, opts.path = "/data/log/hidumper/20240101-000000-000.zip" →
      opts.isDumpZip = true := by
    intro opts hpath
    rw [DumperOpts.isDumpZip, hpath]
    decide
  -- In each phase with a title it would have to name the first archive.
  cases phase with
  | handled => exact nomatch htitle
  | titled opts executors title =>
    obtain ⟨hpath, htitle⟩ := Prod.mk.inj (Option.some.inj htitle)
    have hsame := hown (hzip opts hpath)
    rw [htitle, hpath] at hsame
    exact absurd hsame (by decide)
  | done opts title archive =>
    obtain ⟨hpath, htitle⟩ := Prod.mk.inj (Option.some.inj htitle)
    have hsame := (hown (hzip opts hpath)).1
    rw [htitle, hpath] at hsame
    exact absurd hsame (by decide)

end HiDumper.Spec
