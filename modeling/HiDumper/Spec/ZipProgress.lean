import HiDumper.Native.ZipDump

/-!
# Progress and archive of a zip request

The percentages that a zip request shows never go down, although `DumpDatas` goes back in
its list and the packing of the archive ticks with 0. They stay below 100 until the sweep
of `Reset`s is over; the first `Reset` of the shared output packs the folder and the later
ones find nothing to do, so the title that comes with 100 is printed once and after that.

## Key results

- `InProgress`: what holds of a `RawParam` until the last update
- `turn_inProgress`, `size_turn_lt`: what a round of `DumpDatas` keeps, and that it ends
- `sweep_inProgress`: the `Reset`s pack the folder once
- `dumpDatas_progress`: a zip request from start to end
-/

namespace HiDumper.Spec

open HiDumper.Native

/-! ## Events -/

/-- The percentages that the client gets. -/
def percents (events : List ZipEvent) : List Nat :=
  events.filterMap fun
    | .percent progress _ => some progress
    | _ => none

/-- The titles that the client gets. -/
def titles (events : List ZipEvent) : List String :=
  events.filterMap fun
    | .title path => some path
    | _ => none

/-- The calls of `ZipFolder`. -/
def zipCalls (events : List ZipEvent) : List (String × String) :=
  events.filterMap fun
    | .zipFolder srcPath dstFile => some (srcPath, dstFile)
    | _ => none

@[simp] theorem percents_append (a b : List ZipEvent) :
    percents (a ++ b) = percents a ++ percents b := List.filterMap_append

@[simp] theorem titles_append (a b : List ZipEvent) :
    titles (a ++ b) = titles a ++ titles b := List.filterMap_append

@[simp] theorem zipCalls_append (a b : List ZipEvent) :
    zipCalls (a ++ b) = zipCalls a ++ zipCalls b := List.filterMap_append

/-! ## Updates -/

/-- A `RawParam` before the last update, with the calls of `ZipFolder` so far. -/
structure InProgress (folder : String) (zips : List (String × String)) (callback : ProgressParam) :
    Prop where
  enabled : callback.progressEnabled = true
  outfd : 0 ≤ callback.outfd
  folder_eq : callback.folder = folder
  progress_lt : callback.progress < ProgressParam.finish
  sorted : (percents callback.events).Pairwise (· ≤ ·)
  le_progress : ∀ p ∈ percents callback.events, p ≤ callback.progress
  untitled : titles callback.events = []
  zips_eq : zipCalls callback.events = zips

variable {folder : String} {zips : List (String × String)} {callback : ProgressParam}

/-- An update that the checks let through. -/
private theorem updateProgress_eq {progress : Nat} (henabled : callback.progressEnabled = true)
    (houtfd : 0 ≤ callback.outfd) (hle : progress ≤ ProgressParam.finish) :
    ∃ tick, callback.updateProgress progress =
      { callback with
        progress := max progress callback.progress
        progressTick := (callback.progressTick + 1) % ProgressParam.ticks.length
        events := callback.events ++ .percent (max progress callback.progress) tick ::
          if max progress callback.progress = ProgressParam.finish then [.title callback.path]
          else [] } := by
  have hguard : (!callback.progressEnabled || decide (callback.outfd < 0) ||
      decide (progress > ProgressParam.finish)) = false := by
    simp [henabled]
    omega
  unfold ProgressParam.updateProgress
  rw [hguard, if_neg Bool.false_ne_true]
  let tick := (callback.progressTick + 1) % ProgressParam.ticks.length
  refine ⟨ProgressParam.ticks[tick]?.getD '-', ?_⟩
  dsimp only [ProgressParam.emit]
  split
  · simp only [List.append_assoc, List.cons_append, List.nil_append]
    rfl
  · rfl

/-- The client gets one more percentage, not below the ones before. -/
private theorem updateProgress_inProgress {progress : Nat} (h : InProgress folder zips callback)
    (hlt : progress < ProgressParam.finish) :
    InProgress folder zips (callback.updateProgress progress) := by
  obtain ⟨tick, heq⟩ := updateProgress_eq h.enabled h.outfd (Nat.le_of_lt hlt)
  -- The larger of the two percentages is reported, and it is not the last one yet.
  have hmax : max progress callback.progress < ProgressParam.finish := by
    have := h.progress_lt
    omega
  rw [if_neg (by omega)] at heq
  have hle : ∀ p ∈ percents callback.events, p ≤ max progress callback.progress := by
    intro p hp
    have := h.le_progress p hp
    omega
  rw [heq]
  refine ⟨h.enabled, h.outfd, h.folder_eq, hmax, ?_, ?_, ?_, ?_⟩
  · rw [percents_append]
    apply List.pairwise_append.mpr
    refine ⟨h.sorted, List.pairwise_singleton _ _, fun p hp q hq => ?_⟩
    rw [List.mem_singleton.mp hq]
    exact hle p hp
  · intro p hp
    rw [percents_append] at hp
    rcases List.mem_append.mp hp with hp | hp
    · exact hle p hp
    · exact Nat.le_of_eq (List.mem_singleton.mp hp)
  · rw [titles_append, h.untitled]
    rfl
  · rw [zipCalls_append, h.zips_eq]
    exact List.append_nil _

/-- A position before the end of the list is less than 100 percent. -/
private theorem updateProgressOf_inProgress {total current : Nat}
    (h : InProgress folder zips callback)
    (hlt : current < total) : InProgress folder zips (callback.updateProgressOf total current) := by
  unfold ProgressParam.updateProgressOf
  split
  · exact h
  · apply updateProgress_inProgress h
    show 100 * current / total < 100
    exact Nat.div_lt_of_lt_mul (by rw [Nat.mul_comm total]; omega)

/-- The last update: 100 percent and the title. -/
private theorem updateProgressOf_self {total : Nat} (h : InProgress folder zips callback)
    (hpos : 0 < total) :
    ∃ tick, (callback.updateProgressOf total total).events =
      callback.events ++ [.percent 100 tick, .title callback.path] := by
  have hguard : (!callback.progressEnabled || decide (callback.outfd < 0) ||
      decide (total < 1) || decide (total < total)) = false := by
    have := h.outfd
    simp [h.enabled]
    omega
  have hfull : ProgressParam.finish * total / total = ProgressParam.finish :=
    Nat.mul_div_cancel _ hpos
  unfold ProgressParam.updateProgressOf
  rw [hguard, if_neg Bool.false_ne_true, hfull]
  obtain ⟨tick, heq⟩ := updateProgress_eq h.enabled h.outfd (Nat.le_refl _)
  have hmax : max ProgressParam.finish callback.progress = ProgressParam.finish :=
    Nat.max_eq_left (Nat.le_of_lt h.progress_lt)
  rw [hmax, if_pos rfl] at heq
  rw [heq]
  exact ⟨tick, rfl⟩

/-! ## The archive -/

/-- An entry for the archive changes no percentage. -/
private theorem emit_zipFolder_inProgress (h : InProgress folder zips callback)
    (srcPath dstFile : String) :
    InProgress folder (zips ++ [(srcPath, dstFile)])
      (callback.emit (.zipFolder srcPath dstFile)) := by
  have hpercents : percents (callback.events ++ [.zipFolder srcPath dstFile]) =
      percents callback.events := by
    rw [percents_append]
    exact List.append_nil _
  refine ⟨h.enabled, h.outfd, h.folder_eq, h.progress_lt, ?_, ?_, ?_, ?_⟩
  · exact hpercents ▸ h.sorted
  · exact hpercents ▸ h.le_progress
  · show titles (callback.events ++ _) = []
    rw [titles_append, h.untitled]
    rfl
  · show zipCalls (callback.events ++ _) = _
    rw [zipCalls_append, h.zips_eq]
    rfl

/-- Several entries do not, either. -/
private theorem flushItems_inProgress (items : List ZipItem) (h : InProgress folder zips callback) :
    InProgress folder zips (flushItems items callback).2 := by
  induction items generalizing callback with
  | nil => exact h
  | cons item items ih =>
    have hticked := updateProgress_inProgress h (show 0 < 100 by omega)
    unfold flushItems
    dsimp only
    split
    · exact hticked
    · split
      · exact hticked
      · exact ih hticked

/-- The packing of the folder is one call, and its ticks stay below 100. -/
private theorem zipFolderTo_inProgress (source : ZipSource) (srcPath dstFile : String)
    (h : InProgress folder zips callback) :
    InProgress folder (zips ++ [(srcPath, dstFile)])
      (zipFolderTo source srcPath dstFile callback).2 := by
  have hcalled := emit_zipFolder_inProgress h srcPath dstFile
  have hticked := updateProgress_inProgress hcalled (show 0 < 100 by omega)
  unfold zipFolderTo
  dsimp only
  split
  · exact hcalled
  · split
    · exact hticked
    · split
      · exact hticked
      · exact flushItems_inProgress source.items hticked

/-! ## The loop -/

section Loop

variable (req : ZipRequest)

private theorem copySmaps_inProgress (pids : List Bool) (h : InProgress folder zips callback) :
    InProgress folder zips (copySmaps pids callback) := by
  induction pids generalizing callback with
  | nil => exact h
  | cons canceled pids ih =>
    unfold copySmaps
    split
    · exact h
    · exact ih (updateProgress_inProgress h (show 0 < 100 by omega))

/-- `InProgress` does not look at the title that is set. -/
theorem InProgress.setTitle (h : InProgress folder zips callback) {enabled : Bool}
    (henabled : enabled = true) (path : String) :
    InProgress folder zips { callback with progressEnabled := enabled, path := path } :=
  ⟨henabled, h.outfd, h.folder_eq, h.progress_lt, h.sorted, h.le_progress, h.untitled, h.zips_eq⟩

/-- At the start the percentage is 0. -/
private theorem start_inProgress (hfd : 0 ≤ req.outfd) : InProgress req.folder [] req.start := by
  have hfresh : InProgress req.folder []
      { outfd := req.outfd, folder := req.folder, progressEnabled := true } :=
    ⟨rfl, hfd, rfl, Nat.zero_lt_succ 99, List.Pairwise.nil, by simp [percents], rfl, rfl⟩
  unfold ZipRequest.start
  rw [req.isDumpZip]
  cases req.smaps with
  | none => exact hfresh.setTitle rfl _
  | some pids => exact (copySmaps_inProgress pids hfresh).setTitle rfl _

/-- What a round does to the output and to `RawParam`. -/
theorem turn_spec (s : ZipDump) (cfg : DumpCfg) :
    (req.turn s cfg).rounds = s.rounds + 1 ∧
    (∃ path, (req.turn s cfg).callback =
      { s.callback.updateProgressOf req.executors.length s.index with path := path }) ∧
    ((req.turn s cfg).output = s.output ∨
      cfg.cls = .fdOutput ∧ ∃ folder,
        (req.turn s cfg).output = (s.output.preExecute req.fdToWrite folder).2) := by
  unfold ZipRequest.turn ZipRequest.doPreExecute ZipRequest.setZipTitle ZipRequest.next
  by_cases hcls : cfg.cls = .fdOutput
  · simp only [hcls, if_true, decide_true, Bool.true_and, req.isDumpZip]
    repeat' split
    all_goals
      first
        | exact ⟨rfl, ⟨_, rfl⟩, Or.inl rfl⟩
        | exact ⟨rfl, ⟨_, rfl⟩, Or.inr ⟨trivial, _, rfl⟩⟩
  · simp only [hcls, if_false, decide_false, Bool.false_and, Bool.false_eq_true]
    repeat' split
    all_goals exact ⟨rfl, ⟨_, rfl⟩, Or.inl rfl⟩

/-- Once the dumpers have run out of data, a round goes on with the next executor or goes
    back for the last time. -/
private theorem turn_position (s : ZipDump) (cfg : DumpCfg)
    (hout : req.answers.lastMore ≤ s.rounds) :
    (req.turn s cfg).canceled = true ∨
    (req.turn s cfg).index = s.index + 1 ∧ (req.turn s cfg).loopStack = s.loopStack ∨
    (req.turn s cfg).index = s.loopStack.head?.getD (s.index + 1) ∧
      (req.turn s cfg).loopStack = [] := by
  have hmore : ZipRequest.doAfterExecute cfg (req.answers.answer s.rounds) ≠ .dumpMoreData := by
    unfold ZipRequest.doAfterExecute
    split
    · exact nofun
    · exact req.answers.runsOut s.rounds hout
  have hpre : ∀ answer t, (req.doPreExecute cfg answer t).2.index = t.index ∧
      (req.doPreExecute cfg answer t).2.loopStack = t.loopStack := by
    intro answer t
    unfold ZipRequest.doPreExecute
    split
    · exact ⟨rfl, rfl⟩
    · exact ⟨rfl, rfl⟩
  have htitle : ∀ t, (req.setZipTitle cfg t).index = t.index ∧
      (req.setZipTitle cfg t).loopStack = t.loopStack := by
    intro t
    unfold ZipRequest.setZipTitle
    split
    · exact ⟨rfl, rfl⟩
    · exact ⟨rfl, rfl⟩
  -- The branches of a turn: canceled, failed, no end of a section, a way back, or none.
  unfold ZipRequest.turn ZipRequest.next
  dsimp only
  split
  · exact Or.inl rfl
  right
  split
  · simp only [htitle, hpre]
    exact Or.inl ⟨trivial, trivial⟩
  · split
    · simp only [htitle, hpre]
      exact Or.inl ⟨trivial, trivial⟩
    · simp only [hmore, decide_false, Bool.and_false, Bool.false_eq_true, if_false]
      split
      · simp only [hpre]
        exact Or.inr ⟨trivial, trivial⟩
      · simp only [hpre]
        exact Or.inl ⟨trivial, trivial⟩

/-- An upper bound for the rounds that are left. -/
def roundsLeft (s : ZipDump) : Nat :=
  if s.canceled then 0
  else 1 + (req.answers.lastMore - s.rounds) * (2 * req.executors.length + 2) +
    (if s.loopStack = [] then 0 else req.executors.length + 1) + (req.executors.length - s.index)

/-- The executor of a round. -/
private theorem round_eq_some {s t : ZipDump} (h : req.round s = some t) :
    ∃ cfg, s.canceled = false ∧ req.executors[s.index]? = some cfg ∧ req.turn s cfg = t := by
  unfold ZipRequest.round at h
  split at h
  · exact nomatch h
  · rename_i hcanceled
    obtain ⟨cfg, hcfg, hturn⟩ := Option.map_eq_some_iff.mp h
    exact ⟨cfg, Bool.eq_false_iff.mpr hcanceled, hcfg, hturn⟩

/-- Every round leaves fewer rounds. -/
private theorem roundsLeft_lt {s t : ZipDump} (h : req.round s = some t) :
    roundsLeft req t < roundsLeft req s := by
  obtain ⟨cfg, hcanceled, hcfg, rfl⟩ := round_eq_some req h
  obtain ⟨hrounds, -, -⟩ := turn_spec req s cfg
  have hindex : s.index < req.executors.length := (List.getElem?_eq_some_iff.mp hcfg).1
  unfold roundsLeft
  rw [hcanceled, if_neg Bool.false_ne_true]
  split
  · omega
  rw [hrounds]
  by_cases hout : req.answers.lastMore ≤ s.rounds
  · -- No dumper asks for another pass any more.
    rw [Nat.sub_eq_zero_of_le hout, Nat.sub_eq_zero_of_le (Nat.le_succ_of_le hout)]
    rcases turn_position req s cfg hout with hstop | ⟨hnext, hstack⟩ | ⟨hback, hstack⟩
    · contradiction
    · rw [hnext, hstack]
      omega
    · rw [hback, hstack, if_pos rfl]
      cases hs : s.loopStack with
      | nil =>
        simp only [List.head?_nil, Option.getD_none, if_true]
        omega
      | cons position positions =>
        simp only [List.head?_cons, Option.getD_some, reduceCtorEq, if_false]
        omega
  -- There may be another pass, but it is one less.
  · have hleft : req.answers.lastMore - s.rounds =
        (req.answers.lastMore - (s.rounds + 1)) + 1 := by omega
    rw [hleft, Nat.add_mul, Nat.one_mul]
    split <;> split <;> omega

/-- The loop up to some round. -/
structure Looping (s : ZipDump) : Prop where
  callback : InProgress req.folder [] s.callback
  param_iff : s.output.param = true ↔ s.output.logDefaultPath ≠ ""
  output_mem : s.output.param = true → ∃ cfg ∈ req.executors, cfg.cls = .fdOutput

/-- After `PreExecute` the output is set up. -/
private theorem preExecute_output (fdToWrite : String → Int) (folder : String) (st : ZipOutput)
    (h : st.param = true ↔ st.logDefaultPath ≠ "") :
    (st.preExecute fdToWrite folder).2.param = true ∧
      (st.preExecute fdToWrite folder).2.logDefaultPath ≠ "" := by
  unfold ZipOutput.preExecute
  by_cases hpath : st.logDefaultPath = ""
  · have hne : folder ++ ZipOutput.logDefault ≠ "" := by
      intro heq
      have := congrArg String.toList heq
      simp [ZipOutput.logDefault] at this
    rw [if_pos hpath]
    dsimp only
    split
    · exact ⟨rfl, hne⟩
    · exact ⟨rfl, hne⟩
  · rw [if_neg hpath]
    dsimp only
    split
    · exact ⟨h.mpr hpath, hpath⟩
    · exact ⟨h.mpr hpath, hpath⟩

/-- A round of the loop keeps the bookkeeping of the progress. -/
theorem Looping.round {s t : ZipDump} (hs : Looping req s) (h : req.round s = some t) :
    Looping req t := by
  obtain ⟨cfg, -, hcfg, rfl⟩ := round_eq_some req h
  obtain ⟨-, ⟨path, hcallback⟩, houtput⟩ := turn_spec req s cfg
  obtain ⟨hindex, hget⟩ := List.getElem?_eq_some_iff.mp hcfg
  have hticked := updateProgressOf_inProgress hs.callback hindex
  have hcallback' : InProgress req.folder [] (req.turn s cfg).callback := by
    rw [hcallback]
    exact hticked.setTitle hticked.enabled path
  rcases houtput with hsame | ⟨hcls, folder, hset⟩
  · exact ⟨hcallback', hsame ▸ hs.param_iff, hsame ▸ hs.output_mem⟩
  · obtain ⟨hparam, hpath⟩ := preExecute_output req.fdToWrite folder s.output hs.param_iff
    refine ⟨hcallback', ?_, fun _ => ⟨cfg, hget ▸ List.getElem_mem hindex, hcls⟩⟩
    rw [hset]
    exact ⟨fun _ => hpath, fun _ => hparam⟩

end Loop

/-! ## The sweep -/

section Sweep

variable (req : ZipRequest)

/-- What a `Reset` does to the output and to `RawParam`. -/
theorem resetExecutor_spec (s : ZipDump) (cfg : DumpCfg) :
    (req.resetExecutor s cfg).output.logDefaultPath = s.output.logDefaultPath ∧
    if cfg.cls = .fdOutput ∧ s.output.param = true then
      (req.resetExecutor s cfg).output.param = false ∧
        (req.resetExecutor s cfg).callback =
          (zipFolderTo req.source s.callback.folder req.opts.path s.callback).2
    else
      (req.resetExecutor s cfg).output.param = s.output.param ∧
        (req.resetExecutor s cfg).callback = s.callback := by
  unfold ZipRequest.resetExecutor
  by_cases hcls : cfg.cls = .fdOutput
  · unfold ZipOutput.reset
    cases hparam : s.output.param with
    | false => simp [hcls]
    | true => simp [hcls]
  · simp [hcls]

/-- The sweep keeps the path of the log. -/
private theorem logDefaultPath_sweep (executors : List DumpCfg) (s : ZipDump) :
    (executors.foldl req.resetExecutor s).output.logDefaultPath = s.output.logDefaultPath := by
  induction executors generalizing s with
  | nil => rfl
  | cons cfg executors ih =>
    rw [List.foldl_cons, ih]
    exact (resetExecutor_spec req s cfg).1

/-- Without an output that is set up, the sweep changes nothing for the client. -/
private theorem sweep_idle (executors : List DumpCfg) {s : ZipDump} (h : s.output.param = false) :
    (executors.foldl req.resetExecutor s).callback = s.callback := by
  induction executors generalizing s with
  | nil => rfl
  | cons cfg executors ih =>
    have hspec := (resetExecutor_spec req s cfg).2
    rw [if_neg (by simp [h])] at hspec
    rw [List.foldl_cons, ih (hspec.1.trans h)]
    exact hspec.2

/-- The first `Reset` of the output packs the folder, the later ones do nothing. -/
theorem sweep_inProgress {executors : List DumpCfg} {s : ZipDump}
    (h : InProgress req.folder [] s.callback) (hparam : s.output.param = true)
    (hmem : ∃ cfg ∈ executors, cfg.cls = .fdOutput) :
    InProgress req.folder [(req.folder, req.opts.path)]
      (executors.foldl req.resetExecutor s).callback := by
  induction executors generalizing s with
  | nil =>
    obtain ⟨cfg, hcfg, -⟩ := hmem
    exact nomatch hcfg
  | cons cfg executors ih =>
    have hspec := (resetExecutor_spec req s cfg).2
    rw [List.foldl_cons]
    by_cases hcls : cfg.cls = .fdOutput
    -- The output: the folder is packed, and nothing is left to pack for the executors behind it.
    · rw [if_pos ⟨hcls, hparam⟩] at hspec
      rw [sweep_idle req executors hspec.1, hspec.2, h.folder_eq]
      exact zipFolderTo_inProgress req.source req.folder req.opts.path h
    · rw [if_neg (by simp [hcls])] at hspec
      apply ih
      · exact hspec.2 ▸ h
      · exact hspec.1.trans hparam
      · obtain ⟨other, hother, hcls'⟩ := hmem
        rcases List.mem_cons.mp hother with rfl | hother
        · exact absurd hcls' hcls
        · exact ⟨other, hother, hcls'⟩

/-! ## The request -/

/-- What the client has seen of a request with a list that is not empty. -/
private theorem wrapUp_events {s : ZipDump}
    (h : InProgress folder zips (req.executors.foldl req.resetExecutor s).callback)
    (hne : req.executors ≠ []) :
    ∃ tick path, (req.wrapUp s).callback.events =
      (req.executors.foldl req.resetExecutor s).callback.events ++
        [.percent 100 tick, .title path] := by
  obtain ⟨tick, heq⟩ := updateProgressOf_self h (List.length_pos_of_ne_nil hne)
  exact ⟨tick, _, heq⟩

/-- The last steps go up to 100. -/
private theorem wrapUp_percents {s : ZipDump}
    (h : InProgress folder zips (req.executors.foldl req.resetExecutor s).callback) :
    (percents (req.wrapUp s).callback.events).Pairwise (· ≤ ·) ∧
      ∀ p ∈ percents (req.wrapUp s).callback.events, p ≤ 100 := by
  have hlt : ∀ p ∈ percents (req.executors.foldl req.resetExecutor s).callback.events, p < 100 :=
    fun p hp => Nat.lt_of_le_of_lt (h.le_progress p hp) h.progress_lt
  by_cases hne : req.executors = []
  · -- An empty list prints nothing at the end.
    have hsame : (req.wrapUp s).callback.events =
        (req.executors.foldl req.resetExecutor s).callback.events := by
      unfold ZipRequest.wrapUp ProgressParam.updateProgressOf
      simp [hne]
    rw [hsame]
    exact ⟨h.sorted, fun p hp => Nat.le_of_lt (hlt p hp)⟩
  · obtain ⟨tick, path, hevents⟩ := wrapUp_events req h hne
    have hlast : percents [.percent 100 tick, .title path] = [100] := rfl
    rw [hevents, percents_append, hlast]
    constructor
    · apply List.pairwise_append.mpr
      refine ⟨h.sorted, List.pairwise_singleton _ _, fun p hp q hq => ?_⟩
      rw [List.mem_singleton.mp hq]
      exact Nat.le_of_lt (hlt p hp)
    · intro p hp
      rcases List.mem_append.mp hp with hp | hp
      · exact Nat.le_of_lt (hlt p hp)
      · exact Nat.le_of_eq (List.mem_singleton.mp hp)

/-- A title comes after all events of a part without titles. -/
private theorem exists_append_of_title {events last before after : List ZipEvent} {path : String}
    (huntitled : titles events = []) (h : events ++ last = before ++ .title path :: after) :
    ∃ ticks, before = events ++ ticks := by
  rcases List.append_eq_append_iff.mp h with ⟨ticks, hbefore, -⟩ | ⟨rest, hevents, htitle⟩
  · exact ⟨ticks, hbefore⟩
  · cases rest with
    | nil => exact ⟨[], by rw [hevents, List.append_nil, List.append_nil]⟩
    | cons event rest =>
      rw [List.cons_append, List.cons.injEq] at htitle
      rw [hevents, titles_append, ← htitle.1] at huntitled
      exact absurd (List.append_eq_nil_iff.mp huntitled).2 (List.cons_ne_nil _ _)

/-- `DumpDatas` of a zip request ends. The percentages that the client gets never go down
    and never exceed 100. If the output was set up, the title is printed once, the folder is
    packed once, and the title comes after that. -/
theorem dumpDatas_progress (hfd : 0 ≤ req.outfd) :
    ∃ s, (∃ enough, ∀ fuel, enough ≤ fuel → req.dumpDatas fuel = some s) ∧
      (percents s.callback.events).Pairwise (· ≤ ·) ∧
      (∀ p ∈ percents s.callback.events, p ≤ 100) ∧
      (s.output.logDefaultPath ≠ "" →
        (titles s.callback.events).length = 1 ∧
        zipCalls s.callback.events = [(req.folder, req.opts.path)] ∧
        ∀ before path after, s.callback.events = before ++ .title path :: after →
          zipCalls before ≠ []) := by
  have hstart : Looping req { callback := req.start } :=
    ⟨start_inProgress req hfd, by simp, by simp⟩
  obtain ⟨s, hs, hend, hreach⟩ := Loop.exists_end (roundsLeft req)
    (fun _ _ => roundsLeft_lt req) (fun _ _ => Looping.round req) _ hstart
  -- The loop ends in `s`, and the executors are reset and the folder is packed behind it.
  refine ⟨req.wrapUp s, ?_, ?_⟩
  · obtain ⟨enough, hrun⟩ := hreach.ends hend
    refine ⟨enough, fun fuel hfuel => ?_⟩
    rw [ZipRequest.dumpDatas, hrun fuel hfuel, Option.map_some]
  by_cases hparam : s.output.param = true
  -- The output was set up, so there was an executor, and the archive is made.
  · have hmem := hs.output_mem hparam
    have hswept := sweep_inProgress req hs.callback hparam hmem
    obtain ⟨hsorted, hle⟩ := wrapUp_percents req hswept
    refine ⟨hsorted, hle, fun _ => ?_⟩
    have hne : req.executors ≠ [] := by
      obtain ⟨cfg, hcfg, -⟩ := hmem
      exact List.ne_nil_of_mem hcfg
    obtain ⟨tick, path, hevents⟩ := wrapUp_events req hswept hne
    rw [hevents]
    refine ⟨?_, ?_, fun before other after hsplit => ?_⟩
    · rw [titles_append, hswept.untitled]
      rfl
    · rw [zipCalls_append, hswept.zips_eq]
      rfl
    · obtain ⟨ticks, rfl⟩ := exists_append_of_title hswept.untitled hsplit
      rw [zipCalls_append, hswept.zips_eq]
      exact List.cons_ne_nil _ _
  -- Nothing was set up, so there is no path either.
  · have hidle := sweep_idle req req.executors (Bool.eq_false_iff.mpr hparam)
    have hswept : InProgress req.folder []
        (req.executors.foldl req.resetExecutor s).callback := hidle ▸ hs.callback
    obtain ⟨hsorted, hle⟩ := wrapUp_percents req hswept
    refine ⟨hsorted, hle, fun hpath => ?_⟩
    have hkept : (req.wrapUp s).output.logDefaultPath = s.output.logDefaultPath :=
      logDefaultPath_sweep req req.executors s
    rw [hkept] at hpath
    exact absurd (hs.param_iff.mpr hpath) hparam

end Sweep

/-- Two dumpers with an output each. The first one has a second line, the other one fails. -/
def loopedRequest : ZipRequest where
  outfd := 3
  folder := "/tmp/1/"
  opts := { path := "/log.zip" }
  isDumpZip := rfl
  smaps := some [false]
  path := "/log.zip"
  executors := [{ cls := .cmdDumper, loop := .loop }, { cls := .fdOutput }, { cls := .apiDumper },
    { cls := .fdOutput }]
  fdToWrite _ := 4
  answers := {
    answer round :=
      ⟨false, .dumpOk, if round = 4 then .dumpFail else .dumpOk,
        if round = 0 then .dumpMoreData else .dumpOk⟩
    lastMore := 1
    runsOut := by
      intro round hround
      dsimp only
      rw [if_neg (by omega)]
      exact nofun }
  source := ⟨true, false, true, true, [⟨false, true⟩, ⟨false, true⟩]⟩

/-- A request with several executors, some of which loop. -/
theorem dumpDatas_progress_looped :
    0 ≤ loopedRequest.outfd ∧
    ∃ s, (∃ fuel, loopedRequest.dumpDatas fuel = some s) ∧
      percents s.callback.events = [0, 0, 25, 25, 25, 50, 75, 75, 75, 75, 100] ∧
      (titles s.callback.events).length = 1 ∧
      zipCalls s.callback.events = [("/tmp/1/", "/log.zip")] := by
  obtain ⟨s, ⟨enough, hrun⟩, -, -, hpacked⟩ := dumpDatas_progress loopedRequest (by decide)
  have hs := hrun (enough + 9) (Nat.le_add_right _ _)
  have heval : (loopedRequest.dumpDatas (enough + 9)).map (fun s =>
      (s.output.logDefaultPath, percents s.callback.events)) =
        some ("/tmp/1/log.txt", [0, 0, 25, 25, 25, 50, 75, 75, 75, 75, 100]) := rfl
  rw [hs, Option.map_some, Option.some.injEq, Prod.mk.injEq] at heval
  obtain ⟨htitle, hzip, -⟩ := hpacked (by rw [heval.1]; decide)
  exact ⟨by decide, s, ⟨_, hs⟩, heval.2, htitle, hzip⟩

end HiDumper.Spec
