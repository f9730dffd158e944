import HiDumper.ForStd.FirstOccurrences
import HiDumper.Native.CmdUsage

/-!
# Usages of commands, once a day

On every calendar day each usage that occurs is to be reported once. The file holds the
lines of the day, so two things must be right at each call: the file is emptied when a new
day has begun, and the search for the line finds it if and only if the usage is one of the
day. The first goes wrong at the end of a month, when the last write is at most 24 hours
ago, and on a day of more than 24 hours; the second when a line is a part of what other
usages wrote.

## Key results

- `isClearTime_eq_true_iff`: when the test of the source is about the calendar day
- `step_keeps`: one call, in a run that was right so far
- `reportsDaily_iff`: a run is right if and only if both things are right at each call
-/

namespace HiDumper.Native.Tm

/-- An earlier calendar day. -/
def IsBefore (first second : Tm) : Prop :=
  first.year < second.year ∨ first.year = second.year ∧
    (first.mon < second.mon ∨ first.mon = second.mon ∧ first.mday < second.mday)

instance (first second : Tm) : Decidable (first.IsBefore second) :=
  inferInstanceAs (Decidable (first.year < second.year ∨ first.year = second.year ∧
    (first.mon < second.mon ∨ first.mon = second.mon ∧ first.mday < second.mday)))

/-- No time is before itself. -/
private theorem not_isBefore_self (day : Tm) : ¬day.IsBefore day := by
  simp [IsBefore]

/-- A time is not before itself. -/
theorem IsBefore.ne {first second : Tm} (h : first.IsBefore second) : first ≠ second := by
  rintro rfl
  exact not_isBefore_self first h

/-- Days of which none is before the other are the same. -/
private theorem eq_of_not_isBefore {first second : Tm} (h₁ : ¬first.IsBefore second)
    (h₂ : ¬second.IsBefore first) : first = second := by
  obtain ⟨year₁, mon₁, mday₁⟩ := first
  obtain ⟨year₂, mon₂, mday₂⟩ := second
  simp only [IsBefore] at h₁ h₂
  rw [Tm.mk.injEq]
  omega

end HiDumper.Native.Tm

namespace HiDumper.Spec

open HiDumper.Native DumpCommonUtils

/-! ## Usages -/

/-- What makes two usages distinct. -/
inductive Usage where
  | option (opt subOpt : String)
  | error (errorMsg : String)
  deriving DecidableEq, Repr

/-- The usage of a call. -/
def usageOf (param : DumperSysEventParams) : Usage :=
  if param.errorCode = 0 then .option param.opt param.subOpt else .error param.errorMsg

/-- The line that stands for a usage. -/
def Usage.line : Usage → List Char
  | .option opt subOpt => ("OPT:" ++ opt ++ " SUB_OPT:" ++ subOpt ++ "\n").toList
  | .error errorMsg => ("ERROR_MESSAGE:" ++ errorMsg ++ "\n").toList

/-- The line that is written for a usage. -/
private theorem usageOption_eq (param : DumperSysEventParams) :
    usageOption param = (usageOf param).line := by
  unfold usageOption usageOf
  split <;> rfl

/-- The line is never empty, also when it is cut at a zero. -/
theorem Usage.cStr_line_ne_nil (usage : Usage) : DumpCommonUtils.cStr usage.line ≠ [] := by
  cases usage <;> simp [Usage.line, DumpCommonUtils.cStr, String.toList_append]

/-- What usages leave in the file, one after the other. -/
def usageText (usages : List Usage) : List Char :=
  usages.flatMap fun usage => DumpCommonUtils.cStr usage.line

section Days

variable (localtime : Int → Tm)

/-- The distinct usages of the calls on a day. -/
def usagesOn (day : Tm) (calls : List UsageCall) : List Usage :=
  ((calls.filter fun call => localtime call.now = day).map fun call =>
    usageOf call.param).firstOccurrences

/-- The usages reported on a day. -/
def reportedOn (day : Tm) (events : List CmdUsageEvent) : List Usage :=
  (events.filter fun event => localtime event.time = day).map fun event => usageOf event.param

variable {localtime}

/-- The usages of a day are those of the calls on that day. -/
private theorem mem_usagesOn {day : Tm} {calls : List UsageCall} {usage : Usage} :
    usage ∈ usagesOn localtime day calls ↔
      ∃ call ∈ calls, localtime call.now = day ∧ usageOf call.param = usage := by
  simp [usagesOn, and_assoc]

/-- Each usage counts once. -/
private theorem nodup_usagesOn (day : Tm) (calls : List UsageCall) :
    (usagesOn localtime day calls).Nodup :=
  List.nodup_firstOccurrences _

/-- A call adds its usage to its own day, if it is new there. -/
private theorem usagesOn_concat (day : Tm) (calls : List UsageCall) (call : UsageCall) :
    usagesOn localtime day (calls ++ [call]) =
      if localtime call.now = day ∧ usageOf call.param ∉ usagesOn localtime day calls then
        usagesOn localtime day calls ++ [usageOf call.param]
      else usagesOn localtime day calls := by
  unfold usagesOn
  rw [List.filter_append, List.map_append]
  by_cases hday : localtime call.now = day
  · simp only [List.filter_singleton, hday, decide_true, cond_true, List.map_cons, List.map_nil,
      List.firstOccurrences_concat, List.mem_firstOccurrences, true_and]
    split <;> simp_all
  · simp [hday]

/-- One more event is reported on its own day. -/
private theorem reportedOn_concat (day : Tm) (events : List CmdUsageEvent) (event : CmdUsageEvent) :
    reportedOn localtime day (events ++ [event]) =
      if localtime event.time = day then
        reportedOn localtime day events ++ [usageOf event.param]
      else reportedOn localtime day events := by
  unfold reportedOn
  rw [List.filter_append, List.map_append]
  split <;> simp_all

end Days

/-! ## The test for a new day -/

section Run

variable (localtime : Int → Tm)

/-- The last write is neither on an earlier day of another month, at most 24 hours ago,
    nor on the same day, more than 24 hours ago. -/
structure DayTestFits (lastWriteTime now : Int) : Prop where
  otherMonth : (localtime lastWriteTime).IsBefore (localtime now) →
    now - lastWriteTime ≤ oneDayToSeconds →
    (localtime now).year = (localtime lastWriteTime).year ∧
      (localtime now).mon = (localtime lastWriteTime).mon
  longDay : localtime lastWriteTime = localtime now → now - lastWriteTime ≤ oneDayToSeconds

variable {localtime}

/-- The file is cleared after a day, or on a later day of the same month. -/
theorem isClearTime_eq_true_iff {lastWriteTime now : Int} :
    isClearTime localtime lastWriteTime now = true ↔
      now - lastWriteTime > oneDayToSeconds ∨
        (localtime now).year = (localtime lastWriteTime).year ∧
        (localtime now).mon = (localtime lastWriteTime).mon ∧
        (localtime lastWriteTime).mday < (localtime now).mday := by
  simp only [isClearTime, Bool.or_eq_true, Bool.and_eq_true, decide_eq_true_eq, beq_iff_eq]
  omega

/-- The test of the source is about the calendar day if and only if it fits, for a last
    write that is not on a later day. -/
private theorem dayTestFits_iff {lastWriteTime now : Int}
    (hdays : ¬(localtime now).IsBefore (localtime lastWriteTime)) :
    DayTestFits localtime lastWriteTime now ↔
      (isClearTime localtime lastWriteTime now = true ↔
        (localtime lastWriteTime).IsBefore (localtime now)) := by
  rw [isClearTime_eq_true_iff]
  constructor
  · rintro ⟨hother, hlong⟩
    constructor
    · -- More than 24 hours later, or a later day of the month: in both cases not the same day.
      intro hclear
      by_contra hbefore
      have hsame := Tm.eq_of_not_isBefore hbefore hdays
      have hle := hlong hsame
      rw [hsame] at hclear
      omega
    · intro hbefore
      by_contra hclear
      have hmonth := hother hbefore (by omega)
      simp only [Tm.IsBefore] at hbefore
      omega
  · intro htest
    refine ⟨fun hbefore hle => ?_, fun hsame => ?_⟩
    · have hclear := htest.mpr hbefore
      omega
    · by_contra hlong
      have hbefore := htest.mp (Or.inl (by omega))
      exact hbefore.ne hsame

/-! ## Runs -/

/-- Nothing that the system is asked for in the call fails. -/
def AnswersSucceed (call : UsageCall) : Prop :=
  call.answers.lastWriteTime = true ∧ call.answers.truncated = true ∧
    call.answers.opened = true ∧ call.answers.loaded = true ∧ call.answers.ret = 0 ∧
    call.answers.saved = true

instance (call : UsageCall) : Decidable (AnswersSucceed call) :=
  inferInstanceAs (Decidable (_ ∧ _))

variable (localtime)

/-- The calls are made one after the other, and the calendar does not go back. -/
def InOrder (calls : List UsageCall) : Prop :=
  calls.Pairwise fun first second =>
    first.now ≤ second.now ∧ ¬(localtime second.now).IsBefore (localtime first.now)

instance (calls : List UsageCall) : Decidable (InOrder localtime calls) :=
  inferInstanceAs (Decidable (List.Pairwise _ _))

/-- After every call of the run: the file was emptied there if and only if the day of the
    call is later than that of the last write, and on each day the usages of the calls so
    far have been reported once each, and no others. -/
structure ReportsDaily (calls : List UsageCall) : Prop where
  clears : ∀ past call, past ++ [call] <+: calls →
    ∀ file, (reportCmdUsages localtime past).file = some file →
      ((clearHisyseventTmpFile localtime call (some file)).map UsageFile.content = some [] ↔
        (localtime file.lastWriteTime).IsBefore (localtime call.now))
  once : ∀ past, past <+: calls → ∀ day usage,
    (reportedOn localtime day (reportCmdUsages localtime past).events).count usage =
      if ∃ call ∈ past, localtime call.now = day ∧ usageOf call.param = usage then 1 else 0

/-- The test for a new day fits the last write, and the search for the line in the text of
    the usages of the day tells whether the usage is one of them. -/
structure CallFits (past : List UsageCall) (call : UsageCall) : Prop where
  day : ∀ file, (reportCmdUsages localtime past).file = some file →
    DayTestFits localtime file.lastWriteTime call.now
  line : (usageOf call.param).line <:+: usageText (usagesOn localtime (localtime call.now) past) ↔
    usageOf call.param ∈ usagesOn localtime (localtime call.now) past

/-- The state after calls that were handled as they should: the file has the usages of the
    day of the last call, on which it was written last. -/
structure UpToDate (past : List UsageCall) (state : UsageState) : Prop where
  noFile : past = [] → state.file = none
  file : ∀ before call, past = before ++ [call] → ∃ file, state.file = some file ∧
    localtime file.lastWriteTime = localtime call.now ∧
    file.content = usageText (usagesOn localtime (localtime call.now) past)
  reported : ∀ day, reportedOn localtime day state.events = usagesOn localtime day past

variable {localtime}

/-- The file as `ReportCmdUsage` reads it. -/
def openedFile (localtime : Int → Tm) (state : UsageState) (call : UsageCall) : UsageFile :=
  (clearHisyseventTmpFile localtime call state.file).getD
    { content := [], lastWriteTime := call.now }

/-- A call in which nothing fails. -/
private theorem reportCmdUsage_eq {state : UsageState} {call : UsageCall}
    (hanswers : AnswersSucceed call) :
    reportCmdUsage localtime state call =
      if (usageOf call.param).line <:+: (openedFile localtime state call).content then
        { state with file := some (openedFile localtime state call) }
      else
        { file := some { content := (openedFile localtime state call).content ++
                           DumpCommonUtils.cStr (usageOf call.param).line
                         lastWriteTime := call.now }
          events := state.events ++ [{ param := call.param,
                                       callerProcess := call.answers.callerProcess,
                                       time := call.now }] } := by
  obtain ⟨-, -, hopened, hloaded, hret, hsaved⟩ := hanswers
  simp only [reportCmdUsage, hopened, hloaded, hret, hsaved, Bool.not_true, Bool.false_eq_true,
    if_false, ne_eq, not_true_eq_false, usageOption_eq]
  rfl

/-- Where the calls of the system succeed, clearing empties the file or leaves it. -/
private theorem clearHisyseventTmpFile_eq {call : UsageCall} (hanswers : AnswersSucceed call)
    (file : UsageFile) :
    clearHisyseventTmpFile localtime call (some file) =
      if isClearTime localtime file.lastWriteTime call.now = true then
        some { content := [], lastWriteTime := call.now }
      else some file := by
  obtain ⟨hlast, htruncated, -⟩ := hanswers
  simp [clearHisyseventTmpFile, hlast, htruncated]

/-- A call after others works on the file that they leave. -/
private theorem reportCmdUsages_concat (past : List UsageCall) (call : UsageCall) :
    reportCmdUsages localtime (past ++ [call]) =
      reportCmdUsage localtime (reportCmdUsages localtime past) call := by
  simp [reportCmdUsages]

/-- On a day that is later than the last one of the calls there was none. -/
private theorem usagesOn_eq_nil {before : List UsageCall} {last call : UsageCall}
    (horder : InOrder localtime (before ++ [last]))
    (hbefore : (localtime last.now).IsBefore (localtime call.now)) :
    usagesOn localtime (localtime call.now) (before ++ [last]) = [] := by
  rw [List.eq_nil_iff_forall_not_mem]
  intro usage hmem
  obtain ⟨other, hother, hday, -⟩ := mem_usagesOn.mp hmem
  have hlast : ¬(localtime last.now).IsBefore (localtime other.now) := by
    rcases List.mem_append.mp hother with hother | hother
    · exact ((List.pairwise_append.mp horder).2.2 other hother last (by simp)).2
    · rw [List.mem_singleton.mp hother]
      exact Tm.not_isBefore_self _
  rw [hday] at hlast
  exact hlast hbefore

/-- The file that the call reads has the usages of its day. -/
private theorem openedFile_upToDate {past : List UsageCall} {call : UsageCall} {state : UsageState}
    (hanswers : AnswersSucceed call) (horder : InOrder localtime (past ++ [call]))
    (hup : UpToDate localtime past state)
    (hday : ∀ file, state.file = some file → DayTestFits localtime file.lastWriteTime call.now) :
    localtime (openedFile localtime state call).lastWriteTime = localtime call.now ∧
      (openedFile localtime state call).content =
        usageText (usagesOn localtime (localtime call.now) past) := by
  rcases List.eq_nil_or_concat' past with rfl | ⟨before, last, rfl⟩
  · -- The first call makes the file.
    simp [openedFile, hup.noFile rfl, clearHisyseventTmpFile, usagesOn, usageText]
  · obtain ⟨file, hfile, hlast, hcontent⟩ := hup.file before last rfl
    have hdays : ¬(localtime call.now).IsBefore (localtime file.lastWriteTime) := by
      rw [hlast]
      exact ((List.pairwise_append.mp horder).2.2 last (by simp) call (by simp)).2
    have htest := (dayTestFits_iff hdays).mp (hday file hfile)
    rw [openedFile, hfile, clearHisyseventTmpFile_eq hanswers]
    by_cases hbefore : (localtime file.lastWriteTime).IsBefore (localtime call.now)
    · rw [if_pos (htest.mpr hbefore),
        usagesOn_eq_nil (List.pairwise_append.mp horder).1 (hlast ▸ hbefore)]
      exact ⟨rfl, rfl⟩
    · have hsame := Tm.eq_of_not_isBefore hbefore hdays
      rw [if_neg fun hclear => hbefore (htest.mp hclear), ← hsame, hlast]
      exact ⟨hlast, hcontent⟩

/-- A call that fits, after calls that did. -/
theorem step_keeps {past : List UsageCall} {call : UsageCall} (hanswers : AnswersSucceed call)
    (horder : InOrder localtime (past ++ [call]))
    (hup : UpToDate localtime past (reportCmdUsages localtime past))
    (hfits : CallFits localtime past call) :
    UpToDate localtime (past ++ [call]) (reportCmdUsages localtime (past ++ [call])) := by
  obtain ⟨hlast, hcontent⟩ := openedFile_upToDate hanswers horder hup hfits.day
  rw [reportCmdUsages_concat, reportCmdUsage_eq hanswers, hcontent]
  by_cases hmem : usageOf call.param ∈ usagesOn localtime (localtime call.now) past
  · -- A usage of the day: its line is found, and the day has no new usage.
    rw [if_pos (hfits.line.mpr hmem)]
    have hsame : ∀ day, usagesOn localtime day (past ++ [call]) = usagesOn localtime day past := by
      intro day
      rw [usagesOn_concat, if_neg]
      rintro ⟨rfl, hnew⟩
      exact hnew hmem
    refine ⟨by simp, fun before other heq => ?_, fun day => ?_⟩
    · obtain ⟨-, rfl⟩ : past = before ∧ call = other := by simpa using heq
      exact ⟨_, rfl, hlast, by rw [hcontent, hsame]⟩
    · rw [hsame]
      exact hup.reported day
  -- A new usage: its line is written, for this day only.
  · rw [if_neg fun hfound => hmem (hfits.line.mp hfound)]
    refine ⟨by simp, fun before other heq => ?_, fun day => ?_⟩
    · obtain ⟨-, rfl⟩ : past = before ∧ call = other := by simpa using heq
      refine ⟨_, rfl, rfl, ?_⟩
      rw [usagesOn_concat, if_pos ⟨rfl, hmem⟩]
      simp [usageText]
    · rw [reportedOn_concat, usagesOn_concat, hup.reported day]
      by_cases hday : localtime call.now = day
      · subst hday
        rw [if_pos rfl, if_pos ⟨rfl, hmem⟩]
      · rw [if_neg hday, if_neg fun h => hday h.1]

/-- If every call clears the file exactly when the day has changed, the file has the usages of the
    day. -/
private theorem upToDate_of_fits {calls : List UsageCall}
    (hanswers : ∀ call ∈ calls, AnswersSucceed call)
    (horder : InOrder localtime calls)
    (hfits : ∀ past call, past ++ [call] <+: calls → CallFits localtime past call) :
    UpToDate localtime calls (reportCmdUsages localtime calls) := by
  induction calls using List.reverseRecOn with
  | nil => exact ⟨fun _ => rfl, by simp, fun _ => rfl⟩
  | append_singleton past call ih =>
    apply step_keeps (hanswers call (by simp)) horder
    · apply ih
      · exact fun other hother => hanswers other (List.mem_append_left _ hother)
      · exact (List.pairwise_append.mp horder).1
      · exact fun before other hpre =>
          hfits before other (hpre.trans (List.prefix_append _ _))
    · exact hfits past call (List.prefix_refl _)

/-- In a file with usages the test for a new day decides whether the file is emptied. -/
private theorem clears_iff {past : List UsageCall} {call : UsageCall} {file : UsageFile}
    (hanswers : AnswersSucceed call) (horder : InOrder localtime (past ++ [call]))
    (hup : UpToDate localtime past (reportCmdUsages localtime past))
    (hfile : (reportCmdUsages localtime past).file = some file) :
    ((clearHisyseventTmpFile localtime call (some file)).map UsageFile.content = some [] ↔
        (localtime file.lastWriteTime).IsBefore (localtime call.now)) ↔
      DayTestFits localtime file.lastWriteTime call.now := by
  rcases List.eq_nil_or_concat' past with rfl | ⟨before, last, rfl⟩
  · rw [hup.noFile rfl] at hfile
    exact nomatch hfile
  obtain ⟨file', hfile', hlast, hcontent⟩ := hup.file before last rfl
  rw [hfile, Option.some.injEq] at hfile'
  subst hfile'
  have hdays : ¬(localtime call.now).IsBefore (localtime file.lastWriteTime) := by
    rw [hlast]
    exact ((List.pairwise_append.mp horder).2.2 last (by simp) call (by simp)).2
  -- The usage of the last call is in the file.
  have hmem : usageOf last.param ∈ usagesOn localtime (localtime last.now) (before ++ [last]) :=
    mem_usagesOn.mpr ⟨last, by simp, rfl, rfl⟩
  have hne : file.content ≠ [] := by
    rw [hcontent, usageText, Ne, List.flatMap_eq_nil_iff]
    exact fun hnil => Usage.cStr_line_ne_nil _ (hnil _ hmem)
  rw [dayTestFits_iff hdays, clearHisyseventTmpFile_eq hanswers]
  split <;> simp_all

/-- The line of the call is found as it should if the usage is reported once on its day. -/
private theorem line_fits_of_count {past : List UsageCall} {call : UsageCall}
    (hanswers : AnswersSucceed call) (horder : InOrder localtime (past ++ [call]))
    (hup : UpToDate localtime past (reportCmdUsages localtime past))
    (hday : ∀ file, (reportCmdUsages localtime past).file = some file →
      DayTestFits localtime file.lastWriteTime call.now)
    (hcount : (reportedOn localtime (localtime call.now)
      (reportCmdUsages localtime (past ++ [call])).events).count (usageOf call.param) = 1) :
    (usageOf call.param).line <:+: usageText (usagesOn localtime (localtime call.now) past) ↔
      usageOf call.param ∈ usagesOn localtime (localtime call.now) past := by
  obtain ⟨-, hcontent⟩ := openedFile_upToDate hanswers horder hup hday
  rw [reportCmdUsages_concat, reportCmdUsage_eq hanswers, hcontent] at hcount
  split at hcount
  · rename_i hfound
    rw [hup.reported] at hcount
    have hpos : 0 < (usagesOn localtime (localtime call.now) past).count (usageOf call.param) := by
      omega
    exact iff_of_true hfound (List.count_pos_iff.mp hpos)
  · -- The event of this call is the one of the day, so there was none before.
    rename_i hfound
    rw [reportedOn_concat, if_pos rfl, hup.reported, List.count_append,
      List.count_singleton_self] at hcount
    have hzero : (usagesOn localtime (localtime call.now) past).count (usageOf call.param) = 0 := by
      omega
    exact iff_of_false hfound (List.count_eq_zero.mp hzero)

/-- A run in which nothing fails empties the file on each new day, and reports each usage
    once a day, if and only if at each call the test for a new day fits and the search for
    the line tells whether the usage is one of the day. -/
theorem reportsDaily_iff (localtime : Int → Tm) (calls : List UsageCall)
    (hanswers : ∀ call ∈ calls, AnswersSucceed call) (horder : InOrder localtime calls) :
    ReportsDaily localtime calls ↔
      ∀ past call, past ++ [call] <+: calls → CallFits localtime past call := by
  constructor
  · -- Induction on the run: what came before was right, so the state is known.
    intro hdaily
    induction calls using List.reverseRecOn with
    | nil => simp
    | append_singleton calls last ih =>
      have hinit : calls <+: calls ++ [last] := List.prefix_append _ _
      have hfits := ih (fun call hcall => hanswers call (List.mem_append_left _ hcall))
        (List.pairwise_append.mp horder).1
        ⟨fun past call hpre => hdaily.clears past call (hpre.trans hinit),
          fun past hpre => hdaily.once past (hpre.trans hinit)⟩
      intro past call hpre
      rcases List.prefix_concat_iff.mp hpre with heq | hpre
      · obtain ⟨rfl, rfl⟩ : past = calls ∧ call = last := by simpa using heq
        have hsucceed := hanswers call (by simp)
        have hup := upToDate_of_fits
          (fun other hother => hanswers other (List.mem_append_left _ hother))
          (List.pairwise_append.mp horder).1 hfits
        have hday := fun file hfile => (clears_iff hsucceed horder hup hfile).mp
          (hdaily.clears past call hpre file hfile)
        refine ⟨hday, line_fits_of_count hsucceed horder hup hday ?_⟩
        rw [hdaily.once (past ++ [call]) hpre, if_pos ⟨call, by simp, rfl, rfl⟩]
      · exact hfits past call hpre
  -- Conversely the state is known after every prefix of the run.
  · intro hfits
    have hup : ∀ past, past <+: calls →
        UpToDate localtime past (reportCmdUsages localtime past) := by
      intro past hpast
      apply upToDate_of_fits
      · exact fun call hcall => hanswers call (hpast.subset hcall)
      · exact horder.sublist hpast.sublist
      · exact fun before call hpre => hfits before call (hpre.trans hpast)
    refine ⟨fun past call hpre file hfile => ?_, fun past hpast day usage => ?_⟩
    · have hpast : past <+: calls := (List.prefix_append _ _).trans hpre
      exact (clears_iff (hanswers call (hpre.subset (by simp)))
        (horder.sublist hpre.sublist) (hup past hpast) hfile).mpr
        ((hfits past call hpre).day file hfile)
    · rw [(hup past hpast).reported, List.Nodup.count (nodup_usagesOn day past)]
      exact if_congr mem_usagesOn rfl rfl

/-! ## The end of a month -/

/-- The date in UTC: the days since 1970 counted in cycles of 400 years that begin with
    March. -/
def gmtime (time : Int) : Tm :=
  let days := time / 86400 + 719468
  let cycle := days / 146097
  let dayOfCycle := days % 146097
  let year := (dayOfCycle - dayOfCycle / 1460 + dayOfCycle / 36524 - dayOfCycle / 146096) / 365
  let dayOfYear := dayOfCycle - (365 * year + year / 4 - year / 100)
  let month := (5 * dayOfYear + 2) / 153
  { year := year + cycle * 400 + (if month < 10 then 0 else 1) - 1900
    mon := if month < 10 then month + 2 else month - 10
    mday := dayOfYear - (153 * month + 2) / 5 + 1 }

/-- The same usage on the evening of 31 January 2026 and two hours later. -/
def monthEndCalls : List UsageCall :=
  [{ param := { opt := "mem" }, now := 1769900400 },
   { param := { opt := "mem" }, now := 1769907600 }]

/-- The usage is not reported on 1 February: the file still has the line of January. -/
theorem not_reportsDaily_monthEnd :
    (∀ call ∈ monthEndCalls, AnswersSucceed call) ∧ InOrder gmtime monthEndCalls ∧
      ¬ReportsDaily gmtime monthEndCalls := by
  refine ⟨by decide, by decide, fun hdaily => ?_⟩
  have hcount := hdaily.once monthEndCalls (List.prefix_refl _) ⟨126, 1, 1⟩ (.option "mem" "")
  rw [if_pos (by decide)] at hcount
  exact absurd hcount (by decide +kernel)

/-- The same usage on the evening of 30 January 2026 and two hours later. -/
theorem reportsDaily_midMonth :
    ReportsDaily gmtime
      [{ param := { opt := "mem" }, now := 1769814000 },
       { param := { opt := "mem" }, now := 1769821200 }] := by
  refine (reportsDaily_iff gmtime _ (by decide) (by decide)).mpr fun past call hpre => ?_
  rcases List.prefix_concat_iff.mp (show past ++ [call] <+: [_] ++ [_] from hpre) with heq | hone
  · obtain ⟨rfl, rfl⟩ := List.append_inj' heq rfl |>.imp_right List.singleton_inj.mp
    refine ⟨fun file hfile => ?_, by decide +kernel⟩
    obtain rfl : _ = file := Option.some.inj hfile
    exact ⟨by decide +kernel, by decide +kernel⟩
  · obtain rfl : past = [] := by
      have hlength := hone.length_le
      rw [List.length_append, List.length_singleton, List.length_singleton] at hlength
      exact List.eq_nil_of_length_eq_zero (by omega)
    obtain rfl := List.singleton_inj.mp (hone.eq_of_length rfl)
    exact ⟨fun file hfile => (nomatch hfile), by decide +kernel⟩

end Run

end HiDumper.Spec
