import HiDumper.ForStd.Runs
import HiDumper.Native.MemoryInterval

/-!
# Stop requests of interval sessions

All sessions of the process test one flag; a stop request clears it and the first
session that leaves sets it again. A session follows the stop requests made since it
began as long as none begins while a stop is pending and none sets the flag again
while another is still in its loop.

## Key results

- `step_flagInv`: under these conditions the flag says, for every session in its loop,
  whether a stop came since it began
- `run_loopTest_iff`: a loop test fails exactly after such a stop
-/

namespace HiDumper.Spec

open HiDumper.Native IntervalSessions

/-- Whether a stop came since the last time `thread` began a session. -/
def stopSince (thread : Nat) (actions : List IntervalSessions.Action) : Bool :=
  actions.foldl (fun stopped a =>
    match a with
    | .start t => if t = thread then false else stopped
    | .stop => true
    | _ => stopped) false

/-- The session of `thread` has not left its loop. -/
def InLoop (s : IntervalSessions) (thread : Nat) : Prop :=
  s.sessions.lookup thread = some .testing ∨ s.sessions.lookup thread = some .sampling

/-- The flag tells every session in its loop whether it was stopped. -/
def FlagInv (past : List IntervalSessions.Action) (s : IntervalSessions) : Prop :=
  ∀ thread, InLoop s thread → s.isDumpMem = !stopSince thread past

/-- A session begins while no stop is pending, and sets the flag again while no other
    session is in its loop. -/
def ReachesAll (s : IntervalSessions) : IntervalSessions.Action → Prop
  | .start _ => s.isDumpMem = true
  | .reset _ => ∀ thread, ¬ InLoop s thread
  | _ => True

/-- What one session does leaves the others in their loops. -/
private theorem inLoop_insert_of_ne {s : IntervalSessions} {thread t : Nat} {phase : SessionPhase}
    {flag : Bool} (ht : t ≠ thread) :
    InLoop ⟨flag, s.sessions.insert thread phase⟩ t ↔ InLoop s t := by
  unfold InLoop
  rw [AList.lookup_insert_ne ht]

/-- A session that moves on within its loop was in it before. -/
private theorem inLoop_of_insert {s : IntervalSessions} {thread t : Nat} {old phase : SessionPhase}
    {flag : Bool} (hold : s.sessions.lookup thread = some old) (hphase : old ≠ .leaving)
    (h : InLoop ⟨flag, s.sessions.insert thread phase⟩ t) : InLoop s t := by
  by_cases ht : t = thread
  · unfold InLoop
    rw [ht, hold]
    cases old with
    | testing => exact .inl rfl
    | sampling => exact .inr rfl
    | leaving => exact absurd rfl hphase
  · exact (inLoop_insert_of_ne ht).mp h

/-- Step lemma. -/
theorem step_flagInv (past : List IntervalSessions.Action) (s : IntervalSessions)
    (a : IntervalSessions.Action) (s' : IntervalSessions) (h : FlagInv past s)
    (hok : ReachesAll s a) (hstep : s.step a = some s') : FlagInv (past ++ [a]) s' := by
  intro t ht
  cases a with
  | start thread =>
    simp only [step] at hstep
    split at hstep
    · exact nomatch hstep
    · rw [Option.some.injEq] at hstep
      subst hstep
      simp only [stopSince, List.foldl_append, List.foldl_cons, List.foldl_nil]
      split
      · exact hok
      · rename_i hne
        exact h t ((inLoop_insert_of_ne fun heq => hne heq.symm).mp ht)
  | loopTest thread =>
    simp only [step] at hstep
    split at hstep
    · rename_i hphase
      rw [Option.some.injEq] at hstep
      subst hstep
      simpa [stopSince] using h t (inLoop_of_insert hphase (by decide) ht)
    · exact nomatch hstep
  | sample thread =>
    simp only [step] at hstep
    split at hstep
    · rename_i hphase
      rw [Option.some.injEq] at hstep
      subst hstep
      simpa [stopSince] using h t (inLoop_of_insert hphase (by decide) ht)
    · exact nomatch hstep
  | reset thread =>
    simp only [step] at hstep
    split at hstep
    · rename_i hphase
      rw [Option.some.injEq] at hstep
      subst hstep
      -- Nobody is left in its loop.
      unfold InLoop at ht
      by_cases heq : t = thread
      · rw [heq, AList.lookup_erase] at ht
        simp at ht
      · rw [AList.lookup_erase_ne heq] at ht
        exact absurd ht (hok t)
    · exact nomatch hstep
  | stop =>
    simp only [step, Option.some.injEq] at hstep
    subst hstep
    simp [stopSince, setReceivedSigInt]

/-- Along every interleaving of sessions and stop requests that meets the condition, a
    loop test is left exactly when a stop came since the session began, and passed
    exactly when none did. -/
theorem run_loopTest_iff (actions : List IntervalSessions.Action) (s s' : IntervalSessions)
    (hok : Runs.AllSteps IntervalSessions.step ReachesAll .init actions)
    (hrun : Runs.run IntervalSessions.step .init actions = some s) (thread : Nat)
    (htest : s.step (.loopTest thread) = some s') :
    (s'.sessions.lookup thread = some .leaving ↔ stopSince thread actions = true) ∧
      (s'.sessions.lookup thread = some .sampling ↔ stopSince thread actions = false) := by
  have hinit : FlagInv [] .init := fun t ht => by simp [InLoop, init] at ht
  have hinv : FlagInv ([] ++ actions) s :=
    Runs.run_history_invariant step_flagInv hinit hok hrun
  simp only [step] at htest
  split at htest
  · rename_i hphase
    rw [Option.some.injEq] at htest
    subst htest
    have hflag := hinv thread (.inl hphase)
    cases hstop : stopSince thread actions <;> simp [hflag, hstop]
  · exact nomatch htest

/-- One session that takes a sample and is stopped. -/
def stoppedSession : List IntervalSessions.Action :=
  [.start 0, .loopTest 0, .sample 0, .stop]

/-- A session that is stopped and then looks at the flag. -/
theorem run_loopTest_iff_stoppedSession :
    ∃ s s', Runs.run IntervalSessions.step .init stoppedSession = some s ∧
      s.step (.loopTest 0) = some s' ∧ s'.sessions.lookup 0 = some .leaving := by
  refine ⟨_, _, rfl, rfl, ((run_loopTest_iff stoppedSession _ _ ?_ rfl 0 rfl).1).mpr rfl⟩
  exact .cons rfl rfl (.cons trivial rfl (.cons trivial rfl (.cons trivial rfl trivial)))

/-- A stop that comes before any session, and one that comes while two are running: the
    first session of the one run leaves without a stop of its own, the second of the
    other passes its test after the stop. -/
theorem run_stop_stale_and_lost :
    (∃ s s', Runs.run IntervalSessions.step .init [.stop, .start 0] = some s ∧
      s.step (.loopTest 0) = some s' ∧ s'.sessions.lookup 0 = some .leaving ∧
      stopSince 0 [.stop, .start 0] = false) ∧
    ∃ s s', Runs.run IntervalSessions.step .init
        [.start 0, .start 1, .stop, .loopTest 0, .reset 0] = some s ∧
      s.step (.loopTest 1) = some s' ∧ s'.sessions.lookup 1 = some .sampling ∧
      stopSince 1 [.start 0, .start 1, .stop, .loopTest 0, .reset 0] = true :=
  ⟨⟨_, _, rfl, rfl, rfl, rfl⟩, ⟨_, _, rfl, rfl, rfl, rfl⟩⟩

end HiDumper.Spec
