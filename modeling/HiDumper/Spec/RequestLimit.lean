import HiDumper.ForStd.Runs
import HiDumper.Native.DumpManagerService

/-!
# The request limit

`Request` compares the number of registered requests with `REQUEST_MAX` in one
critical section and registers its own in another. What a step can do is said once
in `StepSpec`, and what that means for the two counters involved, registered
requests and admitted ones on their way to `AddRequestRawParam`, in `step_counts`.
The limit holds along a run whose checks all leave room for the requests that are
on their way.

## Key results

- `stepSpec_of_step`: inversion of one step of one thread
- `step_counts`: a step adds at most one admitted request, and only past the check
- `run_requestSum_le`: the limit along every run whose admissions leave room
-/

namespace HiDumper.Spec

open HiDumper.Native DumpManagerService

/-- A call is between the check and the registration. -/
def isAdmitted : RequestPhase → Bool
  | .admitted _ _ => true
  | _ => false

/-- The number of calls between the check and the registration. -/
def admittedSum (s : DumpManagerService) : Nat := s.calls.countVals isAdmitted

/-- The id found is not in use. -/
theorem notMem_of_findRequestId {m : UnorderedMap Nat RawParam} {fuel index id : Nat}
    (h : findRequestId m fuel index = some id) : id ∉ m := by
  induction fuel generalizing index with
  | zero => exact nomatch h
  | succ fuel ih =>
    simp only [findRequestId] at h
    split at h
    · exact ih h
    · rename_i hnot
      rw [Option.some.injEq] at h
      exact h ▸ hnot

/-- What one step can do, with everything the step has checked. -/
inductive StepSpec (s : DumpManagerService) : Action → DumpManagerService → Prop
  | pass (thread : Nat) (call : RequestCall) (hthread : thread ∉ s.calls)
    (hadmits : s.admits call = true) :
    StepSpec s (.request thread call)
      { s with calls := s.calls.insert thread (.admitted call (s.getRequestSum == 0)) }
  | refuse (thread : Nat) (call : RequestCall) : StepSpec s (.request thread call) s
  | init (thread : Nat) (call : RequestCall)
    (hphase : s.calls.lookup thread = some (.admitted call true)) :
    StepSpec s (.logManagerInit thread)
      { s with tmpFolders := [], calls := s.calls.insert thread (.admitted call false) }
  | register (thread : Nat) (call : RequestCall) (rawParam : RawParam)
    (hphase : s.calls.lookup thread = some (.admitted call false))
    (hfresh : rawParam.reqId ∉ s.requestRawParamMap) :
    StepSpec s (.addRequestRawParam thread)
      { s with
        requestIndex := rawParam.reqId
        requestRawParamMap := s.requestRawParamMap.insert rawParam.reqId rawParam
        calls := s.calls.insert thread (.registered rawParam) }
  | create (thread : Nat) (rawParam : RawParam)
    (hphase : s.calls.lookup thread = some (.registered rawParam)) :
    StepSpec s (.createTmpFolder thread)
      { s with
        tmpFolders := s.tmpFolders.insert rawParam.reqId
        calls := s.calls.insert thread (.running rawParam) }
  | erase (thread : Nat) (rawParam : RawParam)
    (hphase : s.calls.lookup thread = some (.running rawParam)) :
    StepSpec s (.eraseTmpFolder thread)
      { s with
        tmpFolders := s.tmpFolders.filter fun id => id ≠ rawParam.reqId
        calls := s.calls.insert thread (.finishing rawParam) }
  | finish (thread : Nat) (rawParam : RawParam)
    (hphase : s.calls.lookup thread = some (.finishing rawParam)) :
    StepSpec s (.eraseRequestRawParam thread)
      { s with
        requestRawParamMap := s.requestRawParamMap.erase rawParam.reqId
        calls := s.calls.erase thread }

/-- Every step is one of these. -/
theorem stepSpec_of_step {s s' : DumpManagerService} {a : Action} (h : s.step a = some s') :
    StepSpec s a s' := by
  cases a with
  | request thread call =>
    simp only [step] at h
    split at h
    · exact nomatch h
    · rename_i hthread
      split at h
      · rename_i hadmits
        rw [Option.some.injEq] at h
        exact h ▸ .pass thread call hthread hadmits
      · rw [Option.some.injEq] at h
        exact h ▸ .refuse thread call
  | logManagerInit thread =>
    simp only [step] at h
    split at h
    · rename_i call hphase
      rw [Option.some.injEq] at h
      exact h ▸ .init thread call hphase
    · exact nomatch h
  | addRequestRawParam thread =>
    simp only [step] at h
    split at h
    · rename_i call hphase
      obtain ⟨⟨rawParam, added⟩, hadd, heq⟩ := Option.map_eq_some_iff.mp h
      obtain ⟨id, hid, hadded⟩ := Option.map_eq_some_iff.mp hadd
      have hfresh := notMem_of_findRequestId hid
      simp only [Prod.mk.injEq] at hadded
      obtain ⟨rfl, rfl⟩ := hadded
      -- The id is unused, so `emplace` inserts.
      rw [AList.emplace, if_neg hfresh] at heq
      subst heq
      exact .register thread call
        ⟨call.callingUid, call.callingPid, id, call.args, call.outfd⟩ hphase hfresh
    · exact nomatch h
  | createTmpFolder thread =>
    simp only [step] at h
    split at h
    · rename_i rawParam hphase
      rw [Option.some.injEq] at h
      exact h ▸ .create thread rawParam hphase
    · exact nomatch h
  | eraseTmpFolder thread =>
    simp only [step] at h
    split at h
    · rename_i rawParam hphase
      rw [Option.some.injEq] at h
      exact h ▸ .erase thread rawParam hphase
    · exact nomatch h
  | eraseRequestRawParam thread =>
    simp only [step] at h
    split at h
    · rename_i rawParam hphase
      rw [Option.some.injEq] at h
      exact h ▸ .finish thread rawParam hphase
    · exact nomatch h

/-- A call that moves on to a phase that is not admitted, or stays admitted. -/
private theorem countAdmitted_insert_le {calls : UnorderedMap Nat RequestPhase} {thread : Nat}
    {old : RequestPhase} (new : RequestPhase) (h : calls.lookup thread = some old)
    (hnew : isAdmitted new = true → isAdmitted old = true) :
    (calls.insert thread new).countVals isAdmitted ≤ calls.countVals isAdmitted := by
  have hcount := AList.countVals_insert_of_lookup isAdmitted new h
  by_cases hadmitted : isAdmitted new = true
  · rw [if_pos hadmitted, if_pos (hnew hadmitted)] at hcount
    omega
  · rw [if_neg hadmitted] at hcount
    omega

/-- What one step does to the numbers of registered and of admitted requests:
    a check that passes adds an admitted one, every other step adds nothing to
    their sum. -/
theorem step_counts {s s' : DumpManagerService} {a : Action} (h : s.step a = some s') :
    (∃ thread call, a = .request thread call ∧ s.admits call = true ∧
      s'.getRequestSum = s.getRequestSum ∧ admittedSum s' = admittedSum s + 1) ∨
    s'.getRequestSum + admittedSum s' ≤ s.getRequestSum + admittedSum s := by
  cases stepSpec_of_step h with
  | pass thread call hthread hadmits =>
    refine .inl ⟨thread, call, rfl, hadmits, rfl, ?_⟩
    exact AList.countVals_insert_of_notMem isAdmitted _ hthread
  | refuse thread call => exact .inr le_rfl
  | init thread call hphase =>
    -- The call stays admitted.
    exact .inr (Nat.add_le_add_left (countAdmitted_insert_le _ hphase fun _ => rfl) _)
  | register thread call rawParam hphase hfresh =>
    -- The request leaves the admitted ones and joins the registered ones.
    have hcount := AList.countVals_insert_of_lookup isAdmitted (.registered rawParam) hphase
    simp only [isAdmitted, ↓reduceIte, Bool.false_eq_true, Nat.add_zero] at hcount
    have hsum : (s.requestRawParamMap.insert rawParam.reqId rawParam).entries.length =
        s.getRequestSum + 1 := by
      rw [AList.entries_insert_of_notMem hfresh, List.length_cons]
      rfl
    right
    show (s.requestRawParamMap.insert rawParam.reqId rawParam).entries.length +
      (s.calls.insert thread (.registered rawParam)).countVals isAdmitted ≤
        s.getRequestSum + s.calls.countVals isAdmitted
    omega
  | create thread rawParam hphase =>
    -- From here on the call is registered, whatever its phase.
    have hcalls := countAdmitted_insert_le (.running rawParam) hphase fun hnew => nomatch hnew
    exact .inr (Nat.add_le_add_left hcalls _)
  | erase thread rawParam hphase =>
    have hcalls := countAdmitted_insert_le (.finishing rawParam) hphase fun hnew => nomatch hnew
    exact .inr (Nat.add_le_add_left hcalls _)
  | finish thread rawParam hphase =>
    have hcount := AList.countVals_erase isAdmitted hphase
    have hcalls : (s.calls.erase thread).countVals isAdmitted ≤ admittedSum s := by
      unfold admittedSum
      omega
    -- Erasing an id that is not there would change nothing.
    have herase : (s.requestRawParamMap.erase rawParam.reqId).entries.length ≤
        s.getRequestSum := List.Sublist.length_le (List.kerase_sublist _ _)
    exact .inr (Nat.add_le_add herase hcalls)

/-- A request that passes the check finds room not only among the registered
    requests but also for those that are on their way to be registered. -/
def AdmitsWithRoom (s : DumpManagerService) : Action → Prop
  | .request _ call =>
    s.admits call = true → s.getRequestSum + admittedSum s < requestMax
  | _ => True

/-- Step lemma: with room at every check the sum of both numbers stays within the limit. -/
private theorem step_sum_le (s : DumpManagerService) (a : Action) (s' : DumpManagerService)
    (h : s.getRequestSum + admittedSum s ≤ requestMax) (hok : AdmitsWithRoom s a)
    (hstep : s.step a = some s') : s'.getRequestSum + admittedSum s' ≤ requestMax := by
  rcases step_counts hstep with ⟨thread, call, rfl, hadmits, hsum, hadmitted⟩ | hle
  · have hroom := hok hadmits
    omega
  · omega

/-- Along every interleaving of requests whose checks leave room for the requests
    already admitted, at most `REQUEST_MAX` requests are registered. -/
theorem run_requestSum_le (actions : List Action) (s : DumpManagerService)
    (hok : Runs.AllSteps DumpManagerService.step AdmitsWithRoom .init actions)
    (hrun : Runs.run DumpManagerService.step .init actions = some s) :
    s.getRequestSum ≤ requestMax := by
  have hsum : s.getRequestSum + admittedSum s ≤ requestMax :=
    Runs.run_invariant step_sum_le (by decide) hok hrun
  omega

/-- A root shell that asks for everything. -/
def shellCall : RequestCall := ⟨["hidumper"], 1, 0, 100, true⟩

/-- One request after the other: each is registered before the next check. -/
def sequentialRequests : List Action :=
  [.request 0 shellCall, .logManagerInit 0, .addRequestRawParam 0,
    .request 1 shellCall, .addRequestRawParam 1, .createTmpFolder 1]

/-- Requests one after the other stay below the limit. -/
theorem run_requestSum_le_sequential :
    ∃ s, Runs.run DumpManagerService.step .init sequentialRequests = some s ∧
      s.getRequestSum ≤ requestMax := by
  refine ⟨_, rfl, run_requestSum_le sequentialRequests _ ?_ rfl⟩
  refine .cons (fun _ => by decide) rfl (.cons trivial rfl (.cons trivial rfl ?_))
  exact .cons (fun _ => by decide) rfl (.cons trivial rfl (.cons trivial rfl trivial))

/-- Six requests that all pass the check before any of them is registered. -/
def sixRequests : List Action :=
  (List.range 6).map (fun thread => .request thread shellCall) ++
    (List.range 6).map (fun thread => .logManagerInit thread) ++
    (List.range 6).map (fun thread => .addRequestRawParam thread)

/-- All six end up registered. -/
theorem run_sixRequests_exceeds :
    ∃ s, Runs.run DumpManagerService.step .init sixRequests = some s ∧
      s.getRequestSum = 6 ∧ requestMax < s.getRequestSum :=
  ⟨_, rfl, by decide, by decide⟩

end HiDumper.Spec
