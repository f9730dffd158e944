import HiDumper.Spec.RequestLimit

/-!
# Temporary folders of running requests

A request owns the folder `TMP_FOLDER/<id>` from `CreateTmpFolder` to its
`EraseTmpFolder`. Two steps of other requests remove folders: `EraseTmpFolder`,
which is harmless because the ids of registered requests are distinct, and
`DumpLogManager::Init`, which empties `TMP_FOLDER` and is taken by every call that
read a request count of 0, however long ago.

## Key results

- `step_folderInv`: distinct ids and present folders are kept by every step but an
  `Init` beside a running request
- `run_tmpFolder_kept`: along such runs only a request's own `EraseTmpFolder` removes
  its folder
-/

namespace HiDumper.Spec

open HiDumper.Native DumpManagerService

/-- The request a call has registered, from `AddRequestRawParam` to its end. -/
def heldParam : RequestPhase → Option RawParam
  | .admitted _ _ => none
  | .registered rawParam => some rawParam
  | .running rawParam => some rawParam
  | .finishing rawParam => some rawParam

/-- The call of `thread` has registered `rawParam`. -/
def Holds (s : DumpManagerService) (thread : Nat) (rawParam : RawParam) : Prop :=
  (s.calls.lookup thread).bind heldParam = some rawParam

/-- The call of `thread` is between `CreateTmpFolder` and `EraseTmpFolder`. -/
def IsRunning (s : DumpManagerService) (thread : Nat) (rawParam : RawParam) : Prop :=
  s.calls.lookup thread = some (.running rawParam)

/-- Calls hold requests with distinct registered ids, and running ones have their folder. -/
structure FolderInv (s : DumpManagerService) : Prop where
  registered : ∀ thread rawParam, Holds s thread rawParam →
    rawParam.reqId ∈ s.requestRawParamMap
  distinct : ∀ thread thread' rawParam rawParam', Holds s thread rawParam →
    Holds s thread' rawParam' → rawParam.reqId = rawParam'.reqId → thread = thread'
  folder : ∀ thread rawParam, IsRunning s thread rawParam → rawParam.reqId ∈ s.tmpFolders

/-- A request that runs has its folder. -/
theorem IsRunning.holds {s : DumpManagerService} {thread : Nat} {rawParam : RawParam}
    (h : IsRunning s thread rawParam) : Holds s thread rawParam := by
  unfold Holds
  rw [h]
  rfl

/-- A new service has no folders. -/
private theorem init_folderInv : FolderInv .init where
  registered _ _ h := nomatch h
  distinct _ _ _ _ h := nomatch h
  folder _ _ h := nomatch h

/-- A call that moves on holds what its new phase says; the others hold what they held. -/
private theorem holds_insert_iff {s s' : DumpManagerService} {thread : Nat} {phase : RequestPhase}
    (hcalls : s'.calls = s.calls.insert thread phase) (t : Nat) (rawParam : RawParam) :
    Holds s' t rawParam ↔
      if t = thread then heldParam phase = some rawParam else Holds s t rawParam := by
  unfold Holds
  rw [hcalls]
  by_cases ht : t = thread
  · rw [ht, AList.lookup_insert, if_pos rfl]
    rfl
  · rw [AList.lookup_insert_ne ht, if_neg ht]

/-- A call that moves on without changing what it holds. -/
private theorem holds_insert_of_lookup {s s' : DumpManagerService} {thread : Nat}
    {old phase : RequestPhase} (hphase : s.calls.lookup thread = some old)
    (hcalls : s'.calls = s.calls.insert thread phase) (hheld : heldParam phase = heldParam old)
    (t : Nat) (rawParam : RawParam) : Holds s' t rawParam ↔ Holds s t rawParam := by
  rw [holds_insert_iff hcalls]
  split
  · rename_i ht
    subst ht
    unfold Holds
    rw [hphase, hheld]
    rfl
  · rfl

/-- What one request does leaves the others running. -/
private theorem isRunning_insert_of_ne {s s' : DumpManagerService} {thread : Nat}
    {phase : RequestPhase}
    (hcalls : s'.calls = s.calls.insert thread phase)
    (hphase : ∀ rawParam, phase ≠ .running rawParam) {t : Nat} {rawParam : RawParam}
    (h : IsRunning s' t rawParam) : t ≠ thread ∧ IsRunning s t rawParam := by
  unfold IsRunning at h ⊢
  rw [hcalls] at h
  by_cases ht : t = thread
  · rw [ht, AList.lookup_insert, Option.some.injEq] at h
    exact absurd h (hphase rawParam)
  · rw [AList.lookup_insert_ne ht] at h
    exact ⟨ht, h⟩

/-- A step that changes neither what calls hold nor the registered requests keeps the
    invariant as soon as running requests keep their folders. -/
theorem FolderInv.of_holds_iff {s s' : DumpManagerService} (h : FolderInv s)
    (hholds : ∀ t rawParam, Holds s' t rawParam ↔ Holds s t rawParam)
    (hmap : s'.requestRawParamMap = s.requestRawParamMap)
    (hfolder : ∀ t rawParam, IsRunning s' t rawParam → rawParam.reqId ∈ s'.tmpFolders) :
    FolderInv s' where
  registered t rawParam ht := hmap ▸ h.registered t rawParam ((hholds t rawParam).mp ht)
  distinct t t' rawParam rawParam' ht ht' :=
    h.distinct t t' rawParam rawParam' ((hholds t rawParam).mp ht) ((hholds t' rawParam').mp ht')
  folder := hfolder

/-- A running call goes on running while another thread's call moves on. -/
theorem IsRunning.insert {s : DumpManagerService} {thread t : Nat} {rawParam : RawParam}
    {old : Option RequestPhase} (phase : RequestPhase) (h : IsRunning s t rawParam)
    (hthread : s.calls.lookup thread = old) (hold : old ≠ some (.running rawParam)) :
    (s.calls.insert thread phase).lookup t = some (.running rawParam) := by
  have hne : t ≠ thread := fun heq => hold (hthread ▸ heq ▸ h)
  rw [AList.lookup_insert_ne hne]
  exact h

/-- A running request is taken out of the running ones by its own `EraseTmpFolder` only. -/
theorem IsRunning.step {s s' : DumpManagerService} {a : Action} {t : Nat} {rawParam : RawParam}
    (h : IsRunning s t rawParam) (hstep : s.step a = some s') (hown : a ≠ .eraseTmpFolder t) :
    IsRunning s' t rawParam := by
  cases stepSpec_of_step hstep with
  | pass thread call hthread hadmits =>
    exact h.insert _ (AList.lookup_eq_none.mpr hthread) nofun
  | refuse thread call => exact h
  | init thread call hphase => exact h.insert _ hphase nofun
  | register thread call rawParam hphase hfresh => exact h.insert _ hphase nofun
  | create thread rawParam hphase => exact h.insert _ hphase nofun
  -- Only the owner's own call takes its folder away.
  | erase thread rawParam hphase =>
    have hne : t ≠ thread := fun heq => hown (by rw [heq])
    show (s.calls.insert thread _).lookup t = _
    rw [AList.lookup_insert_ne hne]
    exact h
  | finish thread rawParam hphase =>
    have hne : t ≠ thread := by
      rintro rfl
      exact nomatch hphase.symm.trans h
    show (s.calls.erase thread).lookup t = _
    rw [AList.lookup_erase_ne hne]
    exact h

/-- `DumpLogManager::Init` finds no request between `CreateTmpFolder` and `EraseTmpFolder`. -/
def InitsAlone (s : DumpManagerService) : Action → Prop
  | .logManagerInit _ => ∀ thread rawParam, ¬ IsRunning s thread rawParam
  | _ => True

/-- Registration takes an id that no call holds. -/
theorem FolderInv.register {s s' : DumpManagerService} (h : FolderInv s) {thread : Nat}
    {rawParam : RawParam} (hfresh : rawParam.reqId ∉ s.requestRawParamMap)
    (hmap : s'.requestRawParamMap = s.requestRawParamMap.insert rawParam.reqId rawParam)
    (hcalls : s'.calls = s.calls.insert thread (.registered rawParam))
    (hfolders : s'.tmpFolders = s.tmpFolders) : FolderInv s' := by
  -- What a thread holds afterwards is the new request, or what it held before.
  have hcases : ∀ t param, Holds s' t param →
      (t = thread ∧ param = rawParam) ∨ (t ≠ thread ∧ Holds s t param) := by
    intro t param ht
    rw [holds_insert_iff hcalls] at ht
    split at ht
    · rename_i heq
      exact .inl ⟨heq, (Option.some.inj ht).symm⟩
    · rename_i hne
      exact .inr ⟨hne, ht⟩
  constructor
  · intro t param ht
    rw [hmap, AList.mem_insert]
    obtain ⟨-, rfl⟩ | ⟨-, hold⟩ := hcases t param ht
    · exact .inl rfl
    · exact .inr (h.registered t param hold)
  · intro t t' param param' ht ht' hid
    obtain ⟨rfl, rfl⟩ | ⟨-, hold⟩ := hcases t param ht
    · obtain ⟨rfl, -⟩ | ⟨-, hold'⟩ := hcases t' param' ht'
      · rfl
      · exact absurd (hid ▸ h.registered t' param' hold') hfresh
    · obtain ⟨rfl, rfl⟩ | ⟨-, hold'⟩ := hcases t' param' ht'
      · exact absurd (hid ▸ h.registered t param hold) hfresh
      · exact h.distinct t t' param param' hold hold' hid
  · intro t param ht
    obtain ⟨-, hold⟩ := isRunning_insert_of_ne hcalls (by nofun) ht
    exact hfolders ▸ h.folder t param hold

/-- Step lemma. -/
theorem step_folderInv (s : DumpManagerService) (a : Action) (s' : DumpManagerService)
    (h : FolderInv s) (hok : InitsAlone s a) (hstep : s.step a = some s') : FolderInv s' := by
  cases stepSpec_of_step hstep with
  | pass thread call hthread hadmits =>
    -- The new call holds nothing.
    have hholds : ∀ t param, Holds { s with
        calls := s.calls.insert thread (.admitted call (s.getRequestSum == 0)) } t param ↔
        Holds s t param := by
      intro t param
      rw [holds_insert_iff rfl]
      split
      · rename_i ht
        unfold Holds
        rw [ht, AList.lookup_eq_none.mpr hthread]
        rfl
      · rfl
    refine h.of_holds_iff hholds rfl fun t param ht => ?_
    exact h.folder t param (isRunning_insert_of_ne rfl (by nofun) ht).2
  | refuse thread call => exact h
  | init thread call hphase =>
    refine h.of_holds_iff (holds_insert_of_lookup hphase rfl rfl) rfl fun t param ht => ?_
    exact absurd (isRunning_insert_of_ne rfl (by nofun) ht).2 (hok t param)
  | register thread call rawParam hphase hfresh => exact h.register hfresh rfl rfl rfl
  | create thread rawParam hphase =>
    refine h.of_holds_iff (holds_insert_of_lookup hphase rfl rfl) rfl fun t param ht => ?_
    show param.reqId ∈ s.tmpFolders.insert rawParam.reqId
    rw [List.mem_insert_iff]
    unfold IsRunning at ht
    by_cases heq : t = thread
    · rw [heq, AList.lookup_insert, Option.some.injEq, RequestPhase.running.injEq] at ht
      exact .inl (by rw [ht])
    · rw [AList.lookup_insert_ne heq] at ht
      exact .inr (h.folder t param ht)
  | erase thread rawParam hphase =>
    refine h.of_holds_iff (holds_insert_of_lookup hphase rfl rfl) rfl fun t param ht => ?_
    obtain ⟨hne, hold⟩ := isRunning_insert_of_ne rfl (by nofun) ht
    -- Another running request has another id.
    have hid : param.reqId ≠ rawParam.reqId := fun hid =>
      hne (h.distinct t thread param rawParam hold.holds (IsRunning.holds hphase) hid)
    exact List.mem_filter.mpr ⟨h.folder t param hold, by simpa using hid⟩
  | finish thread rawParam hphase =>
    have hmine : Holds s thread rawParam := by
      unfold Holds
      rw [hphase]
      rfl
    have hcases : ∀ t param, Holds { s with
        requestRawParamMap := s.requestRawParamMap.erase rawParam.reqId
        calls := s.calls.erase thread } t param → t ≠ thread ∧ Holds s t param := by
      intro t param ht
      unfold Holds at ht ⊢
      by_cases heq : t = thread
      · rw [heq, AList.lookup_erase] at ht
        exact nomatch ht
      · rw [AList.lookup_erase_ne heq] at ht
        exact ⟨heq, ht⟩
    constructor
    · intro t param ht
      obtain ⟨hne, hold⟩ := hcases t param ht
      rw [AList.mem_erase]
      exact ⟨fun hid => hne (h.distinct t thread param rawParam hold hmine hid),
        h.registered t param hold⟩
    · intro t t' param param' ht ht'
      exact h.distinct t t' param param' (hcases t param ht).2 (hcases t' param' ht').2
    · intro t param ht
      unfold IsRunning at ht
      by_cases heq : t = thread
      · rw [heq, AList.lookup_erase] at ht
        exact nomatch ht
      · rw [AList.lookup_erase_ne heq] at ht
        exact h.folder t param ht

/-- Along every interleaving of requests in which `DumpLogManager::Init` never meets a
    running request, the folder of a running request is there, and no next step but the
    request's own `EraseTmpFolder` removes it. -/
theorem run_tmpFolder_kept (actions : List Action) (s : DumpManagerService)
    (hok : Runs.AllSteps DumpManagerService.step InitsAlone .init actions)
    (hrun : Runs.run DumpManagerService.step .init actions = some s)
    (thread : Nat) (rawParam : RawParam) (hrunning : IsRunning s thread rawParam) :
    rawParam.reqId ∈ s.tmpFolders ∧
      ∀ a s', InitsAlone s a → s.step a = some s' → a ≠ .eraseTmpFolder thread →
        rawParam.reqId ∈ s'.tmpFolders := by
  have hinv : FolderInv s := Runs.run_invariant step_folderInv init_folderInv hok hrun
  refine ⟨hinv.folder thread rawParam hrunning, fun a s' hoka hstep hown => ?_⟩
  have hinv' := step_folderInv s a s' hinv hoka hstep
  exact hinv'.folder thread rawParam (hrunning.step hstep hown)

/-- A request that runs to its dump beside a second one that is admitted later. -/
def laterRequest : List Action :=
  [.request 0 shellCall, .logManagerInit 0, .addRequestRawParam 0, .createTmpFolder 0,
    .request 1 shellCall, .addRequestRawParam 1]

/-- The first of two requests keeps its folder. -/
theorem run_tmpFolder_kept_later :
    ∃ s, Runs.run DumpManagerService.step .init laterRequest = some s ∧
      IsRunning s 0 ⟨0, 100, 1, ["hidumper"], 1⟩ ∧ 1 ∈ s.tmpFolders := by
  refine ⟨_, rfl, rfl, (run_tmpFolder_kept laterRequest _ ?_ rfl 0
    ⟨0, 100, 1, ["hidumper"], 1⟩ rfl).1⟩
  refine .cons trivial rfl (.cons (fun thread rawParam h => ?_) rfl ?_)
  · -- The only call is still admitted.
    unfold IsRunning at h
    by_cases ht : thread = 0
    · subst ht
      exact nomatch h
    · rw [AList.lookup_insert_ne ht] at h
      exact nomatch h
  · exact .cons trivial rfl (.cons trivial rfl (.cons trivial rfl (.cons trivial rfl trivial)))

/-- Two requests that both read a count of 0; the second reaches `Init` when the first
    has created its folder. -/
def twoIdleRequests : List Action :=
  [.request 0 shellCall, .request 1 shellCall, .logManagerInit 0, .addRequestRawParam 0,
    .createTmpFolder 0]

/-- The `Init` of the second removes the folder of the first. -/
theorem run_twoIdleRequests_removes :
    ∃ s s', Runs.run DumpManagerService.step .init twoIdleRequests = some s ∧
      IsRunning s 0 ⟨0, 100, 1, ["hidumper"], 1⟩ ∧ 1 ∈ s.tmpFolders ∧
      s.step (.logManagerInit 1) = some s' ∧
      IsRunning s' 0 ⟨0, 100, 1, ["hidumper"], 1⟩ ∧ 1 ∉ s'.tmpFolders :=
  ⟨_, _, rfl, rfl, by decide, rfl, rfl, by decide⟩

end HiDumper.Spec
