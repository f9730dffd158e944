import Mathlib.Data.List.Perm.Subperm
import HiDumper.Spec.RequestLimit

/-!
# Request ids

`AddRequestRawParam` takes the next values of a counter modulo `REQUESTID_MAX` until it
finds one that is not in use. As long as fewer requests than ids are registered it finds
one: a full round of the counter visits every id. So the requests that are registered
have distinct ids at every moment, whatever was added and erased before, and each has a
folder of its own.

A run here is a sequence of `AddRequestRawParam` and `EraseRequestRawParam` calls, each
erasing a request that was added and is not erased yet, as `RequestMain` does.

## Key results

- `mem_of_findRequestId_eq_none`: the ids a failed search has visited
- `exists_findRequestId`: the covering argument
- `run_requestIds`: all runs
-/

namespace HiDumper.Spec

open HiDumper.Native DumpManagerService DumpLogManager

/-! ## The search -/

/-- A search that finds nothing has visited as many ids as it made tries. -/
theorem mem_of_findRequestId_eq_none {m : UnorderedMap Nat RawParam} {fuel index : Nat}
    (h : findRequestId m fuel index = none) {k : Nat} (hk : k < fuel) :
    (index + 1 + k) % requestIdMax ∈ m := by
  induction fuel generalizing index k with
  | zero => omega
  | succ fuel ih =>
    simp only [findRequestId] at h
    split at h
    · rename_i hmem
      cases k with
      | zero => exact hmem
      | succ k =>
        -- The rest of the search starts from the id of this try.
        have hnext := ih h (show k < fuel by omega)
        have hid : (getRequestId index + 1 + k) % requestIdMax =
            (index + 1 + (k + 1)) % requestIdMax := by
          unfold getRequestId requestIdMax
          omega
        rwa [hid] at hnext
    · cases h

/-- Within a full round the counter takes every value. -/
private theorem exists_tries (index : Nat) {id : Nat} (h : id < requestIdMax) :
    ∃ k < requestIdMax, (index + 1 + k) % requestIdMax = id := by
  unfold requestIdMax at h ⊢
  refine ⟨(id + (100000 - (index + 1) % 100000)) % 100000, ?_, ?_⟩
  · omega
  · omega

/-- With fewer requests than ids the search ends with an id. -/
theorem exists_findRequestId {m : UnorderedMap Nat RawParam}
    (hroom : m.entries.length < requestIdMax) (index : Nat) :
    ∃ id, findRequestId m requestIdMax index = some id := by
  cases hfind : findRequestId m requestIdMax index with
  | some id => exact ⟨id, rfl⟩
  | none =>
    -- All ids would be registered, more than there are requests.
    have hall : List.range requestIdMax ⊆ m.keys := by
      intro id hid
      obtain ⟨k, hk, hid⟩ := exists_tries index (List.mem_range.mp hid)
      rw [← hid]
      exact AList.mem_keys.mp (mem_of_findRequestId_eq_none hfind hk)
    have hlength := (List.subperm_of_subset List.nodup_range hall).length_le
    rw [List.length_range, show m.keys.length = m.entries.length from List.length_map _] at hlength
    omega

/-- An id that is found is in range. -/
private theorem lt_of_findRequestId {m : UnorderedMap Nat RawParam} {fuel index id : Nat}
    (h : findRequestId m fuel index = some id) : id < requestIdMax := by
  induction fuel generalizing index with
  | zero => exact nomatch h
  | succ fuel ih =>
    simp only [findRequestId] at h
    split at h
    · exact ih h
    · rw [Option.some.injEq] at h
      rw [← h]
      exact Nat.mod_lt _ (by decide)

/-! ## Adding and erasing -/

/-- What one `AddRequestRawParam` does when there is room. -/
theorem addRequestRawParam_spec (s : DumpManagerService) (call : RequestCall)
    (hroom : s.getRequestSum < requestIdMax) :
    ∃ rawParam s', s.addRequestRawParam call = some (rawParam, s') ∧
      rawParam.reqId < requestIdMax ∧ rawParam.reqId ∉ s.requestRawParamMap ∧
      s'.requestRawParamMap = s.requestRawParamMap.insert rawParam.reqId rawParam := by
  obtain ⟨id, hid⟩ := exists_findRequestId hroom s.requestIndex
  have hfresh := notMem_of_findRequestId hid
  refine ⟨_, _, by rw [addRequestRawParam, hid]; rfl, lt_of_findRequestId hid, hfresh, ?_⟩
  show s.requestRawParamMap.emplace id _ = _
  rw [AList.emplace, if_neg hfresh]

/-- The service with the requests that were added and not erased yet. -/
structure Registry where
  service : DumpManagerService
  live : List RawParam

/-- A call on the registry. -/
inductive RegistryCall where
  | addRequestRawParam (call : RequestCall)
  | eraseRequestRawParam (rawParam : RawParam)

namespace Registry

/-- A service without requests, with any value of `requestIndex_`. -/
def start (requestIndex : Nat) : Registry :=
  ⟨{ DumpManagerService.init with requestIndex := requestIndex }, []⟩

def step (s : Registry) : RegistryCall → Option Registry
  | .addRequestRawParam call =>
    (s.service.addRequestRawParam call).map fun added => ⟨added.2, added.1 :: s.live⟩
  | .eraseRequestRawParam rawParam =>
    if rawParam ∈ s.live then
      some ⟨s.service.eraseRequestRawParam rawParam, s.live.erase rawParam⟩
    else none

/-- Fewer than `REQUESTID_MAX` requests are registered when one is added, and a request
    that is erased is one in progress. -/
def Allowed (s : Registry) : RegistryCall → Prop
  | .addRequestRawParam _ => s.service.getRequestSum < requestIdMax
  | .eraseRequestRawParam rawParam => rawParam ∈ s.live

/-- The map holds the requests in progress and nothing else, each under its own id. -/
structure Inv (s : Registry) : Prop where
  registered : ∀ id rawParam, s.service.requestRawParamMap.lookup id = some rawParam ↔
    rawParam ∈ s.live ∧ rawParam.reqId = id
  idRange : ∀ rawParam ∈ s.live, rawParam.reqId < requestIdMax
  nodup : s.live.Nodup

/-- A new service has no requests. -/
private theorem inv_start (requestIndex : Nat) : Inv (start requestIndex) where
  registered id rawParam := by simp [start, DumpManagerService.init]
  idRange rawParam h := nomatch h
  nodup := List.nodup_nil

/-- A request in progress is found under its id. -/
theorem Inv.lookup_live {s : Registry} (h : Inv s) {rawParam : RawParam}
    (hlive : rawParam ∈ s.live) :
    s.service.requestRawParamMap.lookup rawParam.reqId = some rawParam :=
  (h.registered _ _).mpr ⟨hlive, rfl⟩

/-- Requests in progress with the same id are the same. -/
theorem Inv.eq_of_reqId {s : Registry} (h : Inv s) {rawParam rawParam' : RawParam}
    (hlive : rawParam ∈ s.live) (hlive' : rawParam' ∈ s.live)
    (hid : rawParam.reqId = rawParam'.reqId) : rawParam = rawParam' := by
  have hlookup := h.lookup_live hlive
  rw [hid, h.lookup_live hlive', Option.some.injEq] at hlookup
  exact hlookup.symm

/-- A fresh id belongs to no living request. -/
theorem Inv.notMem_live {s : Registry} (h : Inv s) {rawParam : RawParam}
    (hfresh : rawParam.reqId ∉ s.service.requestRawParamMap) {r : RawParam} (hr : r ∈ s.live) :
    r.reqId ≠ rawParam.reqId := by
  intro hid
  have hlookup := h.lookup_live hr
  rw [hid, AList.lookup_eq_none.mpr hfresh] at hlookup
  exact nomatch hlookup

/-- Adding a request with an unused id. -/
theorem Inv.add {s : Registry} (h : Inv s) {rawParam : RawParam} {service : DumpManagerService}
    (hrange : rawParam.reqId < requestIdMax)
    (hfresh : rawParam.reqId ∉ s.service.requestRawParamMap)
    (hmap : service.requestRawParamMap =
      s.service.requestRawParamMap.insert rawParam.reqId rawParam) :
    Inv ⟨service, rawParam :: s.live⟩ where
  registered id r := by
    rw [hmap]
    by_cases hid : id = rawParam.reqId
    -- The new id: no live request has it, so it is that of the new one.
    · subst hid
      rw [AList.lookup_insert, Option.some.injEq, List.mem_cons]
      constructor
      · rintro rfl
        exact ⟨Or.inl rfl, rfl⟩
      · rintro ⟨rfl | hr, hr'⟩
        · rfl
        · exact absurd hr' (h.notMem_live hfresh hr)
    · rw [AList.lookup_insert_ne hid, h.registered, List.mem_cons]
      constructor
      · rintro ⟨hr, hr'⟩
        exact ⟨Or.inr hr, hr'⟩
      · rintro ⟨rfl | hr, hr'⟩
        · exact absurd hr'.symm hid
        · exact ⟨hr, hr'⟩
  idRange r hr := by
    rcases List.mem_cons.mp hr with rfl | hr
    · exact hrange
    · exact h.idRange r hr
  nodup := List.nodup_cons.mpr ⟨fun hmem => h.notMem_live hfresh hmem rfl, h.nodup⟩

/-- Erasing a request in progress. -/
theorem Inv.erase {s : Registry} (h : Inv s) {rawParam : RawParam} (hlive : rawParam ∈ s.live) :
    Inv ⟨s.service.eraseRequestRawParam rawParam, s.live.erase rawParam⟩ where
  registered id r := by
    show (s.service.requestRawParamMap.erase rawParam.reqId).lookup id = some r ↔ _
    rw [h.nodup.mem_erase_iff]
    by_cases hid : id = rawParam.reqId
    -- The ids of live requests differ, so only the erased one had this id.
    · subst hid
      rw [AList.lookup_erase]
      constructor
      · exact fun hnone => nomatch hnone
      · rintro ⟨⟨hne, hr⟩, hr'⟩
        exact absurd (h.eq_of_reqId hr hlive hr') hne
    · rw [AList.lookup_erase_ne hid, h.registered]
      constructor
      · rintro ⟨hr, hr'⟩
        exact ⟨⟨fun heq => hid (heq ▸ hr'.symm), hr⟩, hr'⟩
      · rintro ⟨⟨-, hr⟩, hr'⟩
        exact ⟨hr, hr'⟩
  idRange r hr := h.idRange r (List.mem_of_mem_erase hr)
  nodup := h.nodup.erase rawParam

/-- Step lemma: every allowed call returns, and the registry stays in order. -/
private theorem step_inv (s : Registry) (a : RegistryCall) (h : Inv s) (hok : Allowed s a) :
    ∃ s', s.step a = some s' ∧ Inv s' := by
  cases a with
  | addRequestRawParam call =>
    obtain ⟨rawParam, service, hadd, hrange, hfresh, hmap⟩ :=
      addRequestRawParam_spec s.service call hok
    refine ⟨⟨service, rawParam :: s.live⟩, ?_, h.add hrange hfresh hmap⟩
    rw [step, hadd]
    rfl
  | eraseRequestRawParam rawParam =>
    have hlive : rawParam ∈ s.live := hok
    refine ⟨_, ?_, h.erase hlive⟩
    rw [step, if_pos hlive]

end Registry

/-! ## Folders -/

/-- The folder has the id as its name. -/
private theorem tmpFolderPath_eq (id : Nat) :
    tmpFolderPath id = tmpFolder ++ toString id ++ "/" := by
  have hlast : (tmpFolder ++ toString id).toList.getLast? ≠ some '/' := by
    rw [String.toList_append, Nat.toString_eq_repr, Nat.toList_repr,
      List.getLast?_append_of_ne_nil _ Nat.toDigits_ne_nil]
    intro h
    have hdigit := Nat.isDigit_of_mem_toDigits (by decide) (by decide) (List.mem_of_getLast? h)
    exact absurd hdigit (by decide)
  unfold tmpFolderPath includeTrailingPathDelimiter
  rw [if_neg hlast]

/-- Different ids have different folders. -/
private theorem tmpFolderPath_injective {id id' : Nat} (h : tmpFolderPath id = tmpFolderPath id') :
    id = id' := by
  rw [tmpFolderPath_eq, tmpFolderPath_eq] at h
  have hchars := congrArg String.toList h
  simp only [String.toList_append, Nat.toString_eq_repr, Nat.toList_repr, List.append_assoc,
    List.append_cancel_left_eq, List.append_cancel_right_eq] at hchars
  rw [← Nat.ofDigitChars_ten_toDigits (n := id), hchars, Nat.ofDigitChars_ten_toDigits]

/-- Along every run of calls in which fewer than `REQUESTID_MAX` requests are registered
    whenever one is added, all calls return. In the state reached, the requests in progress
    are the registered ones, with ids below `REQUESTID_MAX` that differ, and so do their
    folders. The next request, if there is room, gets an id that no other has and is
    registered beside them, and erasing a request leaves the others registered. -/
theorem run_requestIds (requestIndex : Nat) (calls : List RegistryCall)
    (hok : Runs.AllSteps Registry.step Registry.Allowed (.start requestIndex) calls) :
    ∃ s, Runs.run Registry.step (.start requestIndex) calls = some s ∧
      (∀ id rawParam, s.service.requestRawParamMap.lookup id = some rawParam ↔
        rawParam ∈ s.live ∧ rawParam.reqId = id) ∧
      (∀ rawParam ∈ s.live, rawParam.reqId < requestIdMax) ∧
      (∀ rawParam ∈ s.live, ∀ rawParam' ∈ s.live, rawParam ≠ rawParam' →
        rawParam.reqId ≠ rawParam'.reqId ∧
          tmpFolderPath rawParam.reqId ≠ tmpFolderPath rawParam'.reqId) ∧
      (∀ call, s.service.getRequestSum < requestIdMax →
        ∃ rawParam service, s.service.addRequestRawParam call = some (rawParam, service) ∧
          rawParam.reqId < requestIdMax ∧
          (∀ r ∈ s.live, r.reqId ≠ rawParam.reqId) ∧
          ∀ r ∈ rawParam :: s.live, service.requestRawParamMap.lookup r.reqId = some r) ∧
      ∀ rawParam ∈ s.live, ∀ r ∈ s.live, r ≠ rawParam →
        (s.service.eraseRequestRawParam rawParam).requestRawParamMap.lookup r.reqId = some r := by
  obtain ⟨s, hrun, hinv⟩ :=
    Runs.run_total Registry.step_inv (Registry.inv_start requestIndex) hok
  -- All parts are read off the invariant of the state that the run ends in.
  refine ⟨s, hrun, hinv.registered, hinv.idRange, ?_, ?_, ?_⟩
  · intro rawParam hlive rawParam' hlive' hne
    have hid : rawParam.reqId ≠ rawParam'.reqId := fun hid =>
      hne (hinv.eq_of_reqId hlive hlive' hid)
    exact ⟨hid, fun hpath => hid (tmpFolderPath_injective hpath)⟩
  · intro call hroom
    obtain ⟨rawParam, service, hadd, hrange, hfresh, hmap⟩ :=
      addRequestRawParam_spec s.service call hroom
    have hadded := hinv.add hrange hfresh hmap
    exact ⟨rawParam, service, hadd, hrange, fun r hr => hinv.notMem_live hfresh hr,
      fun r hr => hadded.lookup_live hr⟩
  · intro rawParam hlive r hr hne
    have herased := hinv.erase hlive
    exact herased.lookup_live ((hinv.nodup.mem_erase_iff).mpr ⟨hne, hr⟩)

/-- Two requests around the end of a round of the counter. -/
def wrappingCalls : List RegistryCall :=
  [.addRequestRawParam shellCall, .addRequestRawParam shellCall]

/-- The id wraps around at its limit. -/
theorem run_requestIds_wrapping :
    ∃ s, Runs.run Registry.step (.start 99999) wrappingCalls = some s ∧
      ∀ rawParam ∈ s.live, rawParam.reqId < requestIdMax := by
  have hok : Runs.AllSteps Registry.step Registry.Allowed (.start 99999) wrappingCalls := by
    refine .cons (show (0 : Nat) < requestIdMax by decide) rfl
      (.cons (show (1 : Nat) < requestIdMax by decide) rfl trivial)
  obtain ⟨s, hrun, -, hrange, -⟩ := run_requestIds 99999 wrappingCalls hok
  exact ⟨s, hrun, hrange⟩

end HiDumper.Spec
