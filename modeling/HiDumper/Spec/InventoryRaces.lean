import HiDumper.Native.InventoryCalls
import HiDumper.Spec.TaskData

/-!
# One winner between two removals

`Inject` looks for an id and emplaces its value in two critical sections, so several
calls may find the id missing. The second section alone decides: between two removals of
an id the first call that gets there puts its value in, all others return `false`, and
reads see that value from then on. This holds for every interleaving, with calls that
were past their check when the span began.

## Key results

- `InventoryStep`: what one step can do, with respect to one id
- `span_present`, `span_absent`: a span without a removal of the id, from a state with or
  without it
- `inventory_spans`: the winner of a span, and what a sweep removes
-/

namespace HiDumper.Spec

open HiDumper.Native InventoryCalls

variable {V : Type}

/-! ## Sweeps -/

/-- A sweep reports the ids it removes: those outside the set to keep. -/
private theorem mem_removeRestData (inventory : DataInventory V) (keep : List DataId)
    (dataId : DataId) :
    dataId ∈ (inventory.removeRestData keep).1 ↔ dataId ∈ inventory ∧ dataId ∉ keep := by
  simp [DataInventory.removeRestData, AList.mem_keys]

/-! ## One step -/

/-- No event is the return of an `Inject` of the id with a value. -/
def NoInject (dataId : DataId) (events : List (InventoryEvent V)) : Prop :=
  ∀ call value result, .injectReturned call dataId (some value) result ∉ events

/-- After a win nobody else wins, and reads see the value. -/
structure AfterWin (dataId : DataId) (value : V) (events : List (InventoryEvent V)) : Prop where
  noWin : ∀ call value', .injectReturned call dataId (some value') true ∉ events
  reads : ∀ result, .gotPtr dataId result ∈ events → result = some value

/-- No event removes the id. -/
def NoRemoval (dataId : DataId) (events : List (InventoryEvent V)) : Prop :=
  ∀ keep removed, .removedRest keep removed ∈ events → dataId ∉ removed

/-- What a step can do to an id and say about it. -/
inductive InventoryStep (dataId : DataId) (s : InventoryCalls V) :
    InventoryEvent V → InventoryCalls V → Prop
  /-- The value of the id stays, and the event says nothing about it. -/
  | quiet (e : InventoryEvent V) (s' : InventoryCalls V)
    (hlookup : s'.data.lookup dataId = s.data.lookup dataId)
    (hinject : ∀ call value result, e ≠ .injectReturned call dataId (some value) result)
    (hread : ∀ result, e ≠ .gotPtr dataId result) : InventoryStep dataId s e s'
  | read (s' : InventoryCalls V) (hlookup : s'.data.lookup dataId = s.data.lookup dataId) :
    InventoryStep dataId s (.gotPtr dataId (s.data.lookup dataId)) s'
  | lose (call : Nat) (value : V) (s' : InventoryCalls V) (hmem : dataId ∈ s.data)
    (hlookup : s'.data.lookup dataId = s.data.lookup dataId) :
    InventoryStep dataId s (.injectReturned call dataId (some value) false) s'
  | win (call : Nat) (value : V) (s' : InventoryCalls V) (hnot : dataId ∉ s.data)
    (hlookup : s'.data.lookup dataId = some value) :
    InventoryStep dataId s (.injectReturned call dataId (some value) true) s'
  | remove (keep removed : List DataId) (s' : InventoryCalls V) (hremoved : dataId ∈ removed) :
    InventoryStep dataId s (.removedRest keep removed) s'

/-- An `emplace` of another id does not touch this one. -/
private theorem lookup_inputToData_ne (inventory : DataInventory V) {dataId other : DataId}
    (value : V)
    (h : dataId ≠ other) :
    (inventory.inputToData other value).2.lookup dataId = inventory.lookup dataId := by
  show (inventory.emplace other value).lookup dataId = _
  rw [AList.lookup_emplace, if_neg h, Option.or_none]

/-- Every step is one of these. -/
private theorem inventoryStep_of_step (dataId : DataId) {s s' : InventoryCalls V}
    {a : InventoryAction V}
    {e : InventoryEvent V} (h : s.step a = some (e, s')) : InventoryStep dataId s e s' := by
  cases a with
  | check call other ptr =>
    simp only [step] at h
    split at h
    · exact nomatch h
    -- A call with a null pointer returns before it looks at the map.
    cases ptr with
    | none =>
      simp only [Option.some.injEq, Prod.mk.injEq] at h
      obtain ⟨rfl, rfl⟩ := h
      exact .quiet _ _ rfl (by simp) (by simp)
    | some value =>
      simp only at h
      split at h
      · rename_i hfound
        simp only [Option.some.injEq, Prod.mk.injEq] at h
        obtain ⟨rfl, rfl⟩ := h
        -- The key is there already, so the call returns `false`.
        by_cases hid : other = dataId
        · subst hid
          exact .lose call value _ (AList.lookup_isSome.mp hfound) rfl
        · exact .quiet _ _ rfl (by simp [hid]) (by simp)
      · simp only [Option.some.injEq, Prod.mk.injEq] at h
        obtain ⟨rfl, rfl⟩ := h
        exact .quiet _ _ rfl (by simp) (by simp)
  | emplace call =>
    simp only [step] at h
    split at h
    · exact nomatch h
    rename_i other value hpending
    simp only [Option.some.injEq, Prod.mk.injEq] at h
    obtain ⟨rfl, rfl⟩ := h
    by_cases hid : dataId = other
    · subst hid
      by_cases hmem : dataId ∈ s.data
      · -- The id is there: `emplace` does nothing and reports that.
        have hput : s.data.inputToData dataId value = (false, s.data) := by
          simp [DataInventory.inputToData, AList.emplace, hmem]
        rw [hput]
        exact .lose call value _ hmem rfl
      · have hput : s.data.inputToData dataId value = (true, s.data.insert dataId value) := by
          simp [DataInventory.inputToData, AList.emplace, hmem]
        rw [hput]
        exact .win call value _ hmem (AList.lookup_insert _)
    · refine .quiet _ _ (lookup_inputToData_ne s.data value hid) ?_ (by simp)
      intro call' value' result heq
      simp only [InventoryEvent.injectReturned.injEq] at heq
      exact hid heq.2.1.symm
  | getPtr other =>
    simp only [step, Option.some.injEq, Prod.mk.injEq] at h
    obtain ⟨rfl, rfl⟩ := h
    by_cases hid : other = dataId
    · subst hid
      exact .read _ rfl
    · exact .quiet _ _ rfl (by simp) (by simp [hid])
  | removeRestData keep =>
    simp only [step, Option.some.injEq, Prod.mk.injEq] at h
    obtain ⟨rfl, rfl⟩ := h
    by_cases hremoved : dataId ∈ (s.data.removeRestData keep).1
    · exact .remove _ _ _ hremoved
    · -- An id that is not reported was missing or is kept.
      refine .quiet _ _ ?_ (by simp) (by simp)
      show (s.data.removeRestData keep).2.lookup dataId = _
      rw [lookup_removeRestData]
      split
      · rfl
      · rename_i hkeep
        rw [mem_removeRestData] at hremoved
        exact (AList.lookup_eq_none.mpr fun hmem => hremoved ⟨hmem, hkeep⟩).symm

/-! ## A span without a removal of the id -/

/-- A later part of the events has no removal either. -/
theorem NoRemoval.tail {dataId : DataId} {e : InventoryEvent V} {events : List (InventoryEvent V)}
    (h : NoRemoval dataId (e :: events)) : NoRemoval dataId events :=
  fun keep removed hmem => h keep removed (List.mem_cons_of_mem e hmem)

/-- In front of a span where one value has won stands an event that neither wins nor reads another
    value. -/
theorem AfterWin.cons {dataId : DataId} {value : V} {e : InventoryEvent V}
    {events : List (InventoryEvent V)} (h : AfterWin dataId value events)
    (hwin : ∀ call value', e ≠ .injectReturned call dataId (some value') true)
    (hread : ∀ result, e = .gotPtr dataId result → result = some value) :
    AfterWin dataId value (e :: events) := by
  constructor
  · intro call value' hmem
    rcases List.mem_cons.mp hmem with heq | hmem
    · exact hwin call value' heq.symm
    · exact h.noWin call value' hmem
  · intro result hmem
    rcases List.mem_cons.mp hmem with heq | hmem
    · exact hread result heq.symm
    · exact h.reads result hmem

/-- An event that injects nothing under the id can be put in front. -/
theorem NoInject.cons {dataId : DataId} {e : InventoryEvent V} {events : List (InventoryEvent V)}
    (h : NoInject dataId events)
    (hinject : ∀ call value result, e ≠ .injectReturned call dataId (some value) result) :
    NoInject dataId (e :: events) := by
  intro call value result hmem
  rcases List.mem_cons.mp hmem with heq | hmem
  · exact hinject call value result heq.symm
  · exact h call value result hmem

/-- From a state with the id: its value is what reads see, and nobody wins. -/
theorem span_present {dataId : DataId} {value : V} {actions : List (InventoryAction V)}
    {s s' : InventoryCalls V} {events : List (InventoryEvent V)}
    (hvalue : s.data.lookup dataId = some value)
    (hrun : Runs.runEvents step s actions = some (events, s'))
    (hkept : NoRemoval dataId events) : AfterWin dataId value events := by
  induction actions generalizing s events with
  | nil =>
    simp only [Runs.runEvents, Option.some.injEq, Prod.mk.injEq] at hrun
    obtain ⟨rfl, rfl⟩ := hrun
    exact ⟨by simp, by simp⟩
  | cons a actions ih =>
    obtain ⟨e, s₁, es, hstep, hrest, rfl⟩ := Runs.runEvents_cons_eq_some hrun
    cases inventoryStep_of_step dataId hstep with
    | quiet _ _ hlookup hinject hread =>
      have hafter := ih (hlookup.trans hvalue) hrest hkept.tail
      exact hafter.cons (fun call value' => hinject call value' true)
        fun result heq => absurd heq (hread result)
    | read _ hlookup =>
      have hafter := ih (hlookup.trans hvalue) hrest hkept.tail
      refine hafter.cons (by simp) fun result heq => ?_
      rw [InventoryEvent.gotPtr.injEq] at heq
      exact heq.2.symm.trans hvalue
    | lose call value' _ hmem hlookup =>
      have hafter := ih (hlookup.trans hvalue) hrest hkept.tail
      exact hafter.cons (by simp) (by simp)
    -- A win needs the id to be missing.
    | win call value' _ hnot hlookup =>
      rw [AList.lookup_eq_none.mpr hnot] at hvalue
      cases hvalue
    | remove keep removed _ hremoved =>
      exact absurd hremoved (hkept keep removed List.mem_cons_self)

/-- From a state without the id: either no `Inject` of it with a value returns, or the
    first that returns wins. -/
theorem span_absent {dataId : DataId} {actions : List (InventoryAction V)}
    {s s' : InventoryCalls V} {events : List (InventoryEvent V)} (hnot : dataId ∉ s.data)
    (hrun : Runs.runEvents step s actions = some (events, s'))
    (hkept : NoRemoval dataId events) :
    NoInject dataId events ∨ ∃ before call value after,
      events = before ++ .injectReturned call dataId (some value) true :: after ∧
      NoInject dataId before ∧ AfterWin dataId value after := by
  induction actions generalizing s events with
  | nil =>
    simp only [Runs.runEvents, Option.some.injEq, Prod.mk.injEq] at hrun
    obtain ⟨rfl, rfl⟩ := hrun
    exact Or.inl (by simp [NoInject])
  | cons a actions ih =>
    obtain ⟨e, s₁, es, hstep, hrest, rfl⟩ := Runs.runEvents_cons_eq_some hrun
    -- A step that leaves the id missing and returns no `Inject` of it.
    have hlater : s₁.data.lookup dataId = s.data.lookup dataId →
        (∀ call value result, e ≠ .injectReturned call dataId (some value) result) →
        NoInject dataId (e :: es) ∨ ∃ before call value after,
          e :: es = before ++ .injectReturned call dataId (some value) true :: after ∧
          NoInject dataId before ∧ AfterWin dataId value after := by
      intro hlookup hinject
      have hnot₁ : dataId ∉ s₁.data := by
        rw [← AList.lookup_eq_none, hlookup, AList.lookup_eq_none]
        exact hnot
      rcases ih hnot₁ hrest hkept.tail with hno | ⟨before, call, value, after, rfl, hbefore, hafter⟩
      · exact Or.inl (hno.cons hinject)
      · exact Or.inr ⟨e :: before, call, value, after, rfl, hbefore.cons hinject, hafter⟩
    cases inventoryStep_of_step dataId hstep with
    | quiet _ _ hlookup hinject hread => exact hlater hlookup hinject
    | read _ hlookup => exact hlater hlookup (by simp)
    | lose call value _ hmem hlookup => exact absurd hmem hnot
    | win call value _ hnot hlookup =>
      exact Or.inr ⟨[], call, value, es, rfl, by simp [NoInject],
        span_present hlookup hrest hkept.tail⟩
    | remove keep removed _ hremoved =>
      exact absurd hremoved (hkept keep removed List.mem_cons_self)

/-! ## The winner -/

/-- An `Inject` of the id returns `true`. -/
def wins (dataId : DataId) : InventoryEvent V → Bool
  | .injectReturned _ d (some _) true => d == dataId
  | _ => false

/-- What counts as winning is a successful `Inject` of a value. -/
private theorem wins_iff (dataId : DataId) (e : InventoryEvent V) :
    wins dataId e = true ↔ ∃ call value, e = .injectReturned call dataId (some value) true := by
  constructor
  · intro h
    unfold wins at h
    split at h
    · rename_i call d value
      exact ⟨call, value, by rw [beq_iff_eq.mp h]⟩
    · exact nomatch h
  · rintro ⟨call, value, rfl⟩
    exact beq_self_eq_true dataId

/-- Without a successful `Inject` nobody wins. -/
private theorem filter_wins_eq_nil {dataId : DataId} {events : List (InventoryEvent V)}
    (h : ∀ call value, .injectReturned call dataId (some value) true ∉ events) :
    events.filter (wins dataId) = [] := by
  rw [List.filter_eq_nil_iff]
  intro e he hwins
  obtain ⟨call, value, rfl⟩ := (wins_iff dataId e).mp hwins
  exact h call value he

/-- A step that reports the removal of an id has removed it. -/
private theorem notMem_of_removedRest {dataId : DataId} {s s' : InventoryCalls V}
    {a : InventoryAction V}
    {keep removed : List DataId} (h : s.step a = some (.removedRest keep removed, s'))
    (hremoved : dataId ∈ removed) : dataId ∉ s'.data := by
  cases a with
  | check call other ptr =>
    simp only [step] at h
    split at h
    · exact nomatch h
    · cases ptr with
      | none => exact nomatch h
      | some value =>
        simp only at h
        split at h <;> exact nomatch h
  | emplace call =>
    simp only [step] at h
    split at h <;> exact nomatch h
  | getPtr other => exact nomatch h
  -- The one action with this event.
  | removeRestData kept =>
    simp only [step, Option.some.injEq, Prod.mk.injEq, InventoryEvent.removedRest.injEq] at h
    obtain ⟨⟨rfl, rfl⟩, rfl⟩ := h
    have hkeep := ((mem_removeRestData s.data kept dataId).mp hremoved).2
    rw [← AList.lookup_eq_none]
    show (s.data.removeRestData kept).2.lookup dataId = none
    rw [lookup_removeRestData, if_neg hkeep]

/-- Right after a removal of an id, and in the beginning, the id is missing. -/
private theorem notMem_of_span_start {dataId : DataId} {actions : List (InventoryAction V)}
    {events : List (InventoryEvent V)} {s₀ s : InventoryCalls V}
    (hrun : Runs.runEvents step s₀ actions = some (events, s)) (hs₀ : dataId ∉ s₀.data)
    (hstart : actions = [] ∨ ∃ keep removed,
      events.getLast? = some (.removedRest keep removed) ∧ dataId ∈ removed) :
    dataId ∉ s.data := by
  rcases hstart with rfl | ⟨keep, removed, hlast, hremoved⟩
  · simp only [Runs.runEvents, Option.some.injEq, Prod.mk.injEq] at hrun
    exact hrun.2 ▸ hs₀
  clear hs₀
  induction actions generalizing s₀ events with
  | nil =>
    simp only [Runs.runEvents, Option.some.injEq, Prod.mk.injEq] at hrun
    rw [← hrun.1] at hlast
    cases hlast
  | cons a actions ih =>
    obtain ⟨e, s₁, es, hstep, hrest, rfl⟩ := Runs.runEvents_cons_eq_some hrun
    cases hes : es with
    | cons e' es' =>
      subst hes
      rw [List.getLast?_cons_cons] at hlast
      exact ih hrest hlast
    | nil =>
      -- The removal is this step, and the run ends after it.
      subst hes
      rw [List.getLast?_singleton, Option.some.injEq] at hlast
      subst hlast
      have hend : s₁ = s := by
        cases actions with
        | nil =>
          simp only [Runs.runEvents, Option.some.injEq, Prod.mk.injEq] at hrest
          exact hrest.2
        | cons a' actions =>
          obtain ⟨_, _, _, _, _, hnil⟩ := Runs.runEvents_cons_eq_some hrest
          cases hnil
      subst hend
      exact notMem_of_removedRest hstep hremoved

/-- For every interleaving of calls on an inventory, and every span of it that begins with
    the run or right after a removal of the id and has no removal of it: at most one
    `Inject` of the id returns `true`; if one with a value returns at all, one does; reads
    after that return its value. A sweep reports and removes exactly the ids outside the
    set to keep. -/
theorem inventory_spans (dataId : DataId) {earlier span : List (InventoryAction V)}
    {s₀ s₁ : InventoryCalls V} {events₀ events : List (InventoryEvent V)}
    (hearlier : Runs.runEvents step {} earlier = some (events₀, s₀))
    (hstart : earlier = [] ∨ ∃ keep removed,
      events₀.getLast? = some (.removedRest keep removed) ∧ dataId ∈ removed)
    (hspan : Runs.runEvents step s₀ span = some (events, s₁))
    (hkept : NoRemoval dataId events) :
    (events.filter (wins dataId)).length ≤ 1 ∧
    (∀ call value result, .injectReturned call dataId (some value) result ∈ events →
      ∃ e ∈ events, wins dataId e = true) ∧
    (∀ before call value after,
      events = before ++ .injectReturned call dataId (some value) true :: after →
      ∀ result, .gotPtr dataId result ∈ after → result = some value) ∧
    (∀ (inventory : DataInventory V) keep id,
      (id ∈ (inventory.removeRestData keep).1 ↔ id ∈ inventory ∧ id ∉ keep) ∧
      (inventory.removeRestData keep).2.lookup id =
        if id ∈ keep then inventory.lookup id else none) := by
  have hnot : dataId ∉ s₀.data :=
    notMem_of_span_start hearlier (AList.notMem_empty dataId) hstart
  have hsweep : ∀ (inventory : DataInventory V) keep id,
      (id ∈ (inventory.removeRestData keep).1 ↔ id ∈ inventory ∧ id ∉ keep) ∧
      (inventory.removeRestData keep).2.lookup id =
        if id ∈ keep then inventory.lookup id else none := fun inventory keep id =>
    ⟨mem_removeRestData inventory keep id, lookup_removeRestData inventory keep id⟩
  -- Either nobody wins in the span, or it is cut at the one win.
  rcases span_absent hnot hspan hkept with hno | ⟨before, call, value, after, rfl, hbefore, hafter⟩
  · refine ⟨?_, ?_, ?_, hsweep⟩
    -- Nobody wins.
    · rw [filter_wins_eq_nil fun call value => hno call value true]
      exact Nat.zero_le 1
    · intro call value result hmem
      exact absurd hmem (hno call value result)
    · rintro before call value after rfl
      exact absurd (List.mem_append_right _ List.mem_cons_self) (hno call value true)
  · have hbeforeWins := filter_wins_eq_nil fun call value => hbefore call value true
    have hafterWins := filter_wins_eq_nil hafter.noWin
    have hwin : wins dataId (.injectReturned call dataId (some value) true) = true :=
      beq_self_eq_true dataId
    refine ⟨?_, ?_, ?_, hsweep⟩
    · rw [List.filter_append, List.filter_cons_of_pos hwin, hbeforeWins, hafterWins]
      simp
    · intro _ _ _ _
      exact ⟨_, List.mem_append_right _ List.mem_cons_self, hwin⟩
    · -- A second way to take the events apart at a win is the same one.
      intro before' call' value' after' heq result hread
      have hsame : ∀ {e : InventoryEvent V},
          e = .injectReturned call' dataId (some value') true →
          e = .injectReturned call dataId (some value) true → value = value' := by
        intro e hleft hright
        rw [hleft] at hright
        exact (Option.some.inj (InventoryEvent.injectReturned.inj hright).2.2.1).symm
      rcases List.append_eq_append_iff.mp heq with ⟨l, rfl, hl⟩ | ⟨l, rfl, hl⟩
      · cases l with
        | nil =>
          rw [List.nil_append, List.cons.injEq] at hl
          rw [← hsame rfl hl.1.symm]
          exact hafter.reads result (hl.2 ▸ hread)
        | cons e l =>
          rw [List.cons_append, List.cons.injEq] at hl
          refine absurd ?_ (hafter.noWin call' value')
          rw [hl.2]
          exact List.mem_append_right _ List.mem_cons_self
      · cases l with
        | nil =>
          rw [List.nil_append, List.cons.injEq] at hl
          rw [← hsame rfl hl.1]
          exact hafter.reads result (hl.2 ▸ hread)
        | cons e l =>
          rw [List.cons_append, List.cons.injEq] at hl
          refine absurd ?_ (hbefore call' value' true)
          rw [hl.1]
          exact List.mem_append_right _ List.mem_cons_self

/-- Two calls look for the same id before either emplaces its value. -/
def racingInjects : List (InventoryAction Nat) :=
  [.check 0 7 (some 10), .check 1 7 (some 11), .emplace 1, .emplace 0, .getPtr 7]

/-- What they report: the second one wins. -/
def racingEvents : List (InventoryEvent Nat) :=
  [.checkPassed 0 7 10, .checkPassed 1 7 11, .injectReturned 1 7 (some 11) true,
    .injectReturned 0 7 (some 10) false, .gotPtr 7 (some 11)]

/-- Two calls of `Inject` for one id race, and one of them wins. -/
theorem inventory_spans_racing :
    (∃ s₁, Runs.runEvents step {} racingInjects = some (racingEvents, s₁)) ∧
      (racingEvents.filter (wins 7)).length ≤ 1 := by
  have hrun : ∃ s₁, Runs.runEvents step {} racingInjects = some (racingEvents, s₁) := ⟨_, rfl⟩
  obtain ⟨s₁, hrun⟩ := hrun
  have hkept : NoRemoval 7 racingEvents := by
    intro keep removed hmem
    simp [racingEvents] at hmem
  have hearlier : Runs.runEvents step {} ([] : List (InventoryAction Nat)) = some ([], {}) := rfl
  exact ⟨⟨s₁, hrun⟩, (inventory_spans 7 hearlier (Or.inl rfl) hrun hkept).1⟩

end HiDumper.Spec
