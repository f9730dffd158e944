import HiDumper.ForStd.Runs
import HiDumper.Native.DumpManagerCpuClient

/-!
# Connections of the CPU client

While the service dies and restarts, the client keeps a proxy only as long as somebody will
tell it that the proxy has become useless: its death recipient is registered with the remote
object, or the notice is on its way. Notices about earlier remote objects change nothing.

## Key results

- `proxy_watched`: in every run the proxy is watched, dropped by the notice of its own object
  and by no other, replaced by the next `Connect`, and leaves no recipient behind unless
  `iface_cast` failed
-/

namespace HiDumper.Spec

open HiDumper.Native
open HiDumper.Native.DumpManagerCpuClient (step)

namespace CpuConnections

variable {isProxyObject : Nat → Bool}

/-- What holds between the client and the framework. -/
structure Watched (isProxyObject : Nat → Bool) (s : DumpManagerCpuClient) : Prop where
  /-- The recipient of the proxy is registered, or has its notice under way. -/
  proxy : ∀ remote, s.proxy = some remote → isProxyObject remote = true →
    ∃ recipient, s.deathRecipient = some recipient ∧
      ((remote, recipient) ∈ s.recipients ∨ (remote, recipient) ∈ s.notices)
  recipients : ∀ r ∈ s.recipients, r.1 ∉ s.dead
  notices : ∀ r ∈ s.notices, r.1 ∈ s.dead
  dead : ∀ remote ∈ s.dead, isProxyObject remote = true

/-- A new client has nothing to watch. -/
private theorem watched_init : Watched isProxyObject DumpManagerCpuClient.init := by
  constructor <;> simp [DumpManagerCpuClient.init]

/-- Only the client's own recipient with that object is removed. -/
private theorem mem_removeDeathRecipient {s : DumpManagerCpuClient} {remote : Nat} {r : Nat × Nat} :
    r ∈ (s.removeDeathRecipient remote).recipients ↔
      r ∈ s.recipients ∧ ¬(r.1 = remote ∧ some r.2 = s.deathRecipient) := by
  simp only [DumpManagerCpuClient.removeDeathRecipient, List.mem_filter, decide_eq_true_eq]

/-- Dropping the proxy keeps the rest. -/
theorem Watched.drop {s : DumpManagerCpuClient} (h : Watched isProxyObject s) (remote : Nat) :
    Watched isProxyObject { s.removeDeathRecipient remote with proxy := none } where
  proxy _ hproxy := by cases hproxy
  recipients r hr := h.recipients r (mem_removeDeathRecipient.mp hr).1
  notices := h.notices
  dead := h.dead

/-- Letting the proxy go keeps the invariant. -/
theorem Watched.reset {s : DumpManagerCpuClient} (h : Watched isProxyObject s) :
    Watched isProxyObject s.reset := by
  simp only [DumpManagerCpuClient.reset]
  split
  · exact h
  · exact h.drop _

theorem Watched.connect {s : DumpManagerCpuClient} (h : Watched isProxyObject s) (sam : Bool)
    (remoteObject : Option Nat) {added : Bool} (cast : Bool)
    (hadded : added = true → ∀ remote ∈ remoteObject, remote ∉ s.dead) :
    Watched isProxyObject (s.connect isProxyObject sam remoteObject added cast).2 := by
  simp only [DumpManagerCpuClient.connect]
  split
  · exact h
  · rename_i hproxy
    have hnone : s.proxy = none := by simpa using hproxy
    split
    · exact h
    · cases remoteObject with
      | none => exact h
      | some remote =>
        simp only
        split
        · -- `AddDeathRecipient` failed: no proxy is taken.
          refine ⟨fun r hr => ?_, h.recipients, h.notices, h.dead⟩
          simp only [hnone] at hr
          cases hr
        · rename_i hrefused
          constructor
          · intro r hr hobject
            have heq : cast = true ∧ remote = r := by
              cases cast <;> simp at hr
              exact ⟨rfl, hr⟩
            rw [heq.2, if_pos hobject]
            exact ⟨s.recipientCount, rfl, .inl List.mem_cons_self⟩
          · intro r hr
            cases hobject : isProxyObject remote with
            | false =>
              simp only [hobject] at hr
              exact h.recipients r hr
            | true =>
              have hadd : added = true := by simpa [hobject] using hrefused
              simp only [hobject, if_true, List.mem_cons] at hr
              rcases hr with rfl | hr
              · exact hadded hadd remote rfl
              · exact h.recipients r hr
          · exact h.notices
          · exact h.dead

/-- When an object dies, the notices for its recipients are under way. -/
theorem Watched.die {s : DumpManagerCpuClient} (h : Watched isProxyObject s) {remote : Nat}
    (hobject : isProxyObject remote = true) :
    Watched isProxyObject { s with
      dead := remote :: s.dead
      recipients := s.recipients.filter fun r => r.1 ≠ remote
      notices := s.notices ++ s.recipients.filter fun r => r.1 = remote } := by
  constructor
  · intro r hr hproxy
    obtain ⟨recipient, hrecipient, hwatch⟩ := h.proxy r hr hproxy
    refine ⟨recipient, hrecipient, ?_⟩
    -- The recipient of the dead object moves from the list to the notices; others stay.
    by_cases heq : r = remote
    · refine .inr ?_
      simp only [List.mem_append, List.mem_filter, decide_eq_true_eq]
      exact hwatch.symm.imp_right fun hmem => ⟨hmem, heq⟩
    · simp only [List.mem_append, List.mem_filter, decide_eq_true_eq]
      exact hwatch.imp (fun hmem => ⟨hmem, by simpa using heq⟩) .inl
  · intro r hr
    simp only [List.mem_filter, decide_eq_true_eq] at hr
    simp only [List.mem_cons, not_or]
    exact ⟨hr.2, h.recipients r hr.1⟩
  · intro r hr
    simp only [List.mem_append, List.mem_filter, decide_eq_true_eq] at hr
    rcases hr with hr | hr
    · exact List.mem_cons_of_mem _ (h.notices r hr)
    · exact hr.2 ▸ List.mem_cons_self
  · intro r hr
    rcases List.mem_cons.mp hr with rfl | hr
    · exact hobject
    · exact h.dead r hr

/-- A notice about the proxy takes the proxy away, and one about another object does not. -/
theorem Watched.onRemoteDied {s : DumpManagerCpuClient} (h : Watched isProxyObject s)
    (notice : Nat × Nat) :
    Watched isProxyObject
      { s.resetProxy notice.1 with notices := s.notices.erase notice } := by
  simp only [DumpManagerCpuClient.resetProxy]
  split
  · refine ⟨fun _ hproxy => (by cases hproxy), fun r hr => ?_,
      fun r hr => h.notices r (List.mem_of_mem_erase hr), h.dead⟩
    exact h.recipients r (mem_removeDeathRecipient.mp hr).1
  · rename_i hother
    refine ⟨fun r hr hobject => ?_, h.recipients, fun r hr => h.notices r (List.mem_of_mem_erase hr),
      h.dead⟩
    obtain ⟨recipient, hrecipient, hwatch⟩ := h.proxy r hr hobject
    refine ⟨recipient, hrecipient, hwatch.imp_right fun hmem => ?_⟩
    -- The notice is about another remote object, so the proxy's own one stays under way.
    have hne : (r, recipient) ≠ notice := fun heq => hother (by rw [← heq]; exact hr)
    exact (List.mem_erase_of_ne hne).mpr hmem

/-- Every step keeps the proxy watched. -/
theorem Watched.step {s s' : DumpManagerCpuClient} {a : DumpManagerCpuClient.Action}
    (h : Watched isProxyObject s) (hstep : step isProxyObject s a = some s') :
    Watched isProxyObject s' := by
  cases a with
  | connect sam remoteObject added cast =>
    simp only [DumpManagerCpuClient.step] at hstep
    split at hstep
    · cases hstep
    · rename_i hguard
      cases hstep
      -- The guard of the step says that a dead object takes no recipient.
      refine h.connect sam remoteObject cast fun hadded remote hmem hdead => ?_
      exact hguard ⟨hadded, remote, hmem, hdead⟩
  | reset =>
    cases hstep
    exact h.reset
  | die remote =>
    simp only [DumpManagerCpuClient.step] at hstep
    split at hstep
    · cases hstep
    · rename_i hguard
      cases hstep
      -- Only a proxy object can be seen to die.
      exact h.die (by simpa using fun hfalse => hguard (.inr hfalse))
  | onRemoteDied notice =>
    simp only [DumpManagerCpuClient.step] at hstep
    split at hstep
    · cases hstep
      exact h.onRemoteDied notice
    · cases hstep

/-! ## When the proxy goes -/

/-- What the client can rely on in a state: whoever watches the proxy, what takes it away, and
    how it gets a new one. -/
structure WatchesProxy (isProxyObject : Nat → Bool) (s : DumpManagerCpuClient) : Prop where
  /-- `deathRecipient_` is registered with the very object behind the proxy; once that has
      died, its notice is on the way. -/
  registered : ∀ remote, s.proxy = some remote → isProxyObject remote = true →
    ∃ recipient, s.deathRecipient = some recipient ∧
      if remote ∈ s.dead then (remote, recipient) ∈ s.notices
      else (remote, recipient) ∈ s.recipients
  /-- The notice of the proxy's own object drops the proxy, any other leaves it. -/
  noticed : ∀ notice s', step isProxyObject s (.onRemoteDied notice) = some s' →
    s'.proxy = if s.proxy = some notice.1 then none else s.proxy
  /-- Besides, only a `Reset` takes the proxy away. -/
  kept : ∀ a s' remote, step isProxyObject s a = some s' → s.proxy = some remote →
    s'.proxy ≠ some remote → a = .reset ∨ ∃ recipient, a = .onRemoteDied (remote, recipient)
  /-- Without a proxy, `Connect` takes that of the live object it is given. -/
  reconnects : s.proxy = none → ∀ remote, remote ∉ s.dead →
    ∃ s', step isProxyObject s (.connect true (some remote) true true) = some s' ∧
      s'.proxy = some remote

/-- The proxy has a recipient, which is registered with the living object or will get the notice of
    a dead one. -/
theorem Watched.registered {s : DumpManagerCpuClient} (h : Watched isProxyObject s) {remote : Nat}
    (hproxy : s.proxy = some remote) (hobject : isProxyObject remote = true) :
    ∃ recipient, s.deathRecipient = some recipient ∧
      if remote ∈ s.dead then (remote, recipient) ∈ s.notices
      else (remote, recipient) ∈ s.recipients := by
  obtain ⟨recipient, hrecipient, hwatch⟩ := h.proxy remote hproxy hobject
  refine ⟨recipient, hrecipient, ?_⟩
  -- A dead object has no recipients any more, a live one has no notices yet.
  split
  · rename_i hdead
    exact hwatch.resolve_left fun hmem => h.recipients _ hmem hdead
  · rename_i hlive
    exact hwatch.resolve_right fun hmem => hlive (h.notices _ hmem)

private theorem proxy_resetProxy (s : DumpManagerCpuClient) (remote : Nat) :
    (s.resetProxy remote).proxy = if s.proxy = some remote then none else s.proxy := by
  rw [DumpManagerCpuClient.resetProxy]
  split <;> rfl

/-- A notice takes the proxy away exactly if it is about the proxy's object. -/
private theorem proxy_onRemoteDied {s s' : DumpManagerCpuClient} {notice : Nat × Nat}
    (hstep : step isProxyObject s (.onRemoteDied notice) = some s') :
    s'.proxy = if s.proxy = some notice.1 then none else s.proxy := by
  simp only [DumpManagerCpuClient.step] at hstep
  split at hstep
  · cases hstep
    exact proxy_resetProxy s notice.1
  · cases hstep

/-- A proxy is lost through a reset or through the notice about its object. -/
private theorem eq_reset_or_onRemoteDied {s s' : DumpManagerCpuClient}
    {a : DumpManagerCpuClient.Action}
    {remote : Nat} (hstep : step isProxyObject s a = some s') (hproxy : s.proxy = some remote)
    (hlost : s'.proxy ≠ some remote) :
    a = .reset ∨ ∃ recipient, a = .onRemoteDied (remote, recipient) := by
  cases a with
  | connect sam remoteObject added cast =>
    -- With a proxy `Connect` has nothing to do.
    simp only [DumpManagerCpuClient.step] at hstep
    split at hstep
    · cases hstep
    · cases hstep
      refine absurd ?_ hlost
      simp [DumpManagerCpuClient.connect, hproxy]
  | reset => exact .inl rfl
  | die other =>
    simp only [DumpManagerCpuClient.step] at hstep
    split at hstep
    · cases hstep
    · cases hstep
      exact absurd hproxy hlost
  | onRemoteDied notice =>
    refine .inr ⟨notice.2, ?_⟩
    by_cases heq : s.proxy = some notice.1
    · rw [hproxy, Option.some.injEq] at heq
      rw [heq]
    · rw [proxy_onRemoteDied hstep, if_neg heq] at hlost
      exact absurd hproxy hlost

/-- Without a proxy, connecting takes the living object that the manager answers with. -/
private theorem proxy_connect {s : DumpManagerCpuClient} (hproxy : s.proxy = none) {remote : Nat}
    (hlive : remote ∉ s.dead) :
    ∃ s', step isProxyObject s (.connect true (some remote) true true) = some s' ∧
      s'.proxy = some remote := by
  refine ⟨(s.connect isProxyObject true (some remote) true true).2, ?_, ?_⟩
  · rw [DumpManagerCpuClient.step, if_neg]
    rintro ⟨-, other, hother, hdead⟩
    rw [Option.mem_some] at hother
    exact hlive (hother ▸ hdead)
  · simp [DumpManagerCpuClient.connect, hproxy]

/-- The invariant says what is meant by watching the proxy. -/
theorem Watched.watchesProxy {s : DumpManagerCpuClient} (h : Watched isProxyObject s) :
    WatchesProxy isProxyObject s where
  registered _ := h.registered
  noticed _ _ := proxy_onRemoteDied
  kept _ _ _ := eq_reset_or_onRemoteDied
  reconnects hproxy _ := proxy_connect hproxy

/-! ## Recipients left behind -/

/-- The registered recipients are those of the proxy. -/
def NoneLeft (s : DumpManagerCpuClient) : Prop :=
  ∀ r ∈ s.recipients, s.proxy = some r.1 ∧ s.deathRecipient = some r.2

/-- A `Connect` whose `iface_cast` gives a proxy. -/
def castSucceeds (_ : DumpManagerCpuClient) : DumpManagerCpuClient.Action → Prop
  | .connect _ _ _ cast => cast = true
  | _ => True

/-- Without a proxy no recipient is registered. -/
theorem NoneLeft.recipients_eq_nil {s : DumpManagerCpuClient} (h : NoneLeft s)
    (hproxy : s.proxy = none) : s.recipients = [] := by
  rw [List.eq_nil_iff_forall_not_mem]
  intro r hr
  rw [(h r hr).1] at hproxy
  cases hproxy

/-- With the recipient of the proxy the last one is removed. -/
theorem NoneLeft.drop {s : DumpManagerCpuClient} (h : NoneLeft s) {remote : Nat}
    (hproxy : s.proxy = some remote) :
    NoneLeft { s.removeDeathRecipient remote with proxy := none } := by
  intro r hr
  obtain ⟨hmem, hkept⟩ := mem_removeDeathRecipient.mp hr
  obtain ⟨hr1, hr2⟩ := h r hmem
  rw [hproxy, Option.some.injEq] at hr1
  exact absurd ⟨hr1.symm, hr2.symm⟩ hkept

theorem NoneLeft.reset {s : DumpManagerCpuClient} (h : NoneLeft s) : NoneLeft s.reset := by
  simp only [DumpManagerCpuClient.reset]
  split
  · exact h
  · rename_i remote hproxy
    exact h.drop hproxy

/-- The notice of an object that is not the proxy leaves everything. -/
theorem NoneLeft.resetProxy {s : DumpManagerCpuClient} (h : NoneLeft s) (remote : Nat) :
    NoneLeft (s.resetProxy remote) := by
  simp only [DumpManagerCpuClient.resetProxy]
  split
  · rename_i hproxy
    exact h.drop hproxy
  · exact h

/-- At most the recipient of the new object is added, which the successful cast makes the
    proxy. -/
theorem NoneLeft.connect {s : DumpManagerCpuClient} (h : NoneLeft s) (sam : Bool)
    (remoteObject : Option Nat) (added : Bool) :
    NoneLeft (s.connect isProxyObject sam remoteObject added true).2 := by
  simp only [DumpManagerCpuClient.connect]
  split
  · exact h
  · rename_i hproxy
    have hnil := h.recipients_eq_nil (by simpa using hproxy)
    split
    · exact h
    · cases remoteObject with
      | none => exact h
      | some remote =>
        simp only
        split
        -- `AddDeathRecipient` failed.
        · intro r hr
          simp only [hnil] at hr
          cases hr
        · intro r hr
          cases hobject : isProxyObject remote with
          | false =>
            simp only [hobject, hnil] at hr
            cases hr
          | true =>
            simp only [hobject, if_true, hnil, List.mem_singleton] at hr
            subst hr
            exact ⟨rfl, rfl⟩

/-- While the cast succeeds, no step leaves a recipient with an object that is not the proxy. -/
theorem NoneLeft.step {s s' : DumpManagerCpuClient} {a : DumpManagerCpuClient.Action}
    (h : NoneLeft s) (hcast : castSucceeds s a) (hstep : step isProxyObject s a = some s') :
    NoneLeft s' := by
  cases a with
  | connect sam remoteObject added cast =>
    obtain rfl : cast = true := hcast
    simp only [DumpManagerCpuClient.step] at hstep
    split at hstep
    · cases hstep
    · cases hstep
      exact h.connect sam remoteObject added
  | reset =>
    cases hstep
    exact h.reset
  -- A death only takes recipients off.
  | die remote =>
    simp only [DumpManagerCpuClient.step] at hstep
    split at hstep
    · cases hstep
    · cases hstep
      intro r hr
      exact h r (List.mem_of_mem_filter hr)
  | onRemoteDied notice =>
    simp only [DumpManagerCpuClient.step] at hstep
    split at hstep
    · cases hstep
      exact h.resetProxy notice.1
    · cases hstep

/-! ## Runs -/

/-- In every run of connects, resets, deaths and notices the proxy is watched; and while every
    `iface_cast` gives a proxy, the only recipients registered are those of the proxy. -/
theorem proxy_watched {s : DumpManagerCpuClient} {actions : List DumpManagerCpuClient.Action}
    (hrun : Runs.run (step isProxyObject) DumpManagerCpuClient.init actions = some s) :
    WatchesProxy isProxyObject s ∧
      (Runs.AllSteps (step isProxyObject) castSucceeds DumpManagerCpuClient.init actions →
        ∀ r ∈ s.recipients, s.proxy = some r.1 ∧ s.deathRecipient = some r.2) := by
  constructor
  · have hwatched : Watched isProxyObject s :=
      Runs.run_preserves (fun _ _ _ hs hstep => hs.step hstep) watched_init hrun
    exact hwatched.watchesProxy
  · intro hcast
    exact Runs.run_invariant (fun _ _ _ hs hok => NoneLeft.step hs hok)
      (fun r hr => by cases hr) hcast hrun

/-- The service dies and the client connects again before the notice arrives; then it dies
    once more. -/
theorem proxy_watched_reconnect :
    ∃ s s' : DumpManagerCpuClient,
      Runs.run (step fun _ => true) DumpManagerCpuClient.init
        [.connect true (some 1) false true, .connect true (some 1) true true, .die 1, .reset,
          .connect true (some 2) true true] = some s ∧
      (∃ recipient, s.deathRecipient = some recipient ∧ (2, recipient) ∈ s.recipients) ∧
      (∀ r ∈ s.recipients, s.proxy = some r.1 ∧ s.deathRecipient = some r.2) ∧
      (∀ s₁, step (fun _ => true) s (.onRemoteDied (1, 1)) = some s₁ → s₁.proxy = some 2) ∧
      Runs.run (step fun _ => true) s
        [.die 2, .onRemoteDied (1, 1), .onRemoteDied (2, 2)] = some s' ∧
      ∃ s₁, step (fun _ => true) s' (.connect true (some 3) true true) = some s₁ ∧
        s₁.proxy = some 3 := by
  have hrun : Runs.run (step fun _ => true) DumpManagerCpuClient.init
      [.connect true (some 1) false true, .connect true (some 1) true true, .die 1, .reset,
        .connect true (some 2) true true] =
      some ⟨some 2, some 2, 3, [(2, 2)], [(1, 1)], [1]⟩ := by
    decide
  have hrun' : Runs.run (step fun _ => true) ⟨some 2, some 2, 3, [(2, 2)], [(1, 1)], [1]⟩
      [.die 2, .onRemoteDied (1, 1), .onRemoteDied (2, 2)] =
      some ⟨none, some 2, 3, [], [], [2, 1]⟩ := by
    decide
  obtain ⟨hwatches, hnoneLeft⟩ := proxy_watched hrun
  obtain ⟨hwatches', -⟩ := proxy_watched ((Runs.run_append hrun).trans hrun')
  refine ⟨_, _, hrun, ?_, hnoneLeft ?_, fun s₁ hs₁ => ?_, hrun', ?_⟩
  · exact hwatches.registered 2 rfl rfl
  · simp [Runs.AllSteps, castSucceeds]
  · exact hwatches.noticed (1, 1) s₁ hs₁
  · exact hwatches'.reconnects rfl 3 (by decide)

end CpuConnections

end HiDumper.Spec
