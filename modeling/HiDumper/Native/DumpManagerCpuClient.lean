import Mathlib.Data.List.Basic

/-!
# DumpManagerCpuClient: the connection to the CPU service

Model of `Connect`, `Reset` and `ResetProxy` of `dump_manager_cpu_client.cpp`. Each of them
holds `mutex_` from its first line to its last, so each is one step; in between, the remote
objects of the service die and their death notices arrive. Every incarnation of the service
is a remote object of its own, and so is every death recipient.

Left out: the calls that go out over the proxy, which change none of this state.
-/

namespace HiDumper.Native

/-- The error codes of `Connect`. -/
inductive ConnectError where
  | getSystemAbilityManager
  | getDumperService
  | addDeathRecipient
  deriving DecidableEq, Repr

/-- The client, and what the IPC framework keeps of its recipients. -/
structure DumpManagerCpuClient where
  /-- `proxy_`, by the remote object behind it. -/
  proxy : Option Nat
  /-- `deathRecipient_`. -/
  deathRecipient : Option Nat
  /-- The number of recipients made so far. -/
  recipientCount : Nat
  /-- The recipients registered with a live remote object. -/
  recipients : List (Nat × Nat)
  /-- The death notices that have not arrived yet. -/
  notices : List (Nat × Nat)
  /-- The remote objects that have died. -/
  dead : List Nat
  deriving DecidableEq, Repr

namespace DumpManagerCpuClient

def init : DumpManagerCpuClient := ⟨none, none, 0, [], [], []⟩

variable (isProxyObject : Nat → Bool)

/-- `DumpManagerCpuClient::Connect`, with what `GetSystemAbilityManager`,
    `CheckSystemAbility`, `AddDeathRecipient` and `iface_cast` give. -/
def connect (sam : Bool) (remoteObject : Option Nat) (added cast : Bool)
    (s : DumpManagerCpuClient) : Except ConnectError Unit × DumpManagerCpuClient :=
  if s.proxy.isSome then (.ok (), s)
  else if !sam then (.error .getSystemAbilityManager, s)
  else
    match remoteObject with
    | none => (.error .getDumperService, s)
    | some remote =>
      let recipient := s.recipientCount
      let s := { s with deathRecipient := some recipient, recipientCount := recipient + 1 }
      if isProxyObject remote && !added then (.error .addDeathRecipient, s)
      else
        let recipients :=
          if isProxyObject remote then (remote, recipient) :: s.recipients else s.recipients
        (.ok (), { s with recipients, proxy := if cast then some remote else none })

/-- `RemoveDeathRecipient(deathRecipient_)` on a remote object. -/
def removeDeathRecipient (s : DumpManagerCpuClient) (remote : Nat) : DumpManagerCpuClient :=
  { s with recipients := s.recipients.filter fun r => ¬(r.1 = remote ∧ some r.2 = s.deathRecipient) }

/-- `DumpManagerCpuClient::Reset`. -/
def reset (s : DumpManagerCpuClient) : DumpManagerCpuClient :=
  match s.proxy with
  | none => s
  | some remote => { s.removeDeathRecipient remote with proxy := none }

/-- `DumpManagerCpuClient::ResetProxy`: for the remote object of the proxy only. -/
def resetProxy (s : DumpManagerCpuClient) (remote : Nat) : DumpManagerCpuClient :=
  if s.proxy = some remote then { s.removeDeathRecipient remote with proxy := none } else s

/-- What may happen next. -/
inductive Action where
  | connect (sam : Bool) (remoteObject : Option Nat) (added cast : Bool)
  | reset
  /-- A remote object dies: its recipients will be noticed. -/
  | die (remote : Nat)
  /-- `OnRemoteDied` of a recipient. -/
  | onRemoteDied (notice : Nat × Nat)
  deriving DecidableEq, Repr

/-- One step. The framework adds no recipient to a remote object that has died, and an
    object of the client's own process does not die. -/
def step (s : DumpManagerCpuClient) : Action → Option DumpManagerCpuClient
  | .connect sam remoteObject added cast =>
    if added ∧ ∃ remote ∈ remoteObject, remote ∈ s.dead then none
    else some (s.connect isProxyObject sam remoteObject added cast).2
  | .reset => some s.reset
  | .die remote =>
    if remote ∈ s.dead ∨ isProxyObject remote = false then none
    else some { s with
      dead := remote :: s.dead
      recipients := s.recipients.filter fun r => r.1 ≠ remote
      notices := s.notices ++ s.recipients.filter fun r => r.1 = remote }
  | .onRemoteDied notice =>
    if notice ∈ s.notices then
      some { s.resetProxy notice.1 with notices := s.notices.erase notice }
    else none

end DumpManagerCpuClient

end HiDumper.Native
