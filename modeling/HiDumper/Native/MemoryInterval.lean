import HiDumper.ForStd.UnorderedMap

/-!
# Interval sessions: `--mem pid -t interval`

Model of the control flow of `MemoryInfo::GetMemoryInfoByTimeInterval` and of
`MemoryInfo::SetReceivedSigInt` in `executor/memory/memory_info.cpp`. Every request
makes a `MemoryInfo` of its own (`memory_info_wrapper.cpp`), so the mutexes in it keep
no two sessions apart: what they share is the flag `g_isDumpMem` of the process. A
step is one access to the flag, or one sample. What a sample collects and writes is in
`HiDumper.Native.MemoryInfo`.
-/

namespace HiDumper.Native

/-- Where a session stands in `GetMemoryInfoByTimeInterval`. -/
inductive SessionPhase where
  /-- Before the test of `g_isDumpMem`. -/
  | testing
  /-- Past the test, before the end of the loop body. -/
  | sampling
  /-- Past the loop, before the reset of `g_isDumpMem`. -/
  | leaving
  deriving DecidableEq, Repr

/-- `g_isDumpMem` and the sessions in progress, by thread. -/
structure IntervalSessions where
  isDumpMem : Bool
  sessions : UnorderedMap Nat SessionPhase

namespace IntervalSessions

/-- The process before its first session. -/
def init : IntervalSessions := ⟨true, ∅⟩

/-- `MemoryInfo::SetReceivedSigInt`. -/
def setReceivedSigInt (s : IntervalSessions) (isReceivedSigInt : Bool) : IntervalSessions :=
  { s with isDumpMem := !isReceivedSigInt }

inductive Action where
  /-- A session enters `GetMemoryInfoByTimeInterval`. -/
  | start (thread : Nat)
  /-- `while (g_isDumpMem)`. -/
  | loopTest (thread : Nat)
  /-- The body of the loop. -/
  | sample (thread : Nat)
  /-- `g_isDumpMem = true` after the loop. -/
  | reset (thread : Nat)
  /-- A request `--mem SIGINT`: `SetReceivedSigInt(true)`. -/
  | stop
  deriving DecidableEq, Repr

def step (s : IntervalSessions) : Action → Option IntervalSessions
  | .start thread =>
    if thread ∈ s.sessions then none
    else some { s with sessions := s.sessions.insert thread .testing }
  | .loopTest thread =>
    match s.sessions.lookup thread with
    | some .testing =>
      let phase := if s.isDumpMem then SessionPhase.sampling else .leaving
      some { s with sessions := s.sessions.insert thread phase }
    | _ => none
  | .sample thread =>
    match s.sessions.lookup thread with
    | some .sampling => some { s with sessions := s.sessions.insert thread .testing }
    | _ => none
  | .reset thread =>
    match s.sessions.lookup thread with
    | some .leaving => some { isDumpMem := true, sessions := s.sessions.erase thread }
    | _ => none
  | .stop => some (s.setReceivedSigInt true)

end IntervalSessions

end HiDumper.Native
