import HiDumper.ForStd.Runs
import HiDumper.Native.PluginHost

/-!
# The plugin is open when it is used

Threads construct, use and destroy `MemoryInfo` objects in any order, and the library may
fail to load at any time. What the host does with the library is what a single open library
allows: it is opened when it is closed, closed when it is open, and called in between.

## Key results

- `library_uses_ok`: every run uses the library as one open at a time, and has it open
  exactly while its count of users is positive
-/

namespace HiDumper.Spec

open HiDumper.Native
open HiDumper.Native.PluginHost (loadPlugin unloadPlugin pluginEnable)

namespace PluginUses

/-- What is allowed with a library: the state is the handle that is open. -/
def useLibrary : Option Nat → LibraryUse → Option (Option Nat)
  | none, .dlopen handle => some (some handle)
  | some handle, .dlclose handle' => if handle = handle' then some none else none
  | some handle, .call => some (some handle)
  | _, _ => none

/-- What holds between the host, its users and the library. -/
structure Counted (s : PluginUsers) : Prop where
  log : Runs.run useLibrary none s.log = some s.host.handle
  createPluginFn : s.host.createPluginFn.isSome → s.host.handle.isSome
  handle : s.host.handle.isSome ↔ 0 < s.host.refCount
  refCount : s.host.refCount ≤ s.memoryInfos.length

/-- At the start nothing is loaded. -/
private theorem counted_init : Counted {} where
  log := rfl
  createPluginFn h := by cases h
  handle := by decide
  refCount := Nat.le_refl 0

/-- A new object loads the library or finds it loaded, and is counted. -/
theorem Counted.construct {s : PluginUsers} (h : Counted s) (memoryInfo : Nat)
    (dlopen : Option Nat) (dlsym : Option (Option OnCreatePlugin)) :
    Counted ⟨(loadPlugin dlopen dlsym s.host).2.1, memoryInfo :: s.memoryInfos,
      s.log ++ (loadPlugin dlopen dlsym s.host).2.2⟩ := by
  have hlog := h.log
  have hcount := h.refCount
  simp only [loadPlugin]
  split
  · -- The library is open already.
    rename_i hpos
    refine ⟨?_, h.createPluginFn, ?_, ?_⟩
    · simpa using hlog
    · simpa using h.handle.mpr hpos
    · simp only [List.length_cons]
      omega
  · rename_i hzero
    have hnone : s.host.handle = none := by
      by_contra hsome
      exact hzero (h.handle.mp (Option.isSome_iff_ne_none.mpr hsome))
    have hfn : s.host.createPluginFn = none := by
      by_contra hsome
      have hopen := h.createPluginFn (Option.isSome_iff_ne_none.mpr hsome)
      rw [hnone] at hopen
      cases hopen
    rw [hnone] at hlog
    have hclosed : ∀ uses, Runs.run useLibrary none uses = some none →
        Counted ⟨{ s.host with handle := none }, memoryInfo :: s.memoryInfos, s.log ++ uses⟩ := by
      intro uses huses
      refine ⟨by rw [Runs.run_append hlog, huses], fun hsome => ?_, ?_, ?_⟩
      · simp [hfn] at hsome
      · simp only [Option.isSome_none, Bool.false_eq_true, false_iff]
        exact hzero
      · simp only [List.length_cons]
        omega
    cases dlopen with
    | none => exact hclosed [] rfl
    | some handle =>
      cases dlsym with
      | none => exact hclosed [.dlopen handle, .dlclose handle] (by simp [Runs.run, useLibrary])
      | some fn =>
        refine ⟨?_, fun _ => rfl, ?_, ?_⟩
        · rw [Runs.run_append hlog]
          rfl
        · simp
        · simp

/-- The last object closes the library, an earlier one only stops being counted. -/
theorem Counted.destruct {s : PluginUsers} (h : Counted s) {memoryInfo : Nat}
    (hmem : memoryInfo ∈ s.memoryInfos) :
    Counted ⟨(unloadPlugin s.host).1, s.memoryInfos.erase memoryInfo,
      s.log ++ (unloadPlugin s.host).2⟩ := by
  have hlog := h.log
  have hcount := h.refCount
  have hlength := List.length_erase_of_mem hmem
  simp only [unloadPlugin]
  split
  · rename_i hpos
    split
    · -- The last user closes the library.
      obtain ⟨handle, hhandle⟩ := Option.isSome_iff_exists.mp (h.handle.mpr hpos)
      rw [hhandle] at hlog
      refine ⟨?_, fun hsome => (by cases hsome), by simp, by simp⟩
      rw [Runs.run_append hlog]
      simp [hhandle, Runs.run, useLibrary]
    · rename_i hmore
      refine ⟨by simpa using hlog, h.createPluginFn, ?_, ?_⟩
      · simp only [h.handle]
        omega
      · simp only [hlength]
        omega
  · rename_i hzero
    refine ⟨by simpa using hlog, h.createPluginFn, h.handle, ?_⟩
    simp only
    omega

/-- Calls of an open library leave it open; without an open one there is nothing to call. -/
theorem Counted.calls {s : PluginUsers} (h : Counted s) {uses : List LibraryUse}
    (hnone : s.host.createPluginFn = none → uses = []) (hcalls : ∀ use ∈ uses, use = .call) :
    Counted { s with log := s.log ++ uses } := by
  refine ⟨?_, h.createPluginFn, h.handle, h.refCount⟩
  rw [Runs.run_append h.log]
  cases hfn : s.host.createPluginFn with
  | none =>
    rw [hnone hfn]
    rfl
  | some createPlugin =>
    obtain ⟨handle, hhandle⟩ := Option.isSome_iff_exists.mp (h.createPluginFn (by simp [hfn]))
    simp only [hhandle]
    clear hnone
    induction uses with
    | nil => rfl
    | cons use uses ih =>
      have huse := hcalls use List.mem_cons_self
      subst huse
      exact ih fun use hmem => hcalls use (List.mem_cons_of_mem _ hmem)

/-- The count is right after every step. -/
theorem Counted.step {s s' : PluginUsers} {a : PluginUsers.Action} (h : Counted s)
    (hstep : s.step a = some s') : Counted s' := by
  cases a with
  | construct memoryInfo dlopen dlsym =>
    simp only [PluginUsers.step] at hstep
    split at hstep
    -- An object is constructed once.
    · cases hstep
    · cases hstep
      exact h.construct memoryInfo dlopen dlsym
  | destruct memoryInfo =>
    simp only [PluginUsers.step] at hstep
    split at hstep
    · rename_i hmem
      cases hstep
      exact h.destruct hmem
    · cases hstep
  -- A call needs the loaded function, and so a loaded library.
  | queryMemInfo infos realSize =>
    cases hstep
    refine h.calls (fun hnone => ?_) (fun use hmem => ?_)
    · simp [PluginHost.queryMemInfo, hnone]
    · simp only [PluginHost.queryMemInfo] at hmem
      split at hmem
      · cases hmem
      · split at hmem <;> simpa using hmem
  | collectGpumem pid cmdType infoType dfxLimit =>
    cases hstep
    refine h.calls (fun hnone => ?_) (fun use hmem => ?_)
    · simp [PluginHost.collectGpumem, hnone]
    · simp only [PluginHost.collectGpumem] at hmem
      split at hmem
      · cases hmem
      · split at hmem <;> simpa using hmem

/-! ## Without failed loads -/

/-- The load of a constructor succeeds. -/
def Loads (s : PluginUsers) : PluginUsers.Action → Prop
  | .construct _ dlopen dlsym => (loadPlugin dlopen dlsym s.host).1 = pluginEnable
  | _ => True

/-- A load that succeeds counts its user. -/
private theorem refCount_of_loads {dlopen : Option Nat} {dlsym : Option (Option OnCreatePlugin)}
    {host : PluginHost} (h : (loadPlugin dlopen dlsym host).1 = pluginEnable) :
    (loadPlugin dlopen dlsym host).2.1.refCount = host.refCount + 1 := by
  simp only [loadPlugin] at h ⊢
  split at h
  · rename_i hpos
    rw [if_pos hpos]
  · rename_i hzero
    rw [if_neg hzero]
    have hcount : host.refCount = 0 := by omega
    cases dlopen with
    | none => cases h
    | some handle =>
      cases dlsym with
      | none => cases h
      | some fn => simp [hcount]

/-- Unloading counts down, and stops at zero. -/
private theorem refCount_unload (host : PluginHost) :
    (unloadPlugin host).1.refCount = host.refCount - 1 := by
  simp only [unloadPlugin]
  split
  · split
    · rename_i hone
      simp [hone]
    · rfl
  · simp only
    omega

/-- The counter counts the objects. -/
private theorem counts_step {s s' : PluginUsers} {a : PluginUsers.Action}
    (hs : s.host.refCount = s.memoryInfos.length) (hloads : Loads s a)
    (hstep : s.step a = some s') : s'.host.refCount = s'.memoryInfos.length := by
  cases a with
  | construct memoryInfo dlopen dlsym =>
    simp only [PluginUsers.step] at hstep
    split at hstep
    · cases hstep
    · cases hstep
      simp only [refCount_of_loads hloads, hs, List.length_cons]
  | destruct memoryInfo =>
    simp only [PluginUsers.step] at hstep
    split at hstep
    · rename_i hmem
      cases hstep
      simp only [refCount_unload, hs, List.length_erase_of_mem hmem]
    · cases hstep
  -- Calls change neither the count nor the objects.
  | queryMemInfo infos realSize =>
    cases hstep
    exact hs
  | collectGpumem pid cmdType infoType dfxLimit =>
    cases hstep
    exact hs

/-- In every run, loads that fail included, the library is opened only when it is closed,
    closed only when it is open, and called only while it is open; it is open exactly while
    the count is positive, and the count is at most that of the objects. Without failed loads
    the two counts agree, so the library is open exactly while an object exists. -/
theorem library_uses_ok {s : PluginUsers} {actions : List PluginUsers.Action}
    (hrun : Runs.run PluginUsers.step {} actions = some s) :
    Runs.run useLibrary none s.log = some s.host.handle ∧
      (s.host.handle.isSome ↔ 0 < s.host.refCount) ∧
      s.host.refCount ≤ s.memoryInfos.length ∧
      (Runs.AllSteps PluginUsers.step Loads {} actions →
        (s.host.handle.isSome ↔ s.memoryInfos ≠ [])) := by
  have hcounted : Counted s := Runs.run_preserves (fun _ _ _ h => h.step) counted_init hrun
  refine ⟨hcounted.log, hcounted.handle, hcounted.refCount, fun hloads => ?_⟩
  have hcount : s.host.refCount = s.memoryInfos.length :=
    Runs.run_invariant (fun _ _ _ => counts_step) rfl hloads hrun
  rw [hcounted.handle, hcount, List.length_pos_iff]

/-- Two objects that share the library, and a query while the second one is left. -/
def sharedRun : List PluginUsers.Action :=
  [.construct 1 (some 7) (some (some none)), .construct 2 none none, .destruct 1,
    .queryMemInfo [] 0, .destruct 2]

/-- Loading, one call, and closing. -/
theorem library_uses_ok_shared :
    Runs.run useLibrary none [.dlopen 7, .call, .dlclose 7] = some none := by
  have hrun : Runs.run PluginUsers.step {} sharedRun =
      some ⟨⟨none, none, 0⟩, [], [.dlopen 7, .call, .dlclose 7]⟩ := rfl
  exact (library_uses_ok hrun).1

/-- An object that failed to load the library still counts it down when it goes: the library
    is closed under an object that had loaded it. -/
example : (Runs.run PluginUsers.step {}
    [.construct 1 none none, .construct 2 (some 7) (some (some none)), .destruct 1]).map
      (fun s => (s.memoryInfos, s.host.handle)) = some ([2], none) := rfl

end PluginUses

end HiDumper.Spec
