import HiDumper.Native.OutFd
import HiDumper.Spec.ArgTransfer
import HiDumper.Spec.DumpPermission

/-!
# Who closes the client's descriptor

A request that is turned down closes `outfd` at once. One that is admitted closes it at
the end, through its `RawParam`. The executors of the legacy structure close only what
they have opened themselves, and while `outfd` is open that is something else. The context
of the new structure closes `outfd` when `Main` returns, and then `RawParam` does so again.

## Key results

- `call_keeps`, `dumpFds_outOpen`: the executors leave `outfd` open
- `outfd_closed_once_iff`: `outfd` is closed once if the new structure is not used
-/

namespace HiDumper.Spec

open HiDumper.Native

variable {outfd : Int} {table : FdTable} {holder : FdHolder}

/-- `outfd` is open and has not been closed before. -/
structure OutOpen (outfd : Int) (table : FdTable) : Prop where
  mem_opened : outfd ∈ table.opened
  notMem_closes : outfd ∉ table.closes

/-- An executor that will not close `outfd`: it has another descriptor, or it was given
    `outfd` and knows that it is not its own. -/
def Apart (outfd : Int) (holder : FdHolder) : Prop :=
  holder.fd ≠ outfd ∨ holder.kind = .logDumper ∧ holder.isZip = false

/-! ## Descriptors -/

/-- Closing another descriptor leaves the one for the output open. -/
theorem OutOpen.close (h : OutOpen outfd table) {fd : Int} (hne : fd ≠ outfd) :
    OutOpen outfd (table.close fd) := by
  constructor
  · exact (List.mem_erase_of_ne (Ne.symm hne)).mpr h.mem_opened
  · show outfd ∉ table.closes ++ [fd]
    intro hmem
    rcases List.mem_append.mp hmem with hmem | hmem
    · exact h.notMem_closes hmem
    · exact hne (List.mem_singleton.mp hmem).symm

/-- While `outfd` is open, `open` gives something else. -/
private theorem openFile_keeps (hfd : 0 ≤ outfd) (h : OutOpen outfd table) (choice : Int) :
    (table.openFile choice).1 ≠ outfd ∧ OutOpen outfd (table.openFile choice).2 := by
  unfold FdTable.openFile
  split
  · rename_i hchoice
    refine ⟨?_, ⟨List.mem_cons_of_mem _ h.mem_opened, h.notMem_closes⟩⟩
    rintro rfl
    exact hchoice.2 h.mem_opened
  · refine ⟨?_, h⟩
    show (-1 : Int) ≠ outfd
    omega

/-- An executor that closes its own descriptor. -/
private theorem closeFd_keeps (hfd : 0 ≤ outfd) (h : OutOpen outfd table)
    (hne : holder.fd ≠ outfd) :
    (holder.closeFd table).1.fd ≠ outfd ∧ OutOpen outfd (holder.closeFd table).2 := by
  unfold FdHolder.closeFd
  split
  · refine ⟨?_, h.close hne⟩
    show (-1 : Int) ≠ outfd
    omega
  · exact ⟨hne, h⟩

/-! ## Executors -/

/-- Only a dumper that writes the log may be given `outfd`. -/
theorem Apart.fd_ne (h : Apart outfd holder) (hkind : holder.kind ≠ .logDumper) :
    holder.fd ≠ outfd := by
  rcases h with hne | ⟨hlog, -⟩
  · exact hne
  · exact absurd hlog hkind

/-- Whatever `DumpDatas` makes an executor do, it leaves `outfd` open. -/
theorem call_keeps (hfd : 0 ≤ outfd) (isZip : Bool) (call : FdCall) (h : OutOpen outfd table)
    (hapart : Apart outfd holder) :
    Apart outfd (holder.call isZip outfd table call).1 ∧
      OutOpen outfd (holder.call isZip outfd table call).2 := by
  unfold FdHolder.call
  cases call with
  | preExecute choice =>
    obtain ⟨hopened, hopen⟩ := openFile_keeps hfd h choice
    cases hkind : holder.kind with
    | logDumper =>
      dsimp only
      split
      · exact ⟨Or.inl hopened, hopen⟩
      · -- The client's descriptor, with `isZip_` unset.
        exact ⟨Or.inr ⟨rfl, rfl⟩, h⟩
    | zipFolderOutput =>
      dsimp only
      split
      · exact ⟨hapart, h⟩
      · exact ⟨Or.inl hopened, hopen⟩
    | fileDumper => exact ⟨hapart, h⟩
    | other => exact ⟨hapart, h⟩
  | openNextFile choice fdopens =>
    cases hkind : holder.kind with
    | fileDumper =>
      have hne := hapart.fd_ne (by rw [hkind]; exact nofun)
      -- The file before is closed first, and that is not `outfd`.
      obtain ⟨-, hclosed⟩ := closeFd_keeps hfd h hne
      obtain ⟨hopened, hopen⟩ := openFile_keeps hfd hclosed choice
      have hunset : (-1 : Int) ≠ outfd := by omega
      dsimp only
      split
      · exact ⟨Or.inl hunset, hopen⟩
      · split
        · exact ⟨Or.inl hopened, hopen⟩
        · exact ⟨Or.inl hunset, hopen.close hopened⟩
    | logDumper => exact ⟨hapart, h⟩
    | zipFolderOutput => exact ⟨hapart, h⟩
    | other => exact ⟨hapart, h⟩
  | closeFd =>
    cases hkind : holder.kind with
    | fileDumper =>
      obtain ⟨hne, hclosed⟩ := closeFd_keeps hfd h (hapart.fd_ne (by rw [hkind]; exact nofun))
      exact ⟨Or.inl hne, hclosed⟩
    | logDumper => exact ⟨hapart, h⟩
    | zipFolderOutput => exact ⟨hapart, h⟩
    | other => exact ⟨hapart, h⟩
  | reset =>
    cases hkind : holder.kind with
    | zipFolderOutput =>
      obtain ⟨hne, hclosed⟩ := closeFd_keeps hfd h (hapart.fd_ne (by rw [hkind]; exact nofun))
      exact ⟨Or.inl hne, hclosed⟩
    | logDumper => exact ⟨hapart, h⟩
    | fileDumper => exact ⟨hapart, h⟩
    | other => exact ⟨hapart, h⟩

/-- The destructors leave `outfd` open. -/
private theorem destroy_keeps (hfd : 0 ≤ outfd) (h : OutOpen outfd table)
    (hapart : Apart outfd holder) :
    OutOpen outfd (holder.destroy table) := by
  unfold FdHolder.destroy
  cases hkind : holder.kind with
  | logDumper =>
    dsimp only
    split
    · rename_i hown
      apply h.close
      rcases hapart with hne | ⟨-, hzip⟩
      · exact hne
      · rw [hzip] at hown
        exact nomatch hown.1
    · exact h
  | fileDumper => exact (closeFd_keeps hfd h (hapart.fd_ne (by rw [hkind]; exact nofun))).2
  | zipFolderOutput => exact (closeFd_keeps hfd h (hapart.fd_ne (by rw [hkind]; exact nofun))).2
  | other => exact h

/-- A call on one executor of a list. -/
private theorem callAt_keeps (hfd : 0 ≤ outfd) (isZip : Bool) (call : Nat × FdCall)
    {s : List FdHolder × FdTable} (hapart : ∀ holder ∈ s.1, Apart outfd holder)
    (h : OutOpen outfd s.2) :
    (∀ holder ∈ (callAt isZip outfd s call).1, Apart outfd holder) ∧
      OutOpen outfd (callAt isZip outfd s call).2 := by
  unfold callAt
  cases hholder : s.1[call.1]? with
  | none => exact ⟨hapart, h⟩
  | some holder =>
    have hmem : holder ∈ s.1 := List.mem_of_getElem? hholder
    obtain ⟨hcalled, hopen⟩ := call_keeps hfd isZip call.2 h (hapart holder hmem)
    refine ⟨fun other hother => ?_, hopen⟩
    rcases List.mem_or_eq_of_mem_set hother with hother | rfl
    · exact hapart other hother
    · exact hcalled

/-- `DumpDatas` and the destruction of its executors leave `outfd` open. -/
theorem dumpFds_outOpen (hfd : 0 ≤ outfd) (isZip : Bool) (calls : List (Nat × FdCall))
    {holders : List FdHolder} (hapart : ∀ holder ∈ holders, Apart outfd holder)
    (h : OutOpen outfd table) : OutOpen outfd (dumpFds isZip outfd calls holders table) := by
  -- First the calls, with the holders apart from `outfd` all along, then their destruction.
  have hcalls : ∀ s : List FdHolder × FdTable, (∀ holder ∈ s.1, Apart outfd holder) →
      OutOpen outfd s.2 →
      (∀ holder ∈ (calls.foldl (callAt isZip outfd) s).1, Apart outfd holder) ∧
        OutOpen outfd (calls.foldl (callAt isZip outfd) s).2 := by
    induction calls with
    | nil => exact fun s hs h => ⟨hs, h⟩
    | cons call calls ih =>
      intro s hs h
      obtain ⟨hs', h'⟩ := callAt_keeps hfd isZip call hs h
      exact ih _ hs' h'
  obtain ⟨hheld, hopen⟩ := hcalls (holders, table) hapart h
  unfold dumpFds
  dsimp only
  generalize calls.foldl (callAt isZip outfd) (holders, table) = s at hheld hopen
  obtain ⟨held, table'⟩ := s
  dsimp only at hheld hopen ⊢
  induction held generalizing table' with
  | nil => exact hopen
  | cons holder held ih =>
    rw [List.foldl_cons]
    apply ih
    · exact fun other hother => hheld other (List.mem_cons_of_mem _ hother)
    · exact destroy_keeps hfd hopen (hheld holder List.mem_cons_self)

/-- Executors are made without a descriptor. -/
private theorem apart_fdHolders (hfd : 0 ≤ outfd) (isZip : Bool) (executors : List DumpCfg) :
    ∀ holder ∈ fdHolders isZip executors, Apart outfd holder := by
  intro holder hholder
  obtain ⟨cfg, -, rfl⟩ := List.mem_map.mp hholder
  left
  show (-1 : Int) ≠ outfd
  omega

/-! ## The request -/

section Request

variable {Str16 : Type} (env : OutFdEnv Str16)

/-- A request that passes the checks of `Request`. -/
def Admitted (service : DumpManagerService) (hasDumpPermission : Bool) : Prop :=
  service.blockRequest = false ∧ service.started = true ∧ hasDumpPermission = true ∧
    service.getRequestSum < requestMax

/-- Arguments with which `Main` gets to the new structure. -/
def UsesNewStruct (args : List Str16) : Prop :=
  0 < (ArgTable.init env.codec env.ctx.sys.strings args).getArgc ∧
    ∃ opts, cmdParse env.ctx (env.argv args) = .ok opts ∧ env.isNewStructSupport opts = true

/-- A request that the old parser handles leaves the descriptor open. -/
private theorem main_outOpen (hfd : 0 ≤ outfd) {argv : List String} (h : OutOpen outfd table)
    (hlegacy : ∀ opts, cmdParse env.ctx argv = .ok opts → env.isNewStructSupport opts = false) :
    OutOpen outfd (env.main argv outfd table) := by
  unfold OutFdEnv.main
  cases hparse : cmdParse env.ctx argv with
  | error rejection => exact h
  | ok opts =>
    dsimp only
    rw [hlegacy opts hparse, if_neg Bool.false_ne_true]
    split
    · exact h
    · exact dumpFds_outOpen hfd opts.isDumpZip env.calls (apart_fdHolders hfd _ _) h

/-- The context closes `outfd`. -/
private theorem main_newStruct (hfd : 0 ≤ outfd) {argv : List String} {opts : DumperOpts}
    (hparse : cmdParse env.ctx argv = .ok opts) (hnew : env.isNewStructSupport opts = true) :
    env.main argv outfd table = table.close outfd := by
  unfold OutFdEnv.main
  rw [hparse]
  dsimp only
  rw [if_pos hnew, env.uniqueFd.closes_valid outfd hfd]
  rfl

/-- `RawParam` closes `outfd` once, by itself or in its destructor. -/
private theorem closeOutputFd_twice (hfd : 0 ≤ outfd) :
    (OutFdEnv.closeOutputFd (OutFdEnv.closeOutputFd outfd table).1
      (OutFdEnv.closeOutputFd outfd table).2).2 = table.close outfd := by
  have hvalid : outfd > -1 := by omega
  simp [OutFdEnv.closeOutputFd, hvalid]

/-- A descriptor that has not been closed is closed once. -/
private theorem count_close (h : outfd ∉ table.closes) :
    (table.close outfd).closes.count outfd = 1 := by
  show (table.closes ++ [outfd]).count outfd = 1
  rw [List.count_append, List.count_eq_zero.mpr h, List.count_singleton_self]

/-- The four early returns of `Request`. -/
private theorem request_of_not_admitted {service : DumpManagerService} {hasDumpPermission : Bool}
    (args : List Str16) (h : ¬Admitted service hasDumpPermission) :
    env.request service hasDumpPermission args outfd table =
      OutFdEnv.handleRequestError outfd table := by
  unfold OutFdEnv.request
  split
  · rfl
  split
  · rfl
  split
  · rfl
  split
  · rfl
  · -- No check has failed.
    rename_i hblock hstarted hpermission hsum
    refine absurd ⟨Bool.eq_false_iff.mpr hblock, ?_, ?_, Nat.lt_of_not_le hsum⟩ h
    · simpa using hstarted
    · simpa using hpermission

/-- An admitted request runs. -/
private theorem request_of_admitted {service : DumpManagerService} {hasDumpPermission : Bool}
    (args : List Str16) (h : Admitted service hasDumpPermission) :
    env.request service hasDumpPermission args outfd table = env.requestMain args outfd table := by
  obtain ⟨hblock, hstarted, hpermission, hsum⟩ := h
  unfold OutFdEnv.request
  rw [hblock, hstarted, hpermission, Bool.not_true, if_neg Bool.false_ne_true,
    if_neg Bool.false_ne_true, if_neg Bool.false_ne_true, if_neg (by omega)]

/-- The end of `RequestMain` closes `outfd`, whatever happened before. -/
private theorem requestMain_eq (hfd : 0 ≤ outfd) (args : List Str16) :
    env.requestMain args outfd table =
      (if 0 < (ArgTable.init env.codec env.ctx.sys.strings args).getArgc then
        env.main (env.argv args) outfd table else table).close outfd :=
  closeOutputFd_twice hfd

/-- A request with a valid `outfd` closes it exactly once if and only if it is turned down,
    or its arguments do not get to the new structure. -/
theorem outfd_closed_once_iff (service : DumpManagerService) (hasDumpPermission : Bool)
    (args : List Str16) (outfd : Int) (others : List Int) (hfd : 0 ≤ outfd) :
    (env.request service hasDumpPermission args outfd ⟨outfd :: others, []⟩).closes.count outfd =
        1 ↔
      ¬(Admitted service hasDumpPermission ∧ UsesNewStruct env args) := by
  have hstart : OutOpen outfd ⟨outfd :: others, []⟩ := ⟨List.mem_cons_self, nofun⟩
  by_cases hadmitted : Admitted service hasDumpPermission
  · rw [request_of_admitted env args hadmitted, requestMain_eq env hfd]
    by_cases hnew : UsesNewStruct env args
    · -- The context and `RawParam` have one descriptor.
      obtain ⟨hargc, opts, hparse, hsupport⟩ := hnew
      rw [if_pos hargc, main_newStruct env hfd hparse hsupport]
      apply iff_of_false
      · simp [FdTable.close]
      · exact fun h => h ⟨hadmitted, hargc, opts, hparse, hsupport⟩
    -- Only the caller closes `outfd`.
    · apply iff_of_true
      · apply count_close
        apply OutOpen.notMem_closes
        split
        · rename_i hargc
          apply main_outOpen env hfd hstart
          intro opts hparse
          apply Bool.eq_false_iff.mpr
          exact fun hsupport => hnew ⟨hargc, opts, hparse, hsupport⟩
        · exact hstart
      · exact fun h => hnew h.2
  · rw [request_of_not_admitted env args hadmitted, OutFdEnv.handleRequestError, if_pos (by omega)]
    apply iff_of_true
    · exact count_close hstart.notMem_closes
    · exact fun h => hadmitted h.1

end Request

/-- A device on which the second executor of a request, the output, opens its log. -/
def listingEnv (isNewStructSupport : DumperOpts → Bool) : OutFdEnv String where
  codec := plainCodec
  ctx := notesDevice
  uniqueFd := ⟨fun fd => if fd < 0 then [] else [fd], fun fd hfd => if_neg (by omega)⟩
  isNewStructSupport := isNewStructSupport
  calls := [(0, .preExecute 4), (1, .preExecute 5), (1, .reset)]

/-- `hidumper --zip -ls`, with the parent process that the client adds. -/
def listingArgs : List String := ["hidumper", "--zip", "-ls", "1"]

/-- The request as the service answers it. -/
theorem outfd_closed_once_legacy :
    0 ≤ (3 : Int) ∧ ((listingEnv isNewStructSupport).request DumpManagerService.init true
      listingArgs 3 ⟨[3, 0, 1, 2], []⟩).closes.count 3 = 1 := by
  have hiff := outfd_closed_once_iff (listingEnv isNewStructSupport) DumpManagerService.init true
    listingArgs 3 [0, 1, 2] (by decide)
  refine ⟨by decide, hiff.mpr ?_⟩
  rintro ⟨-, -, opts, -, hsupport⟩
  exact nomatch hsupport

/-- The request when the new structure is used: the context closes the descriptor, and
    `RawParam` closes it again. -/
theorem outfd_closed_twice :
    ¬((listingEnv fun _ => true).request DumpManagerService.init true listingArgs 3
      ⟨[3, 0, 1, 2], []⟩).closes.count 3 = 1 := by
  have hcloses : ((listingEnv fun _ => true).request DumpManagerService.init true listingArgs 3
      ⟨[3, 0, 1, 2], []⟩).closes = [3, 3] := by decide +kernel
  rw [hcloses]
  decide

end HiDumper.Spec
