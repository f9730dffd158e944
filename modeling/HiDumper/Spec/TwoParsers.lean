import Mathlib.Data.List.DropRight
import HiDumper.Spec.ParserTurns

/-!
# The two parsers compared

`DumpImplement::CmdParseWithParameter` and `CmdParse::Parse` accept a command line exactly
where it passes the checks that both make and the checks of this parser alone, in every
turn and at the end. They agree on a command line if both turn it down, or both accept it
and keep the same options. The own checks of the two differ, and so do two more things: the
pid of the JS heap has another value where it is not given, and only the old parser removes
abilities that are named twice.

## Key results

- `cmdParseWithParameter_ok_iff`, `cmdParse_parse_ok_iff`: what each parser accepts
- `parsers_agree_iff`: where they agree
-/

namespace HiDumper.Spec

open HiDumper.Native Checks

/-! ## Results of `getopt_long` -/

/-- A result with options of these tables. -/
def FromTables (longOptions : List LongOption) (optstring : List Char) (result : GetoptResult) :
    Prop :=
  match result.code with
  | .long name _ => name ∈ longOptions.map LongOption.name
  | .short c _ => (GetoptLong.findShort c optstring).isSome = true
  | .plain _ | .unknown _ => True

section Getopt

variable {longOptions : List LongOption} {optstring : List Char}

/-- A long option that is found is one of the table. -/
theorem mem_of_findLong {name : List Char} {option : LongOption}
    (h : GetoptLong.findLong longOptions name = some option) : option ∈ longOptions := by
  unfold GetoptLong.findLong at h
  split at h
  · rename_i hfind
    rw [← Option.some.inj h]
    exact List.mem_of_find?_eq_some hfind
  · split at h
    · rename_i other hfilter
      rw [← Option.some.inj h]
      have hmem : other ∈ longOptions.filter fun option => name.isPrefixOf option.name.toList := by
        rw [hfilter]
        exact List.mem_singleton_self other
      exact List.mem_of_mem_filter hmem
    · exact nomatch h

/-- A long option is one of the table. -/
private theorem fromTables_longResult (optind : Nat) (next : Option String) (text : List Char) :
    FromTables longOptions optstring (GetoptLong.longResult longOptions optind next text).1 := by
  unfold GetoptLong.longResult
  dsimp only
  split
  · trivial
  · rename_i option hfind
    have hname : option.name ∈ longOptions.map LongOption.name :=
      List.mem_map_of_mem (mem_of_findLong hfind)
    split
    · split
      · trivial
      · exact hname
    · split
      · split
        · trivial
        · exact hname
      · exact hname

/-- Short options are in the option text. -/
private theorem fromTables_shortResults (optind : Nat) (next : Option String) (chars : List Char)
    {result : GetoptResult}
    (h : result ∈ (GetoptLong.shortResults optstring optind next chars).1) :
    FromTables longOptions optstring result := by
  induction chars with
  | nil => exact nomatch h
  | cons c rest ih =>
    unfold GetoptLong.shortResults at h
    dsimp only at h
    split at h
    · rw [List.mem_singleton] at h
      subst h
      trivial
    · rename_i hfind
      rcases List.mem_cons.mp h with rfl | hrest
      · show (GetoptLong.findShort c optstring).isSome = true
        rw [hfind]
        rfl
      · exact ih hrest
    · rename_i hfind
      have hknown : (GetoptLong.findShort c optstring).isSome = true := by
        rw [hfind]
        rfl
      -- An option that needs an argument takes the next element, if there is one.
      split at h
      · rw [List.mem_singleton] at h
        subst h
        exact hknown
      · split at h
        · rw [List.mem_singleton] at h
          subst h
          trivial
        · rw [List.mem_singleton] at h
          subst h
          exact hknown

private theorem fromTables_elementResults (optind : Nat) (next : Option String) (arg : String)
    {result : GetoptResult}
    (h : result ∈ (GetoptLong.elementResults longOptions optstring optind next arg).1) :
    FromTables longOptions optstring result := by
  unfold GetoptLong.elementResults at h
  split at h
  · exact nomatch h
  · dsimp only at h
    rw [List.mem_singleton] at h
    rw [h]
    exact fromTables_longResult optind next _
  · exact fromTables_shortResults optind next _ h
  · rw [List.mem_singleton] at h
    rw [h]
    trivial

/-- What `getoptLong` delivers is of the first element, or of a call for some that follow. -/
private theorem mem_getoptLong_cons {optind : Nat} {arg : String} {rest : List String}
    {result : GetoptResult}
    (h : result ∈ getoptLong longOptions optstring optind (arg :: rest)) :
    result ∈ (GetoptLong.elementResults longOptions optstring optind rest.head? arg).1 ∨
      ∃ optind', ∃ k, result ∈ getoptLong longOptions optstring optind' (rest.drop k) := by
  rw [getoptLong] at h
  dsimp only at h
  split at h
  · rcases List.mem_append.mp h with hfirst | hrest
    · exact .inl hfirst
    · exact .inr ⟨_, 0, hrest⟩
  · rcases List.mem_append.mp h with hfirst | hrest
    · exact .inl hfirst
    · exact .inr ⟨_, 1, hrest⟩
  · exact .inl h

private theorem fromTables_getoptLong (optind : Nat) (args : List String) {result : GetoptResult}
    (h : result ∈ getoptLong longOptions optstring optind args) :
    FromTables longOptions optstring result := by
  induction hlen : args.length using Nat.strong_induction_on generalizing optind args with
  | h n ih =>
    cases args with
    | nil => cases h
    | cons arg rest =>
      rcases mem_getoptLong_cons h with hfirst | ⟨optind', k, hrest⟩
      · exact fromTables_elementResults _ _ _ hfirst
      -- A later call works on fewer arguments.
      · refine ih _ ?_ optind' (rest.drop k) hrest rfl
        rw [← hlen, List.length_drop, List.length_cons]
        omega

end Getopt

/-- A short option that is found is a character of the option text and no colon. -/
theorem mem_of_findShort {c : Char} {optstring : List Char}
    (h : (GetoptLong.findShort c optstring).isSome = true) : c ∈ optstring ∧ c ≠ ':' := by
  induction optstring with
  | nil => exact nomatch h
  | cons d rest ih =>
    unfold GetoptLong.findShort at h
    split at h
    · rename_i hd
      exact ⟨hd.1 ▸ List.mem_cons_self, hd.2⟩
    · exact ⟨List.mem_cons_of_mem _ (ih h).1, (ih h).2⟩

/-- `getopt_long` gives `CmdParse` options that it knows. -/
private theorem isKnown_of_mem {ctx : CmdContext} {argv : List String} {result : GetoptResult}
    (h : result ∈ CmdParse.getoptResults ctx argv) : isKnown ctx.build result := by
  have hfrom := fromTables_getoptLong 1 (argv.drop 1) h
  obtain ⟨code, optind⟩ := result
  cases code with
  | long name optarg => exact hfrom
  | short c optarg =>
    obtain ⟨hmem, hcolon⟩ := mem_of_findShort hfrom
    have hc : c ∈ ['h', 'l', 'c', 's', 'a', ':', 'e', 'p', 'v', 'T', ':'] := hmem
    show c ∈ ['h', 'l', 'c', 's', 'a', 'e', 'p', 'v', 'T']
    simp only [List.mem_cons, List.not_mem_nil, or_false] at hc ⊢
    tauto
  | plain arg => trivial
  | unknown optopt => trivial

/-- Where there is a result, there is an argument. -/
private theorem length_of_mem {ctx : CmdContext} {argv : List String} {result : GetoptResult}
    (h : result ∈ CmdParse.getoptResults ctx argv) : 2 ≤ argv.length := by
  by_contra hlt
  have hnone : argv.drop 1 = [] := List.drop_eq_nil_iff.mpr (by omega)
  rw [CmdParse.getoptResults, hnone] at h
  exact nomatch h

/-! ## Checks at the end -/

section Final

variable (ctx : CmdContext) (argv : List String) (line : CommandLine)

/-- A process that is alive, or 0. -/
def isAliveOrZero (pid : Nat) : Bool := pid = 0 || ctx.sys.checkProcessAlive pid

/-- The processes that both parsers look at are alive. -/
def commonAlive : Bool :=
  ([.cpuUsagePid, .memPid, .processPid, .storagePid, .netPid].all fun field =>
    (line.number field).all fun pid => ctx.sys.checkProcessAlive pid) &&
  [.dumpJsHeapMemPid, .ipcStatPid].all fun field => (line.number field).all (isAliveOrZero ctx)

/-- The checks that both parsers make at the end: the processes are alive, `-l` stands with
    `-s` or `-c`, and the abilities have an id. -/
def commonFinal : Bool :=
  commonAlive ctx line && (!line.isDumpList || line.isDumpSystemAbility || line.isDumpSystem) &&
  line.abilityNames.all fun name => strToId ctx.sys.strings ctx.saNameMap name ≠ -1

/-- Does the command line select anything? -/
def CommandLine.selectsAny : Bool :=
  line.isDumpCpuFreq || line.isDumpCpuUsage || line.isFaultLog || line.isDumpMem ||
    line.isDumpStorage || line.isDumpNet || line.isDumpSystemAbility || line.isDumpSystem ||
    line.isDumpProcesses || line.isShowSmaps || line.isDumpJsHeapMem || line.isDumpIpc

/-- The processes of heap options are alive. -/
def legacyAlive : Bool :=
  (line.number .dumpHeapMemPid).all (isAliveOrZero ctx) && line.heapArg.all (isAliveOrZero ctx)

/-- `--single` with `--mem-jsheap` needs a `--raw` and no thread. -/
def singleAllowed : Bool :=
  !line.isDumpJsHeapMem || !line.isDumpJsHeapCombine ||
    (line.dumpJsRawHeap && (line.number .threadId).all (· = 0))

/-- The checks of `DumpImplement` alone: those of `--single`, something is selected, and all
    labels are known. -/
def legacyFinal : Bool :=
  legacyAlive ctx line && singleAllowed line &&
  (line.selectsAny || argv.length = 1 || (argv.length = 2 && line.zip)) &&
  line.systemArgs.all ["base", "system"].contains

/-- Pid 0 has to be alive as well. -/
def newAlive : Bool :=
  [.dumpJsHeapMemPid, .ipcStatPid].all fun field =>
    line.number field ≠ some 0 || ctx.sys.checkProcessAlive 0

/-- The checks of `CmdParse` alone: that of pid 0, and one label is known. -/
def newFinal : Bool :=
  newAlive ctx line &&
  (line.systemArgs = [] || line.systemArgs.contains "base" || line.systemArgs.contains "system")

/-- What the arguments say. -/
def CommandLine.of : CommandLine :=
  (getoptResults ctx argv).foldl (CommandLine.next ctx argv) {}

/-- The arguments pass a check in every turn and one at the end. -/
def passes (turn : CommandLine → GetoptResult → Bool) (final : CommandLine → Bool) : Bool :=
  allTurns (CommandLine.next ctx argv) turn {} (getoptResults ctx argv) &&
    final (CommandLine.of ctx argv)

/-- All checks that both parsers make. -/
def passesCommon : Bool := passes ctx argv (commonTurn ctx argv) (commonFinal ctx)

/-- All checks of `DumpImplement` alone. -/
def passesLegacy : Bool := passes ctx argv (legacyTurn ctx argv) (legacyFinal ctx argv)

/-- All checks of `CmdParse` alone. -/
def passesNew : Bool := passes ctx argv (newTurn ctx argv) (newFinal ctx)

end Final

section Legacy

variable {ctx : CmdContext} {argv : List String} {line : CommandLine}

/-- A pid passes the check of the old parser if it is not given or its process is alive. -/
private theorem dead_iff (number : Option Nat) :
    (decide (number.elim (-1) Int.ofNat > -1) &&
      !ctx.sys.checkProcessAlive (number.elim (-1) Int.ofNat)) = false ↔
      (number.all fun pid => ctx.sys.checkProcessAlive pid) = true := by
  cases number with
  | none => simp
  | some pid =>
    have hpid : (-1 : Int) < pid := by omega
    simp [hpid]

/-- 0 is not looked at by the old parser for the JS heap and ipc. -/
private theorem dead_or_zero_iff (number : Option Nat) {unset : Int} (hunset : unset ≤ 0) :
    (decide (number.elim unset Int.ofNat > 0) &&
      !ctx.sys.checkProcessAlive (number.elim unset Int.ofNat)) = false ↔
      number.all (isAliveOrZero ctx) = true := by
  cases number with
  | none =>
    have hnot : ¬unset > 0 := by omega
    simp [hnot]
  | some pid =>
    by_cases hpid : pid = 0
    · simp [isAliveOrZero, hpid]
    · have hpos : 0 < pid := by omega
      simp [isAliveOrZero, hpid, hpos]

/-- All pids of the old parser. -/
private theorem checkProcessAlive_ok_iff :
    checkProcessAlive ctx (line.legacyOpts ctx) = .ok () ↔
      (commonAlive ctx line && legacyAlive ctx line) = true := by
  have hfind : checkProcessAlive ctx (line.legacyOpts ctx) = .ok () ↔
      ∀ entry ∈ checkedPids (line.legacyOpts ctx),
        (decide (entry.1 > entry.2) && !ctx.sys.checkProcessAlive entry.1) = false := by
    unfold checkProcessAlive
    split
    · rename_i hnone
      simpa using hnone
    · rename_i pid least hsome
      refine ⟨fun h => (nomatch h), fun h => ?_⟩
      have hdead := List.find?_some hsome
      exact nomatch (h (pid, least) (List.mem_of_find?_eq_some hsome)).symm.trans hdead
  rw [hfind]
  simp only [checkedPids, List.forall_mem_cons, CommandLine.legacyOpts, CommandLine.numberOr,
    dead_iff, dead_or_zero_iff, le_refl, Int.reduceNeg, Int.reduceLE]
  simp [commonAlive, legacyAlive]
  tauto

/-- On an engineering version everything is permitted. -/
private theorem checkDumpPermission_legacyOpts (hengine : ctx.sys.isUserMode = false) :
    checkDumpPermission ctx (line.legacyOpts ctx) = .ok () := by
  have hnone : ((line.legacyOpts ctx).isDumpFd || (line.legacyOpts ctx).isDumpThread) = false := rfl
  unfold checkDumpPermission
  rw [hnone, Bool.false_and, if_neg Bool.false_ne_true, hengine]
  rfl

/-- Both descriptions of a command line have the same `--zip`. -/
private theorem isDumpZip_legacyOpts : (line.legacyOpts ctx).isDumpZip = line.zip := by
  cases hzip : line.zip with
  | false =>
    have hpath : (line.legacyOpts ctx).path = "" := by simp [CommandLine.legacyOpts, hzip]
    rw [DumperOpts.isDumpZip, hpath]
    decide
  | true =>
    have hpath : (line.legacyOpts ctx).path = zipFolder ++ ctx.time ++ ".zip" := by
      simp [CommandLine.legacyOpts, hzip]
    rw [DumperOpts.isDumpZip, hpath]
    simp [startWith, zipFolder]

/-- What the old parser asks of `--single` with a JS heap. -/
private theorem checkJsHeapSingleParam_ok_iff :
    ((line.legacyOpts ctx).isDumpJsHeapMem = true →
      checkJsHeapSingleParam (line.legacyOpts ctx) = .ok ()) ↔ singleAllowed line = true := by
  have hthread : (line.legacyOpts ctx).threadId = 0 ↔ (line.number .threadId).all (· = 0) = true := by
    show line.numberOr 0 .threadId = 0 ↔ _
    rw [CommandLine.numberOr]
    cases line.number .threadId with
    | none => simp
    | some thread => simp
  have hfields : (line.legacyOpts ctx).isDumpJsHeapCombine = line.isDumpJsHeapCombine ∧
      (line.legacyOpts ctx).dumpJsRawHeap = line.dumpJsRawHeap := ⟨rfl, rfl⟩
  unfold checkJsHeapSingleParam singleAllowed
  rw [hfields.1, hfields.2, CommandLine.legacyOpts_isDumpJsHeapMem]
  cases line.isDumpJsHeapMem <;> cases line.isDumpJsHeapCombine <;> cases line.dumpJsRawHeap <;>
    simp [hthread]

/-- Everything is dumped without arguments or with `--zip` alone. -/
private theorem checkUnableToDumpAll_legacyOpts (argc : Nat) :
    checkUnableToDumpAll argc (line.legacyOpts ctx) =
      !(line.selectsAny || argc = 1 || (argc = 2 && line.zip)) := by
  have hselect : (line.legacyOpts ctx).isSelectAny = line.selectsAny := by
    simp [DumperOpts.isSelectAny, CommandLine.selectsAny, CommandLine.legacyOpts]
  rw [checkUnableToDumpAll, hselect, isDumpZip_legacyOpts]
  cases line.selectsAny <;> simp

/-- The last checks of the old parser. -/
private theorem validateDumpOptions_ok_iff (argc : Nat) (opts : DumperOpts) :
    validateDumpOptions ctx argc (line.legacyOpts ctx) = .ok opts ↔
      (singleAllowed line && (line.selectsAny || argc = 1 || (argc = 2 && line.zip))) = true ∧
      opts = line.legacyOpts ctx := by
  have hdetail : checkMemDetailParamSupported ctx (line.legacyOpts ctx) = .ok () := rfl
  have hheap : validateHeapMem ctx argc (line.legacyOpts ctx) = .ok (line.legacyOpts ctx) := rfl
  have hleak : (line.legacyOpts ctx).showLeakThread = false := rfl
  unfold validateDumpOptions
  simp only [bind_eq_ok, checkIf_eq_ok, rejectAs_eq_ok, hdetail, hheap, Except.ok.injEq]
  constructor
  · rintro ⟨_, hsingle, _, -, _, rfl, _, -, _, hall, rfl⟩
    refine ⟨?_, rfl⟩
    rw [Bool.and_eq_true, ← checkJsHeapSingleParam_ok_iff]
    refine ⟨hsingle, ?_⟩
    -- Of the checks only two can fail here: `--single`, and that something is selected.
    by_contra hnot
    rw [Bool.not_eq_true] at hnot
    rw [checkUnableToDumpAll_legacyOpts, hnot] at hall
    cases hall rfl
  · rintro ⟨hcheck, rfl⟩
    rw [Bool.and_eq_true, ← checkJsHeapSingleParam_ok_iff] at hcheck
    refine ⟨(), hcheck.1, (), fun _ => trivial, _, rfl, (), fun h => ?_, (), fun h => ?_, rfl⟩
    · cases hleak.symm.trans h
    · rw [checkUnableToDumpAll_legacyOpts, hcheck.2] at h
      cases h

/-- What is left are the texts that had not been there. -/
private theorem mem_removeDuplicates {seen strList : List String} {str : String} :
    str ∈ removeDuplicates seen strList ↔ str ∈ strList ∧ str ∉ seen := by
  induction strList generalizing seen with
  | nil => simp [removeDuplicates]
  | cons first rest ih =>
    unfold removeDuplicates
    split
    -- Seen before: the first one is dropped.
    · rename_i hseen
      rw [ih, List.mem_cons]
      constructor
      · rintro ⟨hrest, hnew⟩
        exact ⟨.inr hrest, hnew⟩
      · rintro ⟨rfl | hrest, hnew⟩
        · exact absurd hseen hnew
        · exact ⟨hrest, hnew⟩
    -- New: it is kept, and seen from now on.
    · rename_i hseen
      rw [List.mem_cons, ih, List.mem_cons, List.mem_cons, not_or]
      constructor
      · rintro (rfl | ⟨hrest, -, hnew⟩)
        · exact ⟨.inl rfl, hseen⟩
        · exact ⟨.inr hrest, hnew⟩
      · rintro ⟨hmem, hnew⟩
        by_cases hfirst : str = first
        · exact .inl hfirst
        · exact .inr ⟨hmem.resolve_left hfirst, hfirst, hnew⟩

/-- Removing duplicates keeps the texts. -/
private theorem mem_removeDuplicateString {strList : List String} {str : String} :
    str ∈ removeDuplicateString strList ↔ str ∈ strList := by
  simp [removeDuplicateString, mem_removeDuplicates]

/-- What a search finds is not changed. -/
private theorem find?_removeDuplicateString_eq_none {strList : List String} {bad : String → Bool} :
    (removeDuplicateString strList).find? bad = none ↔ (strList.all fun str => !bad str) = true := by
  simp [List.find?_eq_none, mem_removeDuplicateString]

private theorem length_removeDuplicates_le (seen strList : List String) :
    (removeDuplicates seen strList).length ≤ strList.length := by
  induction strList generalizing seen with
  | nil => exact Nat.le_refl 0
  | cons first rest ih =>
    unfold removeDuplicates
    split
    · exact (ih seen).trans (Nat.le_succ _)
    · exact Nat.succ_le_succ (ih (first :: seen))

/-- Nothing is removed where nothing is repeated. -/
private theorem removeDuplicates_eq_iff {seen strList : List String} :
    removeDuplicates seen strList = strList ↔ strList.Nodup ∧ ∀ str ∈ strList, str ∉ seen := by
  induction strList generalizing seen with
  | nil => simp [removeDuplicates]
  | cons first rest ih =>
    unfold removeDuplicates
    split
    · rename_i hseen
      constructor
      · intro heq
        -- A list that loses an element is shorter.
        have hle := length_removeDuplicates_le seen rest
        have hlength := congrArg List.length heq
        rw [List.length_cons] at hlength
        omega
      · rintro ⟨-, hnew⟩
        exact absurd hseen (hnew first List.mem_cons_self)
    · rename_i hseen
      rw [List.cons.injEq, ih, List.nodup_cons]
      simp only [List.mem_cons, not_or, forall_eq_or_imp, true_and]
      constructor
      · rintro ⟨hnodup, hrest⟩
        exact ⟨⟨fun hmem => (hrest first hmem).1 rfl, hnodup⟩, hseen, fun str hmem => (hrest str hmem).2⟩
      · rintro ⟨⟨hfirst, hnodup⟩, -, hrest⟩
        exact ⟨hnodup, fun str hmem => ⟨fun heq => hfirst (heq ▸ hmem), hrest str hmem⟩⟩

private theorem removeDuplicateString_eq_iff {strList : List String} :
    removeDuplicateString strList = strList ↔ strList.Nodup := by
  simp [removeDuplicateString, removeDuplicates_eq_iff]

/-- Trimming keeps the `/` that a path begins with. -/
private theorem startWith_trimStr {rest : List Char} :
    startWith (StringEx.simple.trimStr (String.ofList ('/' :: rest)) ' ') "/" = true := by
  have htrim : (StringEx.simple.trimStr (String.ofList ('/' :: rest)) ' ').toList =
      ('/' :: rest).rdropWhile (fun c => decide (c = ' ')) := by
    simp [StringEx.simple, List.rdropWhile]
  obtain ⟨kept, hprefix⟩ := List.rdropWhile_prefix (fun c => decide (c = ' ')) ('/' :: rest)
  have hne : ('/' :: rest).rdropWhile (fun c => decide (c = ' ')) ≠ [] := by
    rw [Ne, List.rdropWhile_eq_nil_iff]
    intro hall
    exact absurd (hall '/' List.mem_cons_self) (by decide)
  unfold startWith
  rw [htrim]
  cases hlist : ('/' :: rest).rdropWhile (fun c => decide (c = ' ')) with
  | nil => exact absurd hlist hne
  | cons c cs =>
    rw [hlist, List.cons_append] at hprefix
    rw [(List.cons.inj hprefix).1]
    rfl

/-- The labels of the configuration tables. -/
theorem systemList_eq :
    ConfigUtils.getSectionNames .builtin ConfigData.configGroupSystem_ = ["base", "system"] := by
  decide +kernel

/-- A number that is given is not below the unset one. -/
private theorem numberOr_not_lt {unset : Int} (hunset : unset ≤ 0) (field : ValueField) :
    ¬line.numberOr unset field < unset := by
  rw [CommandLine.numberOr]
  cases line.number field with
  | none => simp
  | some number =>
    simp only [Option.elim_some, Int.ofNat_eq_natCast]
    omega

/-- The path is empty or absolute. -/
private theorem path_allowed (hstrings : LawfulStrings ctx.sys.strings) :
    (decide (ctx.sys.strings.trimStr (line.legacyOpts ctx).path ' ' ≠ "") &&
      !startWith (ctx.sys.strings.trimStr (line.legacyOpts ctx).path ' ') "/") = false := by
  rw [hstrings.trimStr]
  show (decide (StringEx.simple.trimStr (if line.zip then _ else _) ' ' ≠ "") &&
    !startWith (StringEx.simple.trimStr (if line.zip then _ else _) ' ') "/") = false
  cases line.zip with
  | false =>
    simp only [Bool.false_eq_true, if_false]
    decide
  | true =>
    obtain ⟨rest, hpath⟩ : ∃ rest, zipFolder ++ ctx.time ++ ".zip" = String.ofList ('/' :: rest) :=
      ⟨"data/log/hidumper/".toList ++ ctx.time.toList ++ ".zip".toList, by
        apply String.toList_inj.mp
        simp [zipFolder]⟩
    simp only [if_true]
    rw [hpath, startWith_trimStr, Bool.not_true, Bool.and_false]

/-- No value is below the least one that is allowed. -/
private theorem find?_least_eq_none {values : List (Int × Int)} :
    values.find? (fun (value, least) => decide (value < least)) = none ↔
      ∀ value ∈ values, ¬value.1 < value.2 := by
  simp [List.find?_eq_none]

/-- What `CheckOptions` lets pass. -/
private theorem checkOptions_eq_none_iff (hstrings : LawfulStrings ctx.sys.strings) :
    checkOptions ctx (removeDuplicateStrings (line.legacyOpts ctx)) = none ↔
      ((!line.isDumpList || line.isDumpSystemAbility || line.isDumpSystem) &&
      (line.abilityNames.all fun name => strToId ctx.sys.strings ctx.saNameMap name ≠ -1) &&
      line.systemArgs.all ["base", "system"].contains) = true := by
  -- The pids that the loop read are not below what is allowed, and those it did not read have
  -- their default.
  have hnot := fun (unset : Int) (hunset : unset ≤ 0) field => @numberOr_not_lt line unset hunset field
  have hle := fun unset hunset field => Int.not_lt.mp (hnot unset hunset field)
  have hpids : ∀ value ∈ ([(line.numberOr (-1) .processPid, -1),
      (line.numberOr (-1) .storagePid, -1), (line.numberOr (-1) .netPid, -1),
      (line.numberOr 0 .dumpJsHeapMemPid, 0), (0, 0), (line.numberOr 0 .threadId, 0),
      (line.numberOr 0 .timeInterval, 0), (line.numberOr (-1) .ipcStatPid, -1)] :
        List (Int × Int)), ¬value.1 < value.2 := by
    simp [hle]
  -- The record is large, so it is kept apart, with the fields that the checks look at.
  obtain ⟨opts, hopts⟩ : ∃ opts, removeDuplicateStrings (line.legacyOpts ctx) = opts := ⟨_, rfl⟩
  have hcpu : ¬opts.cpuUsagePid < -1 := hopts ▸ hnot (-1) (by omega) .cpuUsagePid
  have hmem : ¬opts.memPid < -1 := hopts ▸ hnot (-1) (by omega) .memPid
  have hlist : (opts.isDumpList && !opts.isDumpService && !opts.isDumpSystemAbility &&
      !opts.isDumpSystem) = !(!line.isDumpList || line.isDumpSystemAbility || line.isDumpSystem) := by
    rw [← hopts]
    show (line.isDumpList && true && !line.isDumpSystemAbility && !line.isDumpSystem) = _
    cases line.isDumpList <;> cases line.isDumpSystemAbility <;> cases line.isDumpSystem <;> rfl
  have hevents : (opts.isEventDetail && opts.isEventList) = false := hopts ▸ rfl
  have hprocess : (opts.isDumpFd && opts.isDumpThread) = false := hopts ▸ rfl
  have hpath : (decide (ctx.sys.strings.trimStr opts.path ' ' ≠ "") &&
      !startWith (ctx.sys.strings.trimStr opts.path ' ') "/") = false :=
    hopts ▸ path_allowed hstrings
  have hnames : opts.abilitieNames = removeDuplicateString line.abilityNames := hopts ▸ rfl
  have hlabels : opts.systemArgs = removeDuplicateString line.systemArgs := hopts ▸ rfl
  have hremaining : ∀ value ∈ ([(opts.processPid, -1), (opts.storagePid, -1), (opts.netPid, -1),
      (opts.dumpJsHeapMemPid, 0), (opts.dumpCjHeapMemPid, 0), (opts.threadId, 0),
      (opts.timeInterval, 0), (opts.ipcStatPid, -1)] : List (Int × Int)),
        ¬value.1 < value.2 := by
    rw [← hopts]
    exact hpids
  rw [hopts]
  unfold checkOptions
  dsimp only
  rw [systemList_eq, if_neg hcpu, if_neg hmem, hlist, hevents, hprocess, hpath, hnames, hlabels,
    find?_least_eq_none.mpr hremaining]
  simp only [Bool.false_eq_true, if_false]
  have hnamesIff := @find?_removeDuplicateString_eq_none line.abilityNames fun name =>
    strToId ctx.sys.strings ctx.saNameMap name = -1
  have hlabelsIff := @find?_removeDuplicateString_eq_none line.systemArgs fun arg =>
    !(["base", "system"].contains arg)
  simp only [Bool.not_not] at hlabelsIff
  simp only [ne_eq, decide_not, Bool.and_eq_true, ← hnamesIff, ← hlabelsIff]
  -- What is left are the list, the names of the abilities and the labels, in this order.
  cases (!line.isDumpList || line.isDumpSystemAbility || line.isDumpSystem) with
  | false => simp
  | true =>
    cases (removeDuplicateString line.abilityNames).find? fun name =>
        strToId ctx.sys.strings ctx.saNameMap name = -1 with
    | some name => simp
    | none =>
      cases (removeDuplicateString line.systemArgs).find? fun arg =>
          !(["base", "system"].contains arg) with
      | some arg => simp
      | none => simp

/-- What `DumpImplement` accepts in engine mode, and what it keeps. -/
theorem cmdParseWithParameter_ok_iff (hstrings : LawfulStrings ctx.sys.strings)
    (hengine : ctx.sys.isUserMode = false)
    (hknown : ∀ result ∈ getoptResults ctx argv, isKnown ctx.build result) (opts : DumperOpts) :
    cmdParseWithParameter ctx argv = .ok opts ↔
      (passesCommon ctx argv && passesLegacy ctx argv) = true ∧
      opts = removeDuplicateStrings ((CommandLine.of ctx argv).legacyOpts ctx) := by
  -- The loop passes where the turns of both kinds do.
  have hloop : ∀ parsed, parseOptions ctx argv = .ok parsed ↔
      (allTurns (CommandLine.next ctx argv) (commonTurn ctx argv) {} (getoptResults ctx argv) &&
        allTurns (CommandLine.next ctx argv) (legacyTurn ctx argv) {} (getoptResults ctx argv)) = true ∧
      parsed = (CommandLine.of ctx argv).legacyOpts ctx := by
    intro parsed
    rw [← allTurns_and]
    exact @foldlM_eq_ok_iff _ _ _ _ (CommandLine.next ctx argv) (parseOption ctx argv)
      (CommandLine.legacyOpts ctx)
      (fun line result => commonTurn ctx argv line result && legacyTurn ctx argv line result) _
      (fun line result hmem => parseOption_ok_iff hstrings (hknown result hmem)) {} parsed
  unfold cmdParseWithParameter cmdParseArgs passesCommon passesLegacy passes commonFinal legacyFinal
  simp only [bind_eq_ok, hloop, Bool.and_eq_true]
  constructor
  · rintro ⟨kept, ⟨_, ⟨hturns, rfl⟩, _, halive, _, -, valid, hvalid, hkept⟩, hoptions⟩
    obtain ⟨hallowed, rfl⟩ := (validateDumpOptions_ok_iff argv.length valid).mp hvalid
    rw [← Except.ok.inj hkept] at hoptions
    have halive := checkProcessAlive_ok_iff.mp halive
    cases hchecked : checkOptions ctx
        (removeDuplicateStrings ((CommandLine.of ctx argv).legacyOpts ctx)) with
    | some error =>
      rw [hchecked] at hoptions
      cases hoptions
    | none =>
      rw [hchecked] at hoptions
      have hrest := (checkOptions_eq_none_iff hstrings).mp hchecked
      rw [Bool.and_eq_true] at halive hallowed
      rw [Bool.and_eq_true, Bool.and_eq_true] at hrest
      exact ⟨⟨⟨hturns.1, ⟨halive.1, hrest.1.1⟩, hrest.1.2⟩,
        hturns.2, ⟨⟨halive.2, hallowed.1⟩, hallowed.2⟩, hrest.2⟩, (Except.ok.inj hoptions).symm⟩
  · rintro ⟨⟨⟨hcommon, ⟨halive, hlist⟩, hnames⟩, hlegacy, ⟨⟨halive', hsingle⟩, hselect⟩, hlabels⟩, rfl⟩
    have hchecked : checkOptions ctx
        (removeDuplicateStrings ((CommandLine.of ctx argv).legacyOpts ctx)) = none := by
      rw [checkOptions_eq_none_iff hstrings, Bool.and_eq_true, Bool.and_eq_true]
      exact ⟨⟨hlist, hnames⟩, hlabels⟩
    refine ⟨_, ⟨_, ⟨⟨hcommon, hlegacy⟩, rfl⟩, (), ?_, (), ?_,
      (CommandLine.of ctx argv).legacyOpts ctx, ?_, rfl⟩, ?_⟩
    · rw [checkProcessAlive_ok_iff, halive, halive']
      rfl
    · rw [rejectAs_eq_ok]
      exact checkDumpPermission_legacyOpts hengine
    · rw [validateDumpOptions_ok_iff, hsingle, Bool.true_and]
      exact ⟨hselect, rfl⟩
    · rw [hchecked]

end Legacy

section New

variable {ctx : CmdContext} {argv : List String} {line : CommandLine}

/-- Inserting into a set. -/
private theorem mem_setInsert {set : List String} {value label : String} :
    label ∈ CmdParse.setInsert set value ↔ label = value ∨ label ∈ set := by
  unfold CmdParse.setInsert
  split
  · rename_i hmem
    constructor
    · exact .inr
    · rintro (rfl | hlabel)
      · exact hmem
      · exact hlabel
  · exact List.mem_orderedInsert _

/-- Inserting several labels. -/
private theorem mem_foldl_setInsert {set labels : List String} {label : String} :
    label ∈ labels.foldl CmdParse.setInsert set ↔ label ∈ set ∨ label ∈ labels := by
  induction labels generalizing set with
  | nil => simp
  | cons first rest ih =>
    rw [List.foldl_cons, ih, mem_setInsert, List.mem_cons]
    tauto

/-- A pid passes the check of the new parser, too, if it is not given or its process is alive. -/
private theorem new_dead_iff (number : Option Nat) :
    (decide (number.elim (-1) Int.ofNat < -1) || (decide (number.elim (-1) Int.ofNat > -1) &&
      !ctx.sys.checkProcessAlive (number.elim (-1) Int.ofNat))) = false ↔
      (number.all fun pid => ctx.sys.checkProcessAlive pid) = true := by
  have hnot : ¬number.elim (-1) Int.ofNat < -1 := by
    cases number with
    | none => simp
    | some pid =>
      simp only [Option.elim_some, Int.ofNat_eq_natCast]
      omega
  rw [decide_eq_false hnot, Bool.false_or, dead_iff]

/-- The checks of the two parsers differ for the pid 0 only. -/
private theorem alive_iff_zero (number : Option Nat) :
    (number.all fun pid => ctx.sys.checkProcessAlive pid) = true ↔
      (number.all (isAliveOrZero ctx) && (number ≠ some 0 || ctx.sys.checkProcessAlive 0)) = true := by
  cases number with
  | none => simp
  | some pid =>
    by_cases hpid : pid = 0
    · simp [isAliveOrZero, hpid]
    · simp [isAliveOrZero, hpid]

/-- All pids of the new parser. -/
private theorem cmdParse_checkProcessAlive_ok_iff :
    CmdParse.checkProcessAlive ctx line.newOpts = .ok () ↔
      (commonAlive ctx line && newAlive ctx line) = true := by
  -- The check passes if no pid is dead or below -1.
  have hfind : CmdParse.checkProcessAlive ctx line.newOpts = .ok () ↔
      ∀ pid ∈ CmdParse.checkedPids line.newOpts,
        (decide (pid < -1) || (decide (pid > -1) && !ctx.sys.checkProcessAlive pid)) = false := by
    unfold CmdParse.checkProcessAlive
    split
    · rename_i hnone
      simpa using hnone
    · rename_i pid hsome
      refine ⟨fun h => (nomatch h), fun h => ?_⟩
      have hdead := List.find?_some hsome
      exact nomatch (h pid (List.mem_of_find?_eq_some hsome)).symm.trans hdead
  rw [hfind]
  simp only [CmdParse.checkedPids, List.forall_mem_cons, CommandLine.newOpts, CommandLine.numberOr,
    new_dead_iff]
  rw [alive_iff_zero (line.number .dumpJsHeapMemPid), alive_iff_zero (line.number .ipcStatPid)]
  simp [commonAlive, newAlive]
  tauto

/-- The last checks of the new parser. -/
private theorem verifyOptions_ok_iff :
    CmdParse.verifyOptions ctx line.newOpts = .ok () ↔
      ((!line.isDumpList || line.isDumpSystemAbility || line.isDumpSystem) &&
      (line.abilityNames.all fun name => strToId ctx.sys.strings ctx.saNameMap name ≠ -1) &&
      (line.systemArgs = [] || line.systemArgs.contains "base" ||
        line.systemArgs.contains "system")) = true := by
  have hlist : (line.newOpts.isDumpList && !line.newOpts.isDumpService &&
      !line.newOpts.isDumpSystemAbility && !line.newOpts.isDumpSystem) =
        !(!line.isDumpList || line.isDumpSystemAbility || line.isDumpSystem) := by
    show (line.isDumpList && true && !line.isDumpSystemAbility && !line.isDumpSystem) = _
    cases line.isDumpList <;> cases line.isDumpSystemAbility <;> cases line.isDumpSystem <;> rfl
  -- The labels are kept as a set, which has the same members.
  have hmem : ∀ label, label ∈ line.newOpts.systemArgs ↔ label ∈ line.systemArgs := by
    intro label
    show label ∈ line.systemArgs.foldl CmdParse.setInsert [] ↔ _
    simp [mem_foldl_setInsert]
  have hempty : line.newOpts.systemArgs = [] ↔ line.systemArgs = [] := by
    simp only [List.eq_nil_iff_forall_not_mem, hmem]
  have hlabels : (decide (line.newOpts.systemArgs ≠ []) && !line.newOpts.systemArgs.contains "base" &&
      !line.newOpts.systemArgs.contains "system") =
        !(line.systemArgs = [] || line.systemArgs.contains "base" ||
          line.systemArgs.contains "system") := by
    rw [Bool.eq_iff_iff]
    simp only [List.contains_eq_mem, Bool.and_eq_true, decide_eq_true_eq, Bool.not_eq_true',
      decide_eq_false_iff_not, Bool.or_eq_false_iff, hmem, hempty, ne_eq]
  have hnames : (line.newOpts.abilityNames.find? fun name =>
      strToId ctx.sys.strings ctx.saNameMap name = -1) = none ↔
        (line.abilityNames.all fun name => strToId ctx.sys.strings ctx.saNameMap name ≠ -1) = true := by
    show (line.abilityNames.find? _) = none ↔ _
    simp [List.find?_eq_none]
  unfold CmdParse.verifyOptions
  rw [hlist, hlabels]
  rw [Bool.and_eq_true, Bool.and_eq_true, ← hnames]
  cases (!line.isDumpList || line.isDumpSystemAbility || line.isDumpSystem) with
  | false => simp
  | true =>
    cases line.newOpts.abilityNames.find? fun name =>
        strToId ctx.sys.strings ctx.saNameMap name = -1 with
    | some name => simp
    | none =>
      cases (decide (line.systemArgs = []) || line.systemArgs.contains "base" ||
          line.systemArgs.contains "system") <;> simp

/-- What `CmdParse` accepts, and what it keeps. -/
theorem cmdParse_parse_ok_iff (hstrings : LawfulStrings ctx.sys.strings)
    (hargs : CmdParse.checkArgs argv = true)
    (hsame : CmdParse.getoptResults ctx argv = getoptResults ctx argv) (opts : DumperOptions) :
    CmdParse.parse ctx argv = .ok opts ↔
      (passesCommon ctx argv && passesNew ctx argv) = true ∧
      opts = (CommandLine.of ctx argv).newOpts := by
  -- The loop passes where the turns of both kinds do.
  have hloop : ∀ parsed, (CmdParse.getoptResults ctx argv).foldlM (CmdParse.parseOption ctx argv) {} =
      .ok parsed ↔
      (allTurns (CommandLine.next ctx argv) (commonTurn ctx argv) {} (getoptResults ctx argv) &&
        allTurns (CommandLine.next ctx argv) (newTurn ctx argv) {} (getoptResults ctx argv)) = true ∧
      parsed = (CommandLine.of ctx argv).newOpts := by
    intro parsed
    rw [← allTurns_and, CommandLine.of, ← hsame]
    exact @foldlM_eq_ok_iff _ _ _ _ (CommandLine.next ctx argv) (CmdParse.parseOption ctx argv)
      CommandLine.newOpts
      (fun line result => commonTurn ctx argv line result && newTurn ctx argv line result) _
      (fun line result hmem => cmdParse_parseOption_ok_iff hstrings (isKnown_of_mem hmem)
        (length_of_mem hmem)) {} parsed
  -- A failure only gets another status, so the commands that pass are the same.
  have hrun : CmdParse.parse ctx argv = .ok opts ↔
      (do failIf (!CmdParse.checkArgs argv) ⟨.dumpFail, ""⟩
          let opts ← CmdParse.cmdParseHelper ctx argv
          CmdParse.verifyOptions ctx opts
          .ok opts) = (.ok opts : Except Rejection DumperOptions) := by
    unfold CmdParse.parse
    dsimp only
    split
    · rename_i hok
      rw [hok]
    · rename_i herror
      rw [herror]
      exact ⟨fun h => (nomatch h), fun h => (nomatch h)⟩
  rw [hrun]
  unfold CmdParse.cmdParseHelper passesCommon passesNew passes commonFinal newFinal
  simp only [bind_eq_ok, failIf_eq_ok, hargs, hloop, Bool.and_eq_true, Bool.not_true]
  constructor
  · rintro ⟨_, -, parsed, ⟨_, ⟨hturns, rfl⟩, _, halive, hparsed⟩, _, hverify, hopts⟩
    rw [← Except.ok.inj hparsed] at hverify hopts
    have halive := cmdParse_checkProcessAlive_ok_iff.mp halive
    have hrest := verifyOptions_ok_iff.mp hverify
    rw [Bool.and_eq_true] at halive
    rw [Bool.and_eq_true, Bool.and_eq_true] at hrest
    exact ⟨⟨⟨hturns.1, ⟨halive.1, hrest.1.1⟩, hrest.1.2⟩, hturns.2, halive.2, hrest.2⟩,
      (Except.ok.inj hopts).symm⟩
  · rintro ⟨⟨⟨hcommon, ⟨halive, hlist⟩, hnames⟩, hnew, halive', hlabels⟩, rfl⟩
    refine ⟨(), trivial, (CommandLine.of ctx argv).newOpts, ⟨_, ⟨⟨hcommon, hnew⟩, rfl⟩, (), ?_, rfl⟩,
      (), ?_, rfl⟩
    · rw [cmdParse_checkProcessAlive_ok_iff, halive, halive']
      rfl
    · rw [verifyOptions_ok_iff, Bool.and_eq_true, Bool.and_eq_true]
      exact ⟨⟨hlist, hnames⟩, hlabels⟩

end New

/-! ## Agreement -/

/-- The fields that both parsers keep. -/
def sharedFields (opts : DumperOpts) : DumperOptions where
  cpuUsagePid := opts.cpuUsagePid
  memPid := opts.memPid
  storagePid := opts.storagePid
  netPid := opts.netPid
  processPid := opts.processPid
  dumpJsHeapMemPid := opts.dumpJsHeapMemPid
  threadId := opts.threadId
  ipcStatPid := opts.ipcStatPid
  isDumpCpuFreq := opts.isDumpCpuFreq
  isDumpCpuUsage := opts.isDumpCpuUsage
  isDumpLog := opts.isDumpLog
  isDumpMem := opts.isDumpMem
  isDumpStorage := opts.isDumpStorage
  isDumpNet := opts.isDumpNet
  isDumpList := opts.isDumpList
  isDumpService := opts.isDumpService
  isDumpSystemAbility := opts.isDumpSystemAbility
  isDumpSystem := opts.isDumpSystem
  isDumpProcesses := opts.isDumpProcesses
  isFaultLog := opts.isFaultLog
  isAppendix := opts.isAppendix
  isShowSmaps := opts.isShowSmaps
  isShowSmapsInfo := opts.isShowSmapsInfo
  isDumpJsHeapMem := opts.isDumpJsHeapMem
  isDumpJsHeapMemGC := opts.isDumpJsHeapMemGC
  isDumpJsHeapLeakobj := opts.isDumpJsHeapLeakobj
  isDumpJsHeapCombine := opts.isDumpJsHeapCombine
  isDumpAllIpc := opts.isDumpAllIpc
  isDumpIpc := opts.isDumpIpc
  isDumpIpcStartStat := opts.isDumpIpcStartStat
  isDumpIpcStopStat := opts.isDumpIpcStopStat
  isDumpIpcStat := opts.isDumpIpcStat
  dumpJsRawHeap := opts.dumpJsRawHeap
  abilityArgs := opts.abilitieArgs
  abilityNames := opts.abilitieNames
  systemArgs := opts.systemArgs

/-- The same request: labels are compared as a set, and threads that are not given are the
    same. -/
structure SameRequest (opts : DumperOpts) (options : DumperOptions) : Prop where
  fields : { options with threadId := opts.threadId, systemArgs := opts.systemArgs } = sharedFields opts
  threadId : options.threadId = opts.threadId ∨ (options.threadId = -1 ∧ opts.threadId = 0)
  systemArgs : ∀ label, label ∈ options.systemArgs ↔ label ∈ opts.systemArgs

/-- Both parsers accept the arguments and keep the same request, or both turn them down. -/
structure ParsersAgree (ctx : CmdContext) (argv : List String) : Prop where
  accepts : (∃ opts, cmdParseWithParameter ctx argv = .ok opts) ↔
    ∃ options, CmdParse.parse ctx argv = .ok options
  request : ∀ opts options, cmdParseWithParameter ctx argv = .ok opts →
    CmdParse.parse ctx argv = .ok options → SameRequest opts options

/-- The two option records ask for the same if the pid of the JS heap is given and no ability
    twice. -/
private theorem sameRequest_iff {ctx : CmdContext} {line : CommandLine} :
    SameRequest (removeDuplicateStrings (line.legacyOpts ctx)) line.newOpts ↔
      line.number .dumpJsHeapMemPid ≠ none ∧ line.abilityNames.Nodup := by
  -- The default of the thread is -1 in one parser and 0 in the other; that is allowed for.
  have hthread : line.newOpts.threadId = (removeDuplicateStrings (line.legacyOpts ctx)).threadId ∨
      (line.newOpts.threadId = -1 ∧ (removeDuplicateStrings (line.legacyOpts ctx)).threadId = 0) := by
    show line.numberOr (-1) .threadId = line.numberOr 0 .threadId ∨
      (line.numberOr (-1) .threadId = -1 ∧ line.numberOr 0 .threadId = 0)
    simp only [CommandLine.numberOr]
    cases line.number .threadId with
    | none => exact .inr ⟨rfl, rfl⟩
    | some thread => exact .inl rfl
  have hlabels : ∀ label, label ∈ line.newOpts.systemArgs ↔
      label ∈ (removeDuplicateStrings (line.legacyOpts ctx)).systemArgs := by
    intro label
    show label ∈ line.systemArgs.foldl CmdParse.setInsert [] ↔
      label ∈ removeDuplicateString line.systemArgs
    simp [mem_foldl_setInsert, mem_removeDuplicateString]
  -- So is the default of the pid of the JS heap, and there it makes a difference.
  have hpid : line.numberOr (-1) .dumpJsHeapMemPid = line.numberOr 0 .dumpJsHeapMemPid ↔
      line.number .dumpJsHeapMemPid ≠ none := by
    simp only [CommandLine.numberOr]
    cases line.number .dumpJsHeapMemPid with
    | none => simp
    | some pid => simp
  have hfields : { line.newOpts with
        threadId := (removeDuplicateStrings (line.legacyOpts ctx)).threadId
        systemArgs := (removeDuplicateStrings (line.legacyOpts ctx)).systemArgs } =
        sharedFields (removeDuplicateStrings (line.legacyOpts ctx)) ↔
      line.numberOr (-1) .dumpJsHeapMemPid = line.numberOr 0 .dumpJsHeapMemPid ∧
      line.abilityNames = removeDuplicateString line.abilityNames := by
    simp [CommandLine.newOpts, sharedFields, removeDuplicateStrings, CommandLine.legacyOpts]
  rw [← hpid, ← removeDuplicateString_eq_iff, eq_comm (a := removeDuplicateString line.abilityNames),
    ← hfields]
  exact ⟨fun h => h.fields, fun h => ⟨h, hthread, hlabels⟩⟩

/-- For arguments within the limits that `getopt_long` takes for the same options with both
    tables, the parsers agree in engine mode exactly where the arguments fail a check of both,
    or pass all checks, give a pid of a JS heap and name no ability twice, or fail a check of
    each parser alone. -/
theorem parsers_agree_iff (ctx : CmdContext) (hstrings : LawfulStrings ctx.sys.strings)
    (hengine : ctx.sys.isUserMode = false) (argv : List String)
    (hargs : CmdParse.checkArgs argv = true)
    (hsame : CmdParse.getoptResults ctx argv = getoptResults ctx argv) :
    ParsersAgree ctx argv ↔
      (passesCommon ctx argv = true →
        (passesLegacy ctx argv = true ∧ passesNew ctx argv = true ∧
          (CommandLine.of ctx argv).number .dumpJsHeapMemPid ≠ none ∧
          (CommandLine.of ctx argv).abilityNames.Nodup) ∨
        (passesLegacy ctx argv = false ∧ passesNew ctx argv = false)) := by
  have hknown : ∀ result ∈ getoptResults ctx argv, isKnown ctx.build result := by
    intro result hmem
    rw [← hsame] at hmem
    exact isKnown_of_mem hmem
  have hlegacy := cmdParseWithParameter_ok_iff hstrings hengine hknown
  have hnew := cmdParse_parse_ok_iff hstrings hargs hsame
  have hlegacyIff : (∃ opts, cmdParseWithParameter ctx argv = .ok opts) ↔
      passesCommon ctx argv = true ∧ passesLegacy ctx argv = true := by
    simp only [hlegacy, exists_and_left, exists_eq, and_true, Bool.and_eq_true]
  have hnewIff : (∃ options, CmdParse.parse ctx argv = .ok options) ↔
      passesCommon ctx argv = true ∧ passesNew ctx argv = true := by
    simp only [hnew, exists_and_left, exists_eq, and_true, Bool.and_eq_true]
  constructor
  · intro hagree hcommon
    have haccepts := hagree.accepts
    rw [hlegacyIff, hnewIff] at haccepts
    by_cases hold : passesLegacy ctx argv = true
    -- Both accept, so their requests are compared.
    · have hown := (haccepts.mp ⟨hcommon, hold⟩).2
      have hrequest := hagree.request _ _ ((hlegacy _).mpr ⟨by simp [hcommon, hold], rfl⟩)
        ((hnew _).mpr ⟨by simp [hcommon, hown], rfl⟩)
      exact .inl ⟨hold, hown, sameRequest_iff.mp hrequest⟩
    · have hown : ¬passesNew ctx argv = true := fun h => hold (haccepts.mpr ⟨hcommon, h⟩).2
      exact .inr ⟨Bool.eq_false_iff.mpr hold, Bool.eq_false_iff.mpr hown⟩
  · intro hchecks
    constructor
    case accepts =>
      rw [hlegacyIff, hnewIff]
      constructor
      · rintro ⟨hcommon, hold⟩
        rcases hchecks hcommon with ⟨-, hown, -⟩ | ⟨hnot, -⟩
        · exact ⟨hcommon, hown⟩
        · exact nomatch hnot.symm.trans hold
      · rintro ⟨hcommon, hown⟩
        rcases hchecks hcommon with ⟨hold, -⟩ | ⟨-, hnot⟩
        · exact ⟨hcommon, hold⟩
        · exact nomatch hnot.symm.trans hown
    case request =>
      intro opts options haccepted haccepted'
      obtain ⟨hpasses, rfl⟩ := (hlegacy opts).mp haccepted
      obtain ⟨-, rfl⟩ := (hnew options).mp haccepted'
      rw [Bool.and_eq_true] at hpasses
      rcases hchecks hpasses.1 with ⟨-, -, hrequest⟩ | ⟨hnot, -⟩
      · exact sameRequest_iff.mpr hrequest
      · exact nomatch hnot.symm.trans hpasses.2

/-- The simple library reads decimal numbers. -/
theorem lawfulStrings_simple : LawfulStrings .simple where
  isNumericStr := rfl
  strToInt_nonneg text value _ hvalue := by
    have hsum : ∀ (chars : List Char) (start : Int), 0 ≤ start →
        0 ≤ chars.foldl (fun (n : Int) c => 10 * n + (c.toNat - '0'.toNat : Nat)) start := by
      intro chars
      induction chars with
      | nil => exact fun _ h => h
      | cons c rest ih =>
        intro start h
        apply ih
        show 0 ≤ 10 * start + ((c.toNat - '0'.toNat : Nat) : Int)
        omega
    simp only [StringEx.simple] at hvalue
    split at hvalue
    · rw [← Option.some.inj hvalue]
      exact hsum _ 0 (Int.le_refl 0)
    · exact nomatch hvalue
  trimStr := rfl
  isSubStr := rfl

/-- `notesDevice` in engine mode. -/
def engineDevice : CmdContext :=
  { notesDevice with sys := { notesDevice.sys with debuggable := "1" } }

/-- `hidumper --mem-jsheap 100 -T 0 --raw --single`. -/
def singleCommand : List String :=
  ["hidumper", "--mem-jsheap", "100", "-T", "0", "--raw", "--single"]

/-- One option that both parsers take. -/
theorem parsers_agree_iff_single : ParsersAgree engineDevice singleCommand := by
  refine (parsers_agree_iff engineDevice lawfulStrings_simple (by decide) singleCommand
    (by decide +kernel) (by decide +kernel)).mpr fun _ => .inl ?_
  decide +kernel

/-- `hidumper --mem-smaps 100`. -/
def smapsCommand : List String := ["hidumper", "--mem-smaps", "100"]

/-- The old parser accepts `--mem-smaps 100`, the new one turns it down. -/
theorem parsers_disagree_smaps :
    LawfulStrings engineDevice.sys.strings ∧ engineDevice.sys.isUserMode = false ∧
    checkArgs smapsCommand = true ∧ CmdParse.checkArgs smapsCommand = true ∧
    CmdParse.getoptResults engineDevice smapsCommand = getoptResults engineDevice smapsCommand ∧
    ¬ParsersAgree engineDevice smapsCommand := by
  refine ⟨lawfulStrings_simple, by decide, by decide +kernel, by decide +kernel, by decide +kernel,
    fun hagree => ?_⟩
  have haccepted : (cmdParseWithParameter engineDevice smapsCommand).toOption.map (fun _ => ()) =
      some () := by decide +kernel
  have hrejected : (CmdParse.parse engineDevice smapsCommand).toOption.map (fun _ => ()) = none := by
    decide +kernel
  obtain ⟨opts, hopts, -⟩ := exists_ok_of_map haccepted
  obtain ⟨options, hoptions⟩ := hagree.accepts.mp ⟨opts, hopts⟩
  rw [hoptions] at hrejected
  exact nomatch hrejected

end HiDumper.Spec
