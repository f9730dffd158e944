import HiDumper.ForStd.FirstOccurrences
import HiDumper.Spec.TwoParsers

/-!
# Lists after `-c` and after `-s`

The usage text has a list of labels after `-c` and a list of abilities after `-s`. A value
goes to the option that stands right before it. For an ability `IsSADumperOption` looks
further back, so every list after `-s` is taken. A label has no such search: the second
one stands after the first, which is no option, and the command is refused.

## Key results

- `getoptLong_plain`: the calls of `getopt_long` for arguments that are no options
- `parseOptions_abilities`, `parseOptions_labels`: the loop over each kind of command line
- `cmdParse_lists_iff`: the lists that `CmdParse` takes
-/

namespace HiDumper.Spec

open HiDumper.Native Checks

/-! ## Duplicates -/

/-- One more text is kept if it has not been there before. -/
private theorem removeDuplicates_concat (seen strList : List String) (str : String) :
    removeDuplicates seen (strList ++ [str]) =
      if str ∈ seen ∨ str ∈ strList then removeDuplicates seen strList
      else removeDuplicates seen strList ++ [str] := by
  induction strList generalizing seen with
  | nil =>
    by_cases hseen : str ∈ seen <;> simp [removeDuplicates, hseen]
  | cons first rest ih =>
    rw [List.cons_append, removeDuplicates, removeDuplicates, ih, ih]
    by_cases hfirst : first ∈ seen
    · -- The first one is dropped; it is the new one only if that was seen as well.
      have hmem : str ∈ seen ∨ str ∈ first :: rest ↔ str ∈ seen ∨ str ∈ rest := by
        rw [List.mem_cons]
        constructor
        · rintro (hseen | rfl | hrest)
          · exact .inl hseen
          · exact .inl hfirst
          · exact .inr hrest
        · rintro (hseen | hrest)
          · exact .inl hseen
          · exact .inr (.inr hrest)
      simp only [if_pos hfirst, hmem]
    · have hmem : str ∈ first :: seen ∨ str ∈ rest ↔ str ∈ seen ∨ str ∈ first :: rest := by
        simp only [List.mem_cons]
        tauto
      simp only [if_neg hfirst, hmem]
      split <;> rfl

/-- `RemoveDuplicateString` keeps the first occurrences. -/
private theorem removeDuplicateString_eq (strList : List String) :
    removeDuplicateString strList = strList.firstOccurrences := by
  unfold removeDuplicateString
  induction strList using List.reverseRecOn with
  | nil => rfl
  | append_singleton strList str ih =>
    rw [removeDuplicates_concat, List.firstOccurrences_concat, ih]
    simp

/-! ## Arguments that are no options -/

/-- Texts in which there is no `-`. -/
def NoDash (arg : String) : Prop := '-' ∉ arg.toList

instance (arg : String) : Decidable (NoDash arg) := inferInstanceAs (Decidable ('-' ∉ arg.toList))

/-- An argument without a dash is no option. -/
private theorem elementResults_plain {longOptions : List LongOption} {optstring : List Char}
    {optind : Nat}
    {next : Option String} {arg : String} (h : NoDash arg) :
    GetoptLong.elementResults longOptions optstring optind next arg =
      ([⟨.plain arg, optind + 1⟩], .one) := by
  unfold GetoptLong.elementResults
  unfold NoDash at h
  split <;> simp_all

/-- The results for such arguments from position `optind` on. -/
def plainResults : Nat → List String → List GetoptResult
  | _, [] => []
  | optind, arg :: rest => ⟨.plain arg, optind + 1⟩ :: plainResults (optind + 1) rest

/-- Arguments without dashes come out as they are. -/
theorem getoptLong_plain {longOptions : List LongOption} {optstring : List Char} {args : List String}
    (h : ∀ arg ∈ args, NoDash arg) (optind : Nat) :
    getoptLong longOptions optstring optind args = plainResults optind args := by
  induction args generalizing optind with
  | nil => rfl
  | cons arg rest ih =>
    rw [getoptLong, elementResults_plain (h arg List.mem_cons_self), plainResults]
    simp [ih fun other hother => h other (List.mem_cons_of_mem arg hother)]

section Values

variable {ctx : CmdContext}

/-- The options whose values `HandleOptionParameter` takes before it looks for `-s`. -/
def valueOptions : List String :=
  ["--cpuusage", "--mem", "--net", "--storage", "-c", "-p", "-T", "-t", "-n", "--list", "--print"]

/-- The options whose values it takes after that. -/
def lateValueOptions : List String :=
  ["--ipc", "--mem-heap", "--native", "--kotlin", "--jsvm", "--arkweb-js"]

private theorem notMem_valueOptions {arg : String} (h : NoDash arg) :
    arg ∉ valueOptions ∧ arg ∉ lateValueOptions := by
  have hdash : ∀ option ∈ valueOptions ++ lateValueOptions, ¬NoDash option := by decide
  constructor
  · exact fun hmem => hdash arg (List.mem_append_left _ hmem) h
  · exact fun hmem => hdash arg (List.mem_append_right _ hmem) h

/-- Behind `-s` an argument is one more ability. -/
private theorem handleOptionParameter_ability {argv : List String} {optind : Nat}
    {optionName : String}
    (hname : optionName ∉ valueOptions) (hability : isSADumperOption ctx argv optind = true)
    (optionValue : String) (opts : DumperOpts) :
    handleOptionParameter ctx argv optind optionName optionValue opts =
      .ok { opts with abilitieNames := opts.abilitieNames ++ [optionValue] } := by
  simp only [valueOptions, List.mem_cons, List.not_mem_nil, or_false, not_or] at hname
  simp [handleOptionParameter, hname, hability]

/-- An option that takes no value refuses one. -/
theorem handleOptionParameter_refused {argv : List String} {optind : Nat} {optionName : String}
    (hname : optionName ∉ valueOptions) (hlate : optionName ∉ lateValueOptions)
    (hability : isSADumperOption ctx argv optind = false)
    (optionValue : String) (opts : DumperOpts) :
    handleOptionParameter ctx argv optind optionName optionValue opts =
      .error ⟨.dumpFail, errorMessageIf opts optionValue⟩ := by
  simp only [valueOptions, lateValueOptions, List.mem_cons, List.not_mem_nil, or_false,
    not_or] at hname hlate
  simp [handleOptionParameter, hname, hlate, hability]

/-- Behind `-c` an argument is one more label. -/
private theorem handleOptionParameter_label {argv : List String} {optind : Nat}
    (optionValue : String)
    (opts : DumperOpts) :
    handleOptionParameter ctx argv optind "-c" optionValue opts =
      .ok { opts with systemArgs := opts.systemArgs ++ [optionValue] } := by
  simp [handleOptionParameter]

/-- An argument without a dash in front has none for `IsSubString` either. -/
private theorem isSubStr_of_noDash (hstrings : LawfulStrings ctx.sys.strings) {arg : String}
    (h : NoDash arg) : ctx.sys.strings.isSubStr arg "-" = false := by
  have hnot : ¬['-'] <:+: arg.toList := fun hinside => h (hinside.subset (by decide))
  rw [hstrings.isSubStr]
  simp [StringEx.simple, contains, hnot]

/-- Behind arguments without a `-` the search of `IsSADumperOption` gets to the option. -/
private theorem isSADumperOption_eq (hstrings : LawfulStrings ctx.sys.strings)
    {program option : String}
    (hoption : StringEx.simple.isSubStr option "-" = true) {before : List String}
    (hbefore : ∀ arg ∈ before, NoDash arg) (after : List String) :
    isSADumperOption ctx (program :: option :: (before ++ after)) (before.length + 3) =
      (decide (option = "-s") || decide (option = "-a")) := by
  have hargs : ((program :: option :: (before ++ after)).take (before.length + 3 - 1)).drop 1 =
      option :: before := by
    simp
  have hnone : before.reverse.find? (ctx.sys.strings.isSubStr · "-") = none := by
    rw [List.find?_eq_none]
    intro arg harg
    simp [isSubStr_of_noDash hstrings (hbefore arg (List.mem_reverse.mp harg))]
  rw [isSADumperOption, hargs, List.reverse_cons, List.find?_append, hnone, hstrings.isSubStr]
  simp [hoption]

/-- The turn for a value that stands after `before`: it goes to the last of them, or to
    the option if there is none. -/
private theorem parseOption_plain (program option value : String) (before after : List String)
    (opts : DumperOpts) :
    parseOption ctx (program :: option :: (before ++ value :: after)) opts
        ⟨.plain value, before.length + 3⟩ =
      handleOptionParameter ctx (program :: option :: (before ++ value :: after)) (before.length + 3)
        ((option :: before).getLast (List.cons_ne_nil _ _)) value opts := by
  have hlt : before.length < (option :: before).length := by simp
  have hprevious : (program :: option :: (before ++ value :: after)).getD (before.length + 1) "" =
      (option :: before).getLast (List.cons_ne_nil _ _) := by
    rw [List.getD_cons_succ, ← List.cons_append, List.getD_eq_getElem?_getD,
      List.getElem?_append_left hlt, List.getElem?_eq_getElem hlt, Option.getD_some,
      List.getLast_eq_getElem]
    simp
  have hvalue : (program :: option :: (before ++ value :: after)).getD (before.length + 2) "" =
      value := by
    rw [List.getD_cons_succ, List.getD_cons_succ, List.getD_eq_getElem?_getD,
      List.getElem?_append_right (Nat.le_refl _)]
    simp
  show setCmdParameter ctx _ (before.length + 3) opts = _
  rw [setCmdParameter, if_pos (by simp)]
  show handleOptionParameter ctx _ _ (List.getD _ (before.length + 1) "")
    (List.getD _ (before.length + 2) "") opts = _
  rw [hprevious, hvalue]

/-- Every value after `-s` is an ability. -/
private theorem foldlM_abilities (hstrings : LawfulStrings ctx.sys.strings) (program : String)
    (abilities before : List String) (h : ∀ arg ∈ before ++ abilities, NoDash arg)
    (opts : DumperOpts) (hopts : opts.abilitieNames = before) :
    (plainResults (before.length + 2) abilities).foldlM
        (parseOption ctx (program :: "-s" :: (before ++ abilities))) opts =
      .ok { opts with abilitieNames := before ++ abilities } := by
  induction abilities generalizing before opts with
  | nil =>
    rw [List.append_nil, ← hopts]
    rfl
  | cons value after ih =>
    have hbefore : ∀ arg ∈ before, NoDash arg := fun arg harg => h arg (List.mem_append_left _ harg)
    -- The element before the value is `-s` or another ability, so the value is an ability.
    have hname : ("-s" :: before).getLast (List.cons_ne_nil _ _) ∉ valueOptions := by
      rcases List.mem_cons.mp (List.getLast_mem (List.cons_ne_nil "-s" before)) with heq | hmem
      · rw [heq]
        decide
      · exact (notMem_valueOptions (hbefore _ hmem)).1
    have hability :=
      @isSADumperOption_eq ctx hstrings program "-s" (by decide) before hbefore (value :: after)
    rw [plainResults, List.foldlM_cons, parseOption_plain,
      handleOptionParameter_ability hname (by rw [hability]; decide), hopts]
    have hsplit : before ++ value :: after = (before ++ [value]) ++ after := by simp
    have hrest := ih (before ++ [value]) (by rwa [← hsplit])
      { opts with abilitieNames := before ++ [value] } rfl
    rw [← hsplit, List.length_append, List.length_singleton] at hrest
    exact hrest

/-- A short option in front of plain arguments. -/
private theorem getoptLong_afterOption {build : Build} {option : String} {c : Char}
    (args : List String)
    (hoption : ∀ next, GetoptLong.elementResults (longOptions build) (optStr.toList.drop 1) 1 next
      option = ([⟨.short c none, 2⟩], .one)) (hargs : ∀ arg ∈ args, NoDash arg) :
    getoptLong (longOptions build) (optStr.toList.drop 1) 1 (option :: args) =
      ⟨.short c none, 2⟩ :: plainResults 2 args := by
  rw [getoptLong, hoption]
  simp [getoptLong_plain hargs]

/-- A list of abilities after `-s`. -/
theorem parseOptions_abilities (hstrings : LawfulStrings ctx.sys.strings) (program : String)
    {abilities : List String} (h : ∀ arg ∈ abilities, NoDash arg) :
    parseOptions ctx (program :: "-s" :: abilities) =
      .ok { isDumpSystemAbility := true, abilitieNames := abilities } := by
  rw [parseOptions, List.drop_succ_cons, List.drop_zero,
    @getoptLong_afterOption ctx.build "-s" 's' abilities (fun _ => rfl) h, List.foldlM_cons]
  show (plainResults 2 abilities).foldlM (parseOption ctx (program :: "-s" :: abilities))
    { isDumpSystemAbility := true } = _
  exact foldlM_abilities hstrings program abilities [] h { isDumpSystemAbility := true } rfl

/-- The first label after `-c` is taken. -/
private theorem parseOptions_firstLabel (program label : String) {rest : List String}
    (h : ∀ arg ∈ label :: rest, NoDash arg) :
    parseOptions ctx (program :: "-c" :: label :: rest) =
      (plainResults 3 rest).foldlM (parseOption ctx (program :: "-c" :: label :: rest))
        { isDumpSystem := true, systemArgs := [label] } := by
  have hfirst := @parseOption_plain ctx program "-c" label [] rest { isDumpSystem := true }
  rw [List.getLast_singleton, handleOptionParameter_label] at hfirst
  rw [parseOptions, List.drop_succ_cons, List.drop_zero,
    @getoptLong_afterOption ctx.build "-c" 'c' _ (fun _ => rfl) h, List.foldlM_cons]
  show (plainResults 2 (label :: rest)).foldlM
    (parseOption ctx (program :: "-c" :: label :: rest)) { isDumpSystem := true } = _
  rw [plainResults, List.foldlM_cons]
  exact congrArg (fun turn : Except Rejection DumperOpts => turn >>= fun opts =>
    (plainResults 3 rest).foldlM (parseOption ctx (program :: "-c" :: label :: rest)) opts) hfirst

/-- A list of labels after `-c`: a second one is refused. -/
theorem parseOptions_labels (hstrings : LawfulStrings ctx.sys.strings) (program : String)
    {labels : List String} (h : ∀ arg ∈ labels, NoDash arg) :
    (labels.length ≤ 1 → parseOptions ctx (program :: "-c" :: labels) =
      .ok { isDumpSystem := true, systemArgs := labels }) ∧
    (1 < labels.length → ∃ e, parseOptions ctx (program :: "-c" :: labels) = .error e) := by
  match labels with
  | [] => exact ⟨fun _ => rfl, fun hlt => absurd hlt (by simp)⟩
  | [label] => exact ⟨fun _ => parseOptions_firstLabel program label h, fun hlt => absurd hlt (by simp)⟩
  | label :: second :: rest =>
    refine ⟨fun hle => absurd hle (by simp), fun _ => ?_⟩
    -- The option of the second label is the first one, and the last `-` before it is in `-c`.
    have hlabel : NoDash label := h label List.mem_cons_self
    have hability := @isSADumperOption_eq ctx hstrings program "-c" (by decide) [label]
      (by simpa using hlabel) (second :: rest)
    have hsecond := @parseOption_plain ctx program "-c" second [label] rest
      { isDumpSystem := true, systemArgs := [label] }
    rw [show ["-c", label].getLast (List.cons_ne_nil _ _) = label from rfl,
      handleOptionParameter_refused (notMem_valueOptions hlabel).1 (notMem_valueOptions hlabel).2
      hability] at hsecond
    rw [parseOptions_firstLabel program label h, plainResults, List.foldlM_cons]
    exact ⟨_, congrArg (fun turn : Except Rejection DumperOpts => turn >>= fun opts =>
      (plainResults 4 rest).foldlM
        (parseOption ctx (program :: "-c" :: label :: second :: rest)) opts) hsecond⟩

/-! ## The checks after the loop -/

/-- Options with lists of labels and abilities, and nothing else. -/
def listOpts (isDumpSystem isDumpSystemAbility : Bool) (labels abilities : List String) :
    DumperOpts :=
  { isDumpSystem := isDumpSystem, isDumpSystemAbility := isDumpSystemAbility,
    systemArgs := labels, abilitieNames := abilities }

/-- The labels of `GetSectionNames(CONFIG_GROUP_SYSTEM_)`. -/
def systemLabels : List String :=
  ConfigUtils.getSectionNames .builtin ConfigData.configGroupSystem_

/-- Known labels and abilities pass the checks. -/
private theorem checkOptions_listOpts (hstrings : LawfulStrings ctx.sys.strings)
    {isDumpSystem isDumpSystemAbility : Bool} {labels abilities : List String}
    (hlabels : ∀ label ∈ labels, label ∈ systemLabels)
    (habilities : ∀ name ∈ abilities, strToId ctx.sys.strings ctx.saNameMap name ≠ -1) :
    checkOptions ctx (listOpts isDumpSystem isDumpSystemAbility labels abilities) = none := by
  have hname : abilities.find? (fun name =>
      strToId ctx.sys.strings ctx.saNameMap name = -1) = none := by
    rw [List.find?_eq_none]
    intro name hname
    simpa using habilities name hname
  have hpath : ctx.sys.strings.trimStr "" ' ' = "" := by
    rw [hstrings.trimStr]
    rfl
  simp [checkOptions, listOpts, hname, hpath]
  split
  · rename_i arg harg
    have hmem := hlabels arg (List.mem_of_find?_eq_some harg)
    have hnot := List.find?_some harg
    simp [systemLabels] at hmem hnot
    exact absurd hmem hnot
  · rfl

/-- The checks after the loop let such options through. -/
private theorem cmdParse_listOpts (hstrings : LawfulStrings ctx.sys.strings) {argv : List String}
    {isDumpSystem isDumpSystemAbility : Bool} {labels abilities : List String}
    (hparse : parseOptions ctx argv =
      .ok (listOpts isDumpSystem isDumpSystemAbility labels abilities))
    (hany : (isDumpSystem || isDumpSystemAbility) = true)
    (hlabels : ∀ label ∈ labels, label ∈ systemLabels)
    (habilities : ∀ name ∈ abilities, strToId ctx.sys.strings ctx.saNameMap name ≠ -1)
    (hargs : checkArgs argv = true) :
    cmdParse ctx argv = .ok (listOpts isDumpSystem isDumpSystemAbility labels.firstOccurrences
      abilities.firstOccurrences) := by
  -- One fact for each stage of the parser, in their order.
  have halive : checkProcessAlive ctx
      (listOpts isDumpSystem isDumpSystemAbility labels abilities) = .ok () := by
    simp [checkProcessAlive, checkedPids, listOpts]
  have hpermission : checkDumpPermission ctx
      (listOpts isDumpSystem isDumpSystemAbility labels abilities) = .ok () := by
    simp [checkDumpPermission, checkUserPermission, listOpts]
  have hselect : ∀ labels abilities,
      (listOpts isDumpSystem isDumpSystemAbility labels abilities).isSelectAny = true := by
    rw [Bool.or_eq_true] at hany
    simpa [DumperOpts.isSelectAny, listOpts] using hany.symm
  have hvalidate : validateDumpOptions ctx argv.length
      (listOpts isDumpSystem isDumpSystemAbility labels abilities) =
        .ok (listOpts isDumpSystem isDumpSystemAbility labels abilities) := by
    simp only [validateDumpOptions, bind_eq_ok, checkIf_eq_ok]
    refine ⟨(), by simp [listOpts], (), by simp [listOpts], _, rfl, (), by simp [listOpts], (), ?_,
      rfl⟩
    simp [checkUnableToDumpAll, hselect]
  have hargsParse : cmdParseArgs ctx argv =
      .ok (listOpts isDumpSystem isDumpSystemAbility labels.firstOccurrences
        abilities.firstOccurrences) := by
    simp only [cmdParseArgs, bind_eq_ok]
    refine ⟨_, hparse, (), halive, (), by rw [hpermission]; rfl, _, hvalidate, ?_⟩
    simp [removeDuplicateStrings, listOpts, removeDuplicateString_eq]
  have hcheck := @checkOptions_listOpts ctx hstrings isDumpSystem isDumpSystemAbility
    labels.firstOccurrences abilities.firstOccurrences (by simpa using hlabels)
    (by simpa using habilities)
  have hparameter : cmdParseWithParameter ctx argv =
      .ok (listOpts isDumpSystem isDumpSystemAbility labels.firstOccurrences
        abilities.firstOccurrences) := by
    simp only [cmdParseWithParameter, bind_eq_ok]
    exact ⟨_, hargsParse, by rw [hcheck]⟩
  simp only [cmdParse, bind_eq_ok, failIf_eq_ok]
  exact ⟨(), by rw [hargs]; rfl, _, hparameter, by rw [if_pos (hselect _ _)]⟩

end Values

/-! ## Labels and abilities -/

/-- `saNameMap_`: no ability has the id that stands for an unknown one, and no name has
    a `-`. -/
structure LawfulNames (saNameMap : List (Int × String)) : Prop where
  id_ne : ∀ entry ∈ saNameMap, entry.1 ≠ -1
  noDash : ∀ entry ∈ saNameMap, NoDash entry.2

/-- The name of an ability, or an id in digits. -/
def ValidAbility (ctx : CmdContext) (name : String) : Prop :=
  (∃ entry ∈ ctx.saNameMap, entry.2 = name) ∨
    (ctx.sys.strings.isNumericStr name = true ∧ (ctx.sys.strings.strToInt name).isSome = true)

section Lists

variable {ctx : CmdContext}

/-- A valid ability has an id. -/
theorem ValidAbility.strToId_ne (hstrings : LawfulStrings ctx.sys.strings)
    (hnames : LawfulNames ctx.saNameMap) {name : String} (h : ValidAbility ctx name) :
    strToId ctx.sys.strings ctx.saNameMap name ≠ -1 := by
  unfold strToId
  cases hfind : ctx.saNameMap.find? (·.2 = name) with
  | some entry => exact hnames.id_ne entry (List.mem_of_find?_eq_some hfind)
  | none =>
    rcases h with ⟨entry, hentry, heq⟩ | ⟨hnumeric, hsome⟩
    · -- A name of the map is found in it.
      have hnot := List.find?_eq_none.mp hfind entry hentry
      simp [heq] at hnot
    · obtain ⟨value, hvalue⟩ := Option.isSome_iff_exists.mp hsome
      have hnonneg := hstrings.strToInt_nonneg name value hnumeric hvalue
      simp only [hvalue, Option.getD_some]
      omega

/-- A valid ability is no option. -/
theorem ValidAbility.noDash (hstrings : LawfulStrings ctx.sys.strings)
    (hnames : LawfulNames ctx.saNameMap) {name : String} (h : ValidAbility ctx name) :
    NoDash name := by
  rcases h with ⟨entry, hentry, rfl⟩ | ⟨hnumeric, -⟩
  · exact hnames.noDash entry hentry
  · rw [hstrings.isNumericStr] at hnumeric
    simp only [StringEx.simple, Bool.and_eq_true, List.all_eq_true] at hnumeric
    exact fun hdash => absurd (hnumeric.2 '-' hdash) (by decide)

private theorem noDash_of_mem_systemLabels {label : String} (h : label ∈ systemLabels) :
    NoDash label := by
  rw [systemLabels, systemList_eq] at h
  have hall : ∀ label ∈ ["base", "system"], NoDash label := by decide
  exact hall label h

/-- Lists of labels after `-c` and lists of abilities after `-s` are both taken, each
    element once, if and only if there is at most one label and `CheckArgs` lets the
    abilities through. -/
theorem cmdParse_lists_iff (ctx : CmdContext) (hstrings : LawfulStrings ctx.sys.strings)
    (hnames : LawfulNames ctx.saNameMap) (program : String) (labels abilities : List String)
    (hlabels : ∀ label ∈ labels, label ∈ systemLabels)
    (habilities : ∀ name ∈ abilities, ValidAbility ctx name) :
    ((∃ opts, cmdParse ctx (program :: "-c" :: labels) = .ok opts ∧
        opts.systemArgs = labels.firstOccurrences) ∧
      ∃ opts, cmdParse ctx (program :: "-s" :: abilities) = .ok opts ∧
        opts.abilitieNames = abilities.firstOccurrences) ↔
      labels.length ≤ 1 ∧ checkArgs (program :: "-s" :: abilities) = true := by
  have hdash : ∀ label ∈ labels, NoDash label :=
    fun label hlabel => noDash_of_mem_systemLabels (hlabels label hlabel)
  have hids : ∀ name ∈ abilities, strToId ctx.sys.strings ctx.saNameMap name ≠ -1 :=
    fun name hname => (habilities name hname).strToId_ne hstrings hnames
  have hparsed := parseOptions_labels hstrings program hdash
  have hability := parseOptions_abilities hstrings program
    fun name hname => (habilities name hname).noDash hstrings hnames
  constructor
  · rintro ⟨⟨opts, hopts, -⟩, ⟨opts', hopts', -⟩⟩
    constructor
    · -- The loop refuses a second label.
      by_contra hmany
      obtain ⟨e, he⟩ := hparsed.2 (by omega)
      simp [cmdParse, cmdParseWithParameter, cmdParseArgs, he] at hopts
    · simp only [cmdParse, bind_eq_ok, failIf_eq_ok] at hopts'
      obtain ⟨-, hargs, -⟩ := hopts'
      simpa using hargs
  -- A label is short enough for `CheckArgs`, so only the number of arguments matters.
  · rintro ⟨hone, hargs⟩
    have hlabelArgs : checkArgs (program :: "-c" :: labels) = true := by
      have hshort : ∀ label ∈ labels,
          (label ≠ "" && label.utf8ByteSize ≤ singleArgMaxLen) = true := by
        intro label hlabel
        have hmem := hlabels label hlabel
        rw [systemLabels, systemList_eq] at hmem
        have hall : ∀ label ∈ ["base", "system"],
            (label ≠ "" && label.utf8ByteSize ≤ singleArgMaxLen) = true := by decide
        exact hall label hmem
      simp only [checkArgs, Bool.and_eq_true, List.all_cons] at hargs
      simp only [checkArgs, List.all_cons, hargs.2.1, List.all_eq_true.mpr hshort, Bool.true_and,
        Bool.and_true, List.length_cons]
      rw [show ("-c" ≠ "" && "-c".utf8ByteSize ≤ singleArgMaxLen) = true by decide, Bool.and_true,
        decide_eq_true_eq, argMaxCount]
      omega
    exact ⟨⟨_, cmdParse_listOpts hstrings (hparsed.1 hone) rfl hlabels (by simp) hlabelArgs, rfl⟩,
      ⟨_, cmdParse_listOpts hstrings hability rfl (by simp) hids hargs, rfl⟩⟩

end Lists

/-- A device with two abilities. -/
def abilityDevice : CmdContext :=
  { notesDevice with saNameMap := [(10, "RenderService"), (3008, "NetsysNative")] }

private theorem lawfulNames_abilityDevice : LawfulNames abilityDevice.saNameMap :=
  ⟨by decide, by decide⟩

/-- `hidumper -c base system` is refused, although both are labels. -/
theorem not_cmdParse_twoLabels :
    (∀ label ∈ ["base", "system"], label ∈ systemLabels) ∧
      ¬∃ opts, cmdParse abilityDevice ("hidumper" :: "-c" :: ["base", "system"]) = .ok opts ∧
        opts.systemArgs = ["base", "system"].firstOccurrences := by
  refine ⟨by simp [systemLabels, systemList_eq], ?_⟩
  rintro ⟨opts, hopts, -⟩
  have hparsed := @parseOptions_labels abilityDevice lawfulStrings_simple "hidumper"
    ["base", "system"] (by decide)
  obtain ⟨e, he⟩ := hparsed.2 (by decide)
  simp [cmdParse, cmdParseWithParameter, cmdParseArgs, he] at hopts

/-- `hidumper -c system`, and `hidumper -s` with two abilities, one of them twice. -/
theorem cmdParse_lists_iff_repeated :
    (∃ opts, cmdParse abilityDevice ("hidumper" :: "-c" :: ["system"]) = .ok opts ∧
        opts.systemArgs = ["system"].firstOccurrences) ∧
      ∃ opts, cmdParse abilityDevice
          ("hidumper" :: "-s" :: ["NetsysNative", "RenderService", "NetsysNative"]) = .ok opts ∧
        opts.abilitieNames =
          ["NetsysNative", "RenderService", "NetsysNative"].firstOccurrences := by
  refine (cmdParse_lists_iff abilityDevice lawfulStrings_simple lawfulNames_abilityDevice "hidumper"
    ["system"] ["NetsysNative", "RenderService", "NetsysNative"]
    (by simp [systemLabels, systemList_eq]) ?_).mpr ⟨by decide, by decide +kernel⟩
  intro name hname
  left
  have hall : ∀ name ∈ ["NetsysNative", "RenderService", "NetsysNative"],
      ∃ entry ∈ abilityDevice.saNameMap, entry.2 = name := by decide
  exact hall name hname

end HiDumper.Spec
