import HiDumper.Spec.ListOptions

/-!
# The routes of the values

`written` lists the values on a command line as `getopt_long` understands it: the argument it
gives an option, else the element right after the option if that is no option. What the parser
stores is what it reads (`OptionReads`), and it reads by other routes: the element before
`optind` for the option whose name stands before that, or `argv[2]`. The routes miss a value
that is attached to its option (`--mem=5`, `-n5`) and that of a `--mem-smaps` that is not the
first option, and they take the argument of another option for an option if it is spelled like
one (`-a --mem 5`). Where none of this is on the command line (`RoutesReach`), every accepted
value is read where it is written, however options are abbreviated or put together: the parser
knows an option by its full name only, and refuses a value behind anything else.

## Key results

- `elementResults_element`: the ways in which `getopt_long` takes an element
- `readOfName_long`, `readOfName_short`: an accepted value belongs to the option before it
- `lastRead_eq_lastWritten`: the routes reach what is written
-/

namespace HiDumper.Spec

open HiDumper.Native Checks

/-! ## Written values -/

/-- The field of a long option that carries a value. -/
def fieldOfLong (name : String) : Option ValueField :=
  match name with
  | "cpuusage" => some .cpuUsagePid
  | "mem" => some .memPid
  | "mem-smaps" => some .memPid
  | "net" => some .netPid
  | "storage" => some .storagePid
  | "ipc" => some .ipcStatPid
  | "mem-jsheap" => some .dumpJsHeapMemPid
  | "mem-cjheap" => some .dumpCjHeapMemPid
  | "mem-heap" => some .dumpHeapMemPid
  | _ => none

/-- The field of a short option that carries a value. -/
def fieldOfShort (c : Char) : Option ValueField :=
  match c with
  | 'p' => some .processPid
  | 'T' => some .threadId
  | 't' => some .timeInterval
  | 'n' => some .showEventCount
  | _ => none

/-- The option a call of `getopt_long` returns, with the argument it gives it. -/
def occurrence : GetoptCode → Option (ValueField × Option String)
  | .long name optarg => (fieldOfLong name).map (·, optarg)
  | .short c optarg => (fieldOfShort c).map (·, optarg)
  | .plain _ | .unknown _ => none

/-- The element that the next call returns, if it is no option. -/
def nextPlain : List GetoptResult → Option String
  | ⟨.plain value, _⟩ :: _ => some value
  | _ => none

/-- `--mem SIGINT` stops the interval sessions: this is a word, not a value. -/
def isStopWord (field : ValueField) (value : String) : Bool := field = .memPid && value = "SIGINT"

/-- The values of the options, in the order of the command line. -/
def written : List GetoptResult → List (ValueField × String)
  | [] => []
  | result :: rest =>
    match occurrence result.code with
    | none => written rest
    | some (field, optarg) =>
      match optarg.or (nextPlain rest) with
      | none => written rest
      | some value =>
        if isStopWord field value then written rest else (field, value) :: written rest

/-- The value of the last occurrence of an option for this field that has one. -/
def lastWritten (results : List GetoptResult) (field : ValueField) : Option String :=
  ((written results).filterMap fun (other, text) =>
    if other = field then some text else none).getLast?

/-! ## Elements -/

section Elements

variable {longOptions : List LongOption} {optstring : List Char}

/-- A short option without an argument. -/
def IsFlag (optstring : List Char) (result : GetoptResult) : Prop :=
  ∃ c optind, result = ⟨.short c none, optind⟩ ∧ GetoptLong.findShort c optstring = some false

/-- The ways in which the element `arg` at `optind` is taken, with the results and where the
    calls go on. -/
inductive Element (longOptions : List LongOption) (optstring : List Char) (optind : Nat)
    (next : Option String) (arg : String) : List GetoptResult → GetoptLong.Next → Prop where
  | plain (harg : arg.toList = ['-'] ∨ arg.toList.head? ≠ some '-') :
      Element longOptions optstring optind next arg [⟨.plain arg, optind + 1⟩] .one
  | stop : Element longOptions optstring optind next arg [] .stop
  /-- `--name`. -/
  | long {text : List Char} {option : LongOption} (harg : arg.toList = '-' :: '-' :: text)
      (hfind : GetoptLong.findLong longOptions text = some option)
      (hopt : option.hasArg ≠ .requiredArgument) :
      Element longOptions optstring optind next arg [⟨.long option.name none, optind + 1⟩] .one
  /-- `--name=value`. -/
  | longAttached {name value : List Char} {option : LongOption}
      (harg : arg.toList = '-' :: '-' :: (name ++ '=' :: value)) (hmem : option ∈ longOptions)
      (hopt : option.hasArg ≠ .noArgument) :
      Element longOptions optstring optind next arg
        [⟨.long option.name (some (String.ofList value)), optind + 1⟩] .one
  /-- `--name value`. -/
  | longArgument {value : String} {option : LongOption} (hnext : next = some value)
      (hmem : option ∈ longOptions) (hopt : option.hasArg = .requiredArgument) :
      Element longOptions optstring optind next arg
        [⟨.long option.name (some value), optind + 2⟩] .two
  /-- `-abc`, all without an argument. -/
  | short {flags : List GetoptResult} {front : List Char} {c : Char}
      (harg : arg.toList = '-' :: (front ++ [c])) (hhead : (front ++ [c]).head? ≠ some '-')
      (hflags : ∀ result ∈ flags, IsFlag optstring result)
      (hfind : GetoptLong.findShort c optstring = some false) :
      Element longOptions optstring optind next arg
        (flags ++ [⟨.short c none, optind + 1⟩]) .one
  /-- `-abcvalue`. -/
  | shortAttached {flags : List GetoptResult} {front value : List Char} {c : Char}
      (harg : arg.toList = '-' :: (front ++ c :: value)) (hhead : (front ++ [c]).head? ≠ some '-')
      (hvalue : value ≠ []) (hflags : ∀ result ∈ flags, IsFlag optstring result)
      (hfind : GetoptLong.findShort c optstring = some true) :
      Element longOptions optstring optind next arg
        (flags ++ [⟨.short c (some (String.ofList value)), optind + 1⟩]) .one
  /-- `-abc value`. -/
  | shortArgument {flags : List GetoptResult} {front : List Char} {c : Char} {value : String}
      (harg : arg.toList = '-' :: (front ++ [c])) (hhead : (front ++ [c]).head? ≠ some '-')
      (hflags : ∀ result ∈ flags, IsFlag optstring result)
      (hfind : GetoptLong.findShort c optstring = some true) (hnext : next = some value) :
      Element longOptions optstring optind next arg
        (flags ++ [⟨.short c (some value), optind + 2⟩]) .two

/-- A call that does not fail. -/
def Known (result : GetoptResult) : Prop := ∀ optopt, result.code ≠ .unknown optopt

/-- An element with two dashes. -/
private theorem longResult_element {optind : Nat} {next : Option String} {arg : String}
    {text : List Char}
    (harg : arg.toList = '-' :: '-' :: text)
    (hknown : Known (GetoptLong.longResult longOptions optind next text).1) :
    Element longOptions optstring optind next arg
      [(GetoptLong.longResult longOptions optind next text).1]
      (GetoptLong.longResult longOptions optind next text).2 := by
  have hsplit := List.takeWhile_append_dropWhile (p := (· ≠ '=')) (l := text)
  unfold GetoptLong.longResult at hknown ⊢
  dsimp only at hknown ⊢
  cases hfind : GetoptLong.findLong longOptions (text.takeWhile (· ≠ '=')) with
  | none =>
    rw [hfind] at hknown
    -- An unknown option.
    exact absurd rfl (hknown none)
  | some option =>
    have hmem := mem_of_findLong hfind
    rw [hfind] at hknown
    dsimp only at hknown ⊢
    cases hvalue : text.dropWhile (· ≠ '=') with
    | nil =>
      rw [hvalue] at hknown hsplit
      rw [List.append_nil] at hsplit
      dsimp only at hknown ⊢
      by_cases hopt : option.hasArg = .requiredArgument
      · rw [if_pos hopt] at hknown ⊢
        cases next with
        -- The argument is missing.
        | none => exact absurd rfl (hknown none)
        | some value => exact .longArgument rfl hmem hopt
      · rw [if_neg hopt]
        exact .long harg (hsplit ▸ hfind) hopt
    -- What does not belong to the name starts with the `=`.
    | cons c value =>
      rw [hvalue] at hknown hsplit
      dsimp only at hknown ⊢
      have hc : c = '=' := by
        have hhead := List.head?_dropWhile_not (· ≠ '=') text
        rw [hvalue] at hhead
        simpa using hhead
      by_cases hopt : option.hasArg = .noArgument
      · rw [if_pos hopt] at hknown
        -- An argument for an option that takes none.
        exact absurd rfl (hknown none)
      · rw [if_neg hopt]
        have hname : arg.toList = '-' :: '-' :: (text.takeWhile (· ≠ '=') ++ '=' :: value) := by
          rw [hc] at hsplit
          rw [harg, hsplit]
        exact .longAttached hname hmem hopt

/-- An element with one dash, behind the flags that it begins with. -/
private theorem shortResults_element {optind : Nat} {next : Option String} {arg : String}
    (flags : List GetoptResult) (front : List Char) {chars : List Char} (hne : chars ≠ [])
    (harg : arg.toList = '-' :: (front ++ chars)) (hhead : (front ++ chars).head? ≠ some '-')
    (hflags : ∀ result ∈ flags, IsFlag optstring result)
    (hknown : ∀ result ∈ (GetoptLong.shortResults optstring optind next chars).1, Known result) :
    Element longOptions optstring optind next arg
      (flags ++ (GetoptLong.shortResults optstring optind next chars).1)
      (GetoptLong.shortResults optstring optind next chars).2 := by
  induction chars generalizing flags front with
  | nil => exact absurd rfl hne
  | cons c rest ih =>
    have hfirst : (front ++ [c]).head? ≠ some '-' := by
      cases front <;> simpa using hhead
    unfold GetoptLong.shortResults at hknown ⊢
    dsimp only at hknown ⊢
    cases hfind : GetoptLong.findShort c optstring with
    | none =>
      simp only [hfind] at hknown
      exact absurd rfl (hknown _ List.mem_cons_self (some c))
    | some takes =>
      cases takes with
      | false =>
        simp only [hfind] at hknown ⊢
        by_cases hrest : rest = []
        · subst hrest
          rw [if_pos rfl]
          exact .short harg hhead hflags hfind
        · -- The option joins those before it.
          rw [if_neg hrest]
          have hjoined := ih (flags ++ [⟨.short c none, optind⟩]) (front ++ [c]) hrest
            (by rw [harg]; simp) (by simpa using hhead) ?_ ?_
          · simpa using hjoined
          · intro result hresult
            rcases List.mem_append.mp hresult with hresult | hresult
            · exact hflags result hresult
            · exact ⟨c, optind, List.mem_singleton.mp hresult, hfind⟩
          · exact fun result hresult => hknown result (List.mem_cons_of_mem _ hresult)
      | true =>
        simp only [hfind] at hknown ⊢
        by_cases hrest : rest = []
        · subst hrest
          simp only [ne_eq, not_true_eq_false, if_false] at hknown ⊢
          cases next with
          | none => exact absurd rfl (hknown _ List.mem_cons_self (some c))
          | some value => exact .shortArgument harg hhead hflags hfind rfl
        · rw [if_pos hrest]
          exact .shortAttached harg hfirst hrest hflags hfind

/-- The ways in which `getopt_long` takes an element. -/
theorem elementResults_element {optind : Nat} {next : Option String} {arg : String}
    (hknown : ∀ result ∈
      (GetoptLong.elementResults longOptions optstring optind next arg).1, Known result) :
    Element longOptions optstring optind next arg
      (GetoptLong.elementResults longOptions optstring optind next arg).1
      (GetoptLong.elementResults longOptions optstring optind next arg).2 := by
  unfold GetoptLong.elementResults at hknown ⊢
  split at hknown
  · exact .stop
  · rename_i text htext harg
    exact longResult_element harg (hknown _ (List.mem_singleton_self _))
  · rename_i c rest hstop hdash harg
    -- A second `-` would have been taken by one of the first two branches.
    refine shortResults_element [] [] (List.cons_ne_nil c rest) harg ?_
      (fun _ h => absurd h List.not_mem_nil) hknown
    intro hc
    obtain rfl : c = '-' := by simpa using hc
    exact hdash rfl
  · rename_i hlong hshort
    refine .plain ?_
    -- What is left is `-` alone, or does not start with `-`.
    cases hchars : arg.toList with
    | nil => exact .inr (by simp)
    | cons c rest =>
      by_cases hc : c = '-'
      · cases rest with
        | nil => exact .inl (by rw [hc])
        | cons d rest =>
          subst hc
          exact absurd hchars (hshort d rest)
      · exact .inr (by simpa using hc)

/-- The results from an element on. -/
private theorem getoptLong_cons {optind : Nat} {arg : String} {rest : List String}
    (hknown : ∀ result ∈ getoptLong longOptions optstring optind (arg :: rest), Known result) :
    ∃ results next, Element longOptions optstring optind rest.head? arg results next ∧
      getoptLong longOptions optstring optind (arg :: rest) =
        match next with
        | .stop => results
        | .one => results ++ getoptLong longOptions optstring (optind + 1) rest
        | .two => results ++ getoptLong longOptions optstring (optind + 2) rest.tail := by
  have heq : getoptLong longOptions optstring optind (arg :: rest) =
      match (GetoptLong.elementResults longOptions optstring optind rest.head? arg).2 with
      | .stop => (GetoptLong.elementResults longOptions optstring optind rest.head? arg).1
      | .one => (GetoptLong.elementResults longOptions optstring optind rest.head? arg).1 ++
        getoptLong longOptions optstring (optind + 1) rest
      | .two => (GetoptLong.elementResults longOptions optstring optind rest.head? arg).1 ++
        getoptLong longOptions optstring (optind + 2) rest.tail := by
    rw [getoptLong]
    cases GetoptLong.elementResults longOptions optstring optind rest.head? arg with
    | mk results next => cases next <;> cases rest <;> simp [getoptLong]
  refine ⟨_, _, elementResults_element fun result hresult => hknown result ?_, heq⟩
  rw [heq]
  split
  · exact hresult
  · exact List.mem_append_left _ hresult
  · exact List.mem_append_left _ hresult

end Elements

/-! ## Names -/

/-- The name by which `HandleOptionParameter` knows the option of a field. -/
def ValueField.optionName : ValueField → Option String
  | cpuUsagePid => some "--cpuusage"
  | memPid => some "--mem"
  | netPid => some "--net"
  | storagePid => some "--storage"
  | processPid => some "-p"
  | threadId => some "-T"
  | timeInterval => some "-t"
  | showEventCount => some "-n"
  | ipcStatPid => some "--ipc"
  | dumpHeapMemPid => some "--mem-heap"
  | dumpJsHeapMemPid | dumpCjHeapMemPid => none

section Names

variable {ctx : CmdContext} {argv : List String}

/-- What is read is the value, for a field whose option has the name. -/
def ReadFor (name value : String) (read : Option (ValueField × String)) : Prop :=
  ∀ field text, read = some (field, text) → field.optionName = some name ∧ text = value

theorem ReadFor.none (name value : String) : ReadFor name value none := by
  intro field text h
  cases h

/-- A value that is read into the field of the option. -/
theorem ReadFor.some {name : String} {field : ValueField} (h : field.optionName = some name)
    (value : String) : ReadFor name value (some (field, value)) := by
  intro other text heq
  obtain ⟨rfl, rfl⟩ := Prod.mk.inj (Option.some.inj heq)
  exact ⟨h, rfl⟩

/-- A choice between two reads is right when each is. -/
theorem ReadFor.ite {name value : String} {c : Prop} [Decidable c]
    {read read' : Option (ValueField × String)} (hthen : c → ReadFor name value read)
    (helse : ReadFor name value read') : ReadFor name value (if c then read else read') := by
  by_cases hc : c
  · rw [if_pos hc]
    exact hthen hc
  · rw [if_neg hc]
    exact helse

/-- `HandleOptionParameter` reads into the field of the option, if it reads at all. -/
private theorem readFor_readOfName (ctx : CmdContext) (argv : List String) (optind : Nat)
    (name value : String) : ReadFor name value (readOfName ctx argv optind name value) := by
  have hnone := ReadFor.none name value
  unfold readOfName
  -- The tests of the source, in its order.
  refine .ite (fun h => .some ?_ value) ?_
  · rw [of_decide_eq_true (Bool.and_eq_true_iff.mp h).2]
    rfl
  refine .ite (fun h => .ite (fun _ => hnone) (.some (h ▸ rfl) value)) ?_
  refine .ite (fun h => .some (h ▸ rfl) value) ?_
  refine .ite (fun h => .some (h ▸ rfl) value) ?_
  refine .ite (fun _ => hnone) ?_
  refine .ite (fun h => .some (h ▸ rfl) value) ?_
  refine .ite (fun h => .some (h ▸ rfl) value) ?_
  refine .ite (fun h => .some (h ▸ rfl) value) ?_
  refine .ite (fun h => .some (h ▸ rfl) value) ?_
  refine .ite (fun _ => hnone) ?_
  refine .ite (fun _ => hnone) ?_
  refine .ite (fun _ => hnone) ?_
  refine .ite (fun h => .some (h ▸ rfl) value) ?_
  exact .ite (fun h => .some (h ▸ rfl) value) hnone

/-- The names are those of long options, or of one character. -/
theorem ValueField.optionName_chars {field : ValueField} {name : String}
    (h : field.optionName = some name) : '=' ∉ name.toList ∧
      ((∃ rest, name.toList = '-' :: '-' :: rest) ∨ ∃ c, name.toList = ['-', c]) := by
  cases field with
  | cpuUsagePid | memPid | netPid | storagePid | ipcStatPid | dumpHeapMemPid =>
    obtain rfl := Option.some.inj h
    exact ⟨by decide, .inl ⟨_, rfl⟩⟩
  | processPid | threadId | timeInterval | showEventCount =>
    obtain rfl := Option.some.inj h
    exact ⟨by decide, .inr ⟨_, rfl⟩⟩
  | dumpJsHeapMemPid | dumpCjHeapMemPid => cases h

/-- Behind an option, `IsSADumperOption` looks at that option. -/
private theorem isSADumperOption_of_dash (hstrings : LawfulStrings ctx.sys.strings) {i : Nat}
    {arg : String}
    (hi : 1 ≤ i) (harg : argv[i]? = some arg) (hdash : '-' ∈ arg.toList) :
    isSADumperOption ctx argv (i + 2) = (decide (arg = "-s") || decide (arg = "-a")) := by
  obtain ⟨hlt, -⟩ := List.getElem?_eq_some_iff.mp harg
  have hlist : (argv.take (i + 2 - 1)).drop 1 = (argv.take i).drop 1 ++ [arg] := by
    have hbefore : i + 2 - 1 = i + 1 := by omega
    rw [hbefore, List.take_add_one, harg,
      List.drop_append_of_le_length (by rw [List.length_take]; omega)]
    rfl
  have hinside : ['-'] <:+: arg.toList := (List.singleton_infix_iff _ _).mpr hdash
  have hne : arg ≠ "" := by
    rintro rfl
    exact absurd hdash (by simp)
  have hsub : ctx.sys.strings.isSubStr arg "-" = true := by
    rw [hstrings.isSubStr]
    simpa [StringEx.simple, contains, hne] using hinside
  rw [isSADumperOption, hlist, List.reverse_append, List.reverse_singleton, List.singleton_append]
  simp only [List.find?_cons, hsub]

/-- Besides, it takes a value for the options it knows only. -/
private theorem mem_of_handleOptionParameter {optind : Nat} {name value : String}
    {opts opts' : DumperOpts}
    (h : handleOptionParameter ctx argv optind name value opts = .ok opts')
    (hability : isSADumperOption ctx argv optind = false) :
    name ∈ valueOptions ++ lateValueOptions := by
  by_contra hnot
  rw [List.mem_append, not_or] at hnot
  rw [handleOptionParameter_refused hnot.1 hnot.2 hability] at h
  exact absurd h (by simp)

/-- The long options among these, without the dashes. -/
def knownLongNames : List String :=
  ["cpuusage", "mem", "net", "storage", "list", "print", "ipc", "mem-heap", "native", "kotlin",
    "jsvm", "arkweb-js"]

/-- The short ones. -/
def knownShortNames : List (String × Char) :=
  [("-c", 'c'), ("-p", 'p'), ("-T", 'T'), ("-t", 't'), ("-n", 'n')]

/-- The options that take a value are long or short ones. -/
private theorem knownName_cases : ∀ name ∈ valueOptions ++ lateValueOptions,
    (∃ long ∈ knownLongNames, name = "--" ++ long) ∨
      ∃ short ∈ knownShortNames, name = short.1 ∧ name.toList = ['-', short.2] := by
  decide +kernel

/-- A full name is no abbreviation of another one. -/
private theorem findLong_knownLongNames {build : Build} {name : String}
    (hname : name ∈ knownLongNames)
    {option : LongOption}
    (hfind : GetoptLong.findLong (longOptions build) name.toList = some option) :
    option.name = name ∧ (name = "cpuusage" → build.hiviewEnable = true) := by
  have hall : knownLongNames.all (fun name =>
      (GetoptLong.findLong (longOptions build) name.toList).all fun option =>
        option.name = name && (name ≠ "cpuusage" || build.hiviewEnable)) = true := by
    obtain ⟨hiview, plugin, emulator⟩ := build
    cases hiview <;> cases plugin <;> cases emulator <;> decide +kernel
  have hthis := List.all_eq_true.mp hall name hname
  rw [hfind] at hthis
  simpa [or_iff_not_imp_left] using hthis

/-- The value for an option, if it is one. -/
def valueFor (field : Option ValueField) (value : String) : Option (ValueField × String) :=
  field.bind fun field => if isStopWord field value then none else some (field, value)

/-- A value goes to the field of its option. -/
private theorem eq_of_valueFor {option : Option ValueField} {value : String}
    {v : ValueField × String}
    (h : valueFor option value = some v) : option = some v.1 := by
  obtain ⟨field, rfl, hvalue⟩ := Option.bind_eq_some_iff.mp h
  split at hvalue
  · cases hvalue
  · rw [← Option.some.inj hvalue]

/-- The options whose names the parser does not look at. -/
private theorem name_of_optionName_none {name : String} {field : ValueField}
    (h : fieldOfLong name = some field) (hname : field.optionName = none) :
    name = "mem-jsheap" ∨ name = "mem-cjheap" := by
  unfold fieldOfLong at h
  split at h
  case h_7 => exact .inl rfl
  case h_8 => exact .inr rfl
  case h_10 => cases h
  all_goals
    obtain rfl := Option.some.inj h
    exact absurd hname (Option.some_ne_none _)

/-- An accepted value behind a long option belongs to this option: the option has its full
    name. -/
theorem readOfName_long (hstrings : LawfulStrings ctx.sys.strings) {i : Nat} {arg value : String}
    {text : List Char} {option : LongOption} {opts opts' : DumperOpts} (hi : 1 ≤ i)
    (hargv : argv[i]? = some arg) (harg : arg.toList = '-' :: '-' :: text)
    (hfind : GetoptLong.findLong (longOptions ctx.build) text = some option)
    (hok : handleOptionParameter ctx argv (i + 2) arg value opts = .ok opts') :
    readOfName ctx argv (i + 2) arg value = valueFor (fieldOfLong option.name) value := by
  have hability : isSADumperOption ctx argv (i + 2) = false := by
    rw [isSADumperOption_of_dash hstrings hi hargv (by simp [harg]), Bool.or_eq_false_iff]
    constructor
    · exact decide_eq_false fun heq => by simp [heq] at harg
    · exact decide_eq_false fun heq => by simp [heq] at harg
  have hlong : ∃ name ∈ knownLongNames, arg = "--" ++ name := by
    rcases knownName_cases arg (mem_of_handleOptionParameter hok hability) with hlong | hshort
    · exact hlong
    · -- The short ones have one dash only.
      obtain ⟨short, hmem, -, hchars⟩ := hshort
      have hdash : short.2 = '-' := (List.cons.inj (List.cons.inj (hchars.symm.trans harg)).2).1
      have hnone : ∀ short ∈ knownShortNames, short.2 ≠ '-' := by decide
      exact absurd hdash (hnone short hmem)
  obtain ⟨name, hname, rfl⟩ := hlong
  have htext : text = name.toList := by
    rw [String.toList_append] at harg
    exact (List.cons.inj (List.cons.inj harg).2).2.symm
  rw [htext] at hfind
  obtain ⟨hoption, hcpu⟩ := findLong_knownLongNames hname hfind
  rw [hoption]
  simp only [knownLongNames, List.mem_cons, List.not_mem_nil, or_false] at hname
  rcases hname with rfl | rfl | rfl | rfl | rfl | rfl | rfl | rfl | rfl | rfl | rfl | rfl <;>
    simp_all [readOfName, fieldOfLong, valueFor, isStopWord]

/-- An accepted value behind short options belongs to the last of them: that is the only one. -/
theorem readOfName_short (hstrings : LawfulStrings ctx.sys.strings) {i : Nat} {arg value : String}
    {front : List Char} {c : Char} {opts opts' : DumperOpts} (hi : 1 ≤ i)
    (hargv : argv[i]? = some arg) (harg : arg.toList = '-' :: (front ++ [c]))
    (hhead : (front ++ [c]).head? ≠ some '-')
    (hok : handleOptionParameter ctx argv (i + 2) arg value opts = .ok opts') :
    readOfName ctx argv (i + 2) arg value = (fieldOfShort c).map (·, value) := by
  have hlast : ∀ d : Char, arg.toList = ['-', d] → c = d := by
    intro d hchars
    rw [hchars] at harg
    have hsame : [] ++ [d] = front ++ [c] := (List.cons.inj harg).2
    exact (List.cons.inj (List.append_inj' hsame rfl).2).1.symm
  have hsa := isSADumperOption_of_dash hstrings hi hargv (by simp [harg])
  cases hability : isSADumperOption ctx argv (i + 2) with
  | true =>
    -- `-s` and `-a` take names of abilities, and no value of a field.
    rw [hability, eq_comm, Bool.or_eq_true, decide_eq_true_eq, decide_eq_true_eq] at hsa
    rcases hsa with hs | ha
    · rw [hlast 's' (by rw [hs]; rfl), hs]
      simp [readOfName, hability, fieldOfShort]
    · rw [hlast 'a' (by rw [ha]; rfl), ha]
      simp [readOfName, hability, fieldOfShort]
  | false =>
    rcases knownName_cases arg (mem_of_handleOptionParameter hok hability) with hlong | hshort
    · obtain ⟨name, -, hname⟩ := hlong
      rw [hname, String.toList_append] at harg
      rw [← (List.cons.inj harg).2] at hhead
      exact absurd rfl hhead
    · obtain ⟨short, hmem, hname, hchars⟩ := hshort
      rw [hlast short.2 hchars, hname]
      simp only [knownShortNames, List.mem_cons, List.not_mem_nil, or_false] at hmem
      rcases hmem with rfl | rfl | rfl | rfl | rfl <;> simp [readOfName, fieldOfShort]

end Names

/-! ## Turns -/

/-- The argument that `getopt_long` gives an option. -/
def optargOf : GetoptCode → Option String
  | .long _ optarg | .short _ optarg => optarg
  | .plain _ | .unknown _ => none

/-- What one result must be like so that the routes reach the value of a field. -/
structure Reached (argv : List String) (field : ValueField) (result : GetoptResult) : Prop where
  /-- The value of an option for the field is an element of its own. -/
  separate : field.optionName ≠ none → ∀ text, occurrence result.code = some (field, some text) →
    argv[result.optind - 1]? = some text
  /-- `--mem-smaps` is the first option. -/
  smaps : field = .memPid → isLong "mem-smaps" result = true → result.optind = 3
  /-- No argument of an option is spelled like the option for the field. -/
  spelled : optargOf result.code = none ∨ optargOf result.code ≠ field.optionName

/-- The routes of the parser reach every value that is written for a field. -/
structure RoutesReach (ctx : CmdContext) (argv : List String) (field : ValueField) : Prop where
  /-- The program is not called like the option. -/
  program : ∀ name, field.optionName = some name → argv.head? ≠ some name
  results : ∀ result ∈ getoptResults ctx argv, Reached argv field result

section Turns

variable (ctx : CmdContext) (argv : List String) (field : ValueField)

/-- The texts for a field. -/
def textsFor (values : List (ValueField × String)) : List String :=
  values.filterMap fun (other, text) => if other = field then some text else none

/-- The texts that are read for a field, in order. -/
def readTexts (results : List GetoptResult) : List String :=
  textsFor field (results.filterMap (readOf ctx argv))

/-- The loop goes on after this result. -/
def Accepted (result : GetoptResult) : Prop :=
  ∃ opts opts', parseOption ctx argv opts result = .ok opts'

end Turns

section Junctions

variable {ctx : CmdContext} {argv : List String} {field : ValueField}

/-- The texts for a field, in one list of values behind another. -/
private theorem textsFor_append (values values' : List (ValueField × String)) :
    textsFor field (values ++ values') = textsFor field values ++ textsFor field values' :=
  List.filterMap_append

/-- Values for other fields have no text for this one. -/
private theorem textsFor_eq_nil {values : List (ValueField × String)}
    (h : ∀ value ∈ values, value.1 ≠ field) :
    textsFor field values = [] := by
  rw [textsFor, List.filterMap_eq_nil_iff]
  exact fun value hvalue => if_neg (h value hvalue)

/-- The texts read, for results behind others. -/
private theorem readTexts_append (results results' : List GetoptResult) :
    readTexts ctx argv field (results ++ results') =
      readTexts ctx argv field results ++ readTexts ctx argv field results' := by
  rw [readTexts, List.filterMap_append, textsFor_append, readTexts, readTexts]

private theorem readTexts_singleton (result : GetoptResult) :
    readTexts ctx argv field [result] = textsFor field (readOf ctx argv result).toList := by
  rw [readTexts]
  cases hread : readOf ctx argv result <;> simp [hread]

/-- The value written by one option, with the results behind it. -/
def writtenBy (result : GetoptResult) (rest : List GetoptResult) : Option (ValueField × String) :=
  (occurrence result.code).bind fun (field, optarg) =>
    (optarg.or (nextPlain rest)).bind (valueFor (some field))

/-- The values written in a first result and in the rest. -/
private theorem written_cons (result : GetoptResult) (rest : List GetoptResult) :
    written (result :: rest) = (writtenBy result rest).toList ++ written rest := by
  rw [written, writtenBy]
  cases occurrence result.code with
  | none => rfl
  | some occurred =>
    obtain ⟨field, optarg⟩ := occurred
    simp only [Option.bind_some]
    cases optarg.or (nextPlain rest) with
    | none => rfl
    | some value =>
      simp only [Option.bind_some, valueFor]
      split <;> rfl

/-- The value of an option is its argument, or the plain argument behind it. -/
private theorem writtenBy_eq {result : GetoptResult} {rest : List GetoptResult}
    {option : Option ValueField}
    {optarg : Option String} (h : occurrence result.code = option.map (·, optarg)) :
    writtenBy result rest = (optarg.or (nextPlain rest)).bind (valueFor option) := by
  rw [writtenBy, h]
  cases option with
  | none => cases optarg.or (nextPlain rest) <;> rfl
  | some field => rfl

/-- An accepted result is not the one for an unknown option. -/
theorem Accepted.known {result : GetoptResult} (h : Accepted ctx argv result) : Known result := by
  rintro optopt hcode
  obtain ⟨opts, opts', hturn⟩ := h
  rw [parseOption, hcode] at hturn
  exact absurd hturn (by simp)

/-- If the loop succeeds it has accepted every result. -/
private theorem accepted_of_foldlM {results : List GetoptResult} {opts opts' : DumperOpts}
    (h : results.foldlM (parseOption ctx argv) opts = .ok opts') :
    ∀ result ∈ results, Accepted ctx argv result := by
  induction results generalizing opts with
  | nil => exact fun _ h => absurd h List.not_mem_nil
  | cons result results ih =>
    rw [List.foldlM_cons] at h
    obtain ⟨opts₁, hfirst, hrest⟩ := bind_eq_ok.mp h
    intro other hother
    rcases List.mem_cons.mp hother with rfl | hother
    · exact ⟨opts, opts₁, hfirst⟩
    · exact ih hrest other hother

/-- The text that an accepted result is read from is a number. -/
theorem Accepted.isNumericStr {result : GetoptResult} (h : Accepted ctx argv result) {text : String}
    (hread : readOf ctx argv result = some (field, text)) :
    ctx.sys.strings.isNumericStr text = true := by
  obtain ⟨opts, opts', hturn⟩ := h
  exact ((parseOption_turn hturn).value field text hread).1

/-- What is no number is not taken for a value. -/
theorem Accepted.readOf_ne (hstrings : LawfulStrings ctx.sys.strings) {result : GetoptResult}
    (h : Accepted ctx argv result) {text : String} (htext : StringEx.simple.isNumericStr text = false) :
    readOf ctx argv result ≠ some (field, text) := by
  intro hread
  have hnumeric := h.isNumericStr hread
  rw [hstrings.isNumericStr, htext] at hnumeric
  exact Bool.noConfusion hnumeric

section Positions

variable {i : Nat} {arg value : String}

/-- Behind a plain argument the two texts before `optind` are the argument and what stands before
    it. -/
private theorem readBefore_eq (harg : argv[i]? = some arg) (hvalue : argv[i + 1]? = some value) :
    readBefore ctx argv (i + 2) = readOfName ctx argv (i + 2) arg value := by
  obtain ⟨hlt, -⟩ := List.getElem?_eq_some_iff.mp hvalue
  have hbounds : (decide (i + 2 > 1) && decide (i + 2 ≤ argv.length)) = true := by
    simp only [Bool.and_eq_true, decide_eq_true_eq]
    omega
  have hprev : i + 2 - 2 = i := by omega
  have hlast : i + 2 - 1 = i + 1 := by omega
  rw [readBefore, if_pos hbounds, hprev, hlast, List.getD_eq_getElem?_getD,
    List.getD_eq_getElem?_getD, harg, hvalue, Option.getD_some, Option.getD_some]

private theorem setCmdParameter_eq (harg : argv[i]? = some arg) (hvalue : argv[i + 1]? = some value)
    (opts : DumperOpts) :
    setCmdParameter ctx argv (i + 2) opts = handleOptionParameter ctx argv (i + 2) arg value opts := by
  obtain ⟨hlt, -⟩ := List.getElem?_eq_some_iff.mp hvalue
  have hbounds : (decide (i + 2 > 1) && decide (i + 2 ≤ argv.length)) = true := by
    simp only [Bool.and_eq_true, decide_eq_true_eq]
    omega
  have hprev : i + 2 - 2 = i := by omega
  have hlast : i + 2 - 1 = i + 1 := by omega
  rw [setCmdParameter, if_pos hbounds, hprev, hlast, List.getD_eq_getElem?_getD,
    List.getD_eq_getElem?_getD, harg, hvalue, Option.getD_some, Option.getD_some]

/-- Behind an element that is not the name of the option, nothing is read for the field. -/
private theorem readBefore_ne (harg : argv[i]? = some arg) (hvalue : argv[i + 1]? = some value)
    (hname : field.optionName ≠ some arg) (text : String) :
    readBefore ctx argv (i + 2) ≠ some (field, text) := by
  rw [readBefore_eq harg hvalue]
  exact fun hread => hname (readFor_readOfName ctx argv _ _ _ _ _ hread).1

end Positions

/-! ## Results from a position on -/

/-- The results of the calls from an element on. -/
def resultsFrom (ctx : CmdContext) (argv : List String) (i : Nat) : List GetoptResult :=
  getoptLong (longOptions ctx.build) (optStr.toList.drop 1) i (argv.drop i)

/-- The results from an element on are those of the element and those from the next one on. -/
private theorem resultsFrom_cases {i : Nat} {arg : String} (harg : argv[i]? = some arg)
    (hknown : ∀ result ∈ resultsFrom ctx argv i, Known result) :
    ∃ results next,
      Element (longOptions ctx.build) (optStr.toList.drop 1) i argv[i + 1]? arg results next ∧
      resultsFrom ctx argv i =
        match next with
        | .stop => results
        | .one => results ++ resultsFrom ctx argv (i + 1)
        | .two => results ++ resultsFrom ctx argv (i + 2) := by
  obtain ⟨hlt, hget⟩ := List.getElem?_eq_some_iff.mp harg
  have hdrop : argv.drop i = arg :: argv.drop (i + 1) := by
    rw [List.drop_eq_getElem_cons hlt, hget]
  rw [resultsFrom, hdrop] at hknown ⊢
  have hcons := getoptLong_cons hknown
  rw [List.head?_drop, List.tail_drop] at hcons
  exact hcons

/-- The first result, if it is an element that is no option. -/
def firstPlain : List GetoptResult → List GetoptResult
  | ⟨.plain value, optind⟩ :: _ => [⟨.plain value, optind⟩]
  | _ => []

/-- An element with flags begins with no plain argument. -/
private theorem firstPlain_flags {flags rest : List GetoptResult} {c : Char}
    {optarg : Option String}
    {optind : Nat} (hflags : ∀ result ∈ flags, IsFlag (optStr.toList.drop 1) result) :
    firstPlain (flags ++ [⟨.short c optarg, optind⟩] ++ rest) = [] ∧
      nextPlain (flags ++ [⟨.short c optarg, optind⟩] ++ rest) = none := by
  cases flags with
  | nil => exact ⟨rfl, rfl⟩
  | cons result flags =>
    obtain ⟨d, k, rfl, -⟩ := hflags result List.mem_cons_self
    exact ⟨rfl, rfl⟩

/-- The results from an element on begin with a plain argument if the element is one. -/
private theorem firstPlain_cases {i : Nat}
    (hknown : ∀ result ∈ resultsFrom ctx argv i, Known result) :
    (firstPlain (resultsFrom ctx argv i) = [] ∧ nextPlain (resultsFrom ctx argv i) = none) ∨
      ∃ value, argv[i]? = some value ∧
        firstPlain (resultsFrom ctx argv i) = [⟨.plain value, i + 1⟩] ∧
        nextPlain (resultsFrom ctx argv i) = some value ∧
        ⟨.plain value, i + 1⟩ ∈ resultsFrom ctx argv i := by
  cases harg : argv[i]? with
  | none =>
    have hnil : resultsFrom ctx argv i = [] := by
      rw [resultsFrom, List.drop_eq_nil_of_le (List.getElem?_eq_none_iff.mp harg), getoptLong]
    rw [hnil]
    exact .inl ⟨rfl, rfl⟩
  | some arg =>
    obtain ⟨results, next, helement, heq⟩ := resultsFrom_cases harg hknown
    rw [heq]
    cases helement with
    | plain => exact .inr ⟨arg, rfl, rfl, rfl, List.mem_cons_self⟩
    | stop | long | longAttached | longArgument => exact .inl ⟨rfl, rfl⟩
    | short _ _ hflags | shortAttached _ _ _ hflags | shortArgument _ _ hflags =>
      exact .inl (firstPlain_flags hflags)

/-- What stands behind an element that is not the name of the option is not read for the field. -/
private theorem readTexts_firstPlain {i : Nat}
    (hknown : ∀ result ∈ resultsFrom ctx argv (i + 1), Known result)
    (hname : ∀ arg, argv[i]? = some arg → field.optionName ≠ some arg) :
    readTexts ctx argv field (firstPlain (resultsFrom ctx argv (i + 1))) = [] := by
  rcases firstPlain_cases hknown with ⟨hnone, -⟩ | ⟨value, hvalue, hplain, -, -⟩
  · rw [hnone]
    rfl
  · obtain ⟨hlt, -⟩ := List.getElem?_eq_some_iff.mp hvalue
    have harg : argv[i]? = some argv[i] := List.getElem?_eq_getElem (by omega)
    rw [hplain, readTexts_singleton]
    apply textsFor_eq_nil
    intro read hread hfield
    obtain ⟨other, text⟩ := read
    obtain rfl : other = field := hfield
    exact readBefore_ne harg hvalue (hname _ harg) text (Option.mem_toList.mp hread)

/-! ## One element -/

/-- With the element behind it, the last result of an element reads what it writes. -/
def Joint (ctx : CmdContext) (argv : List String) (field : ValueField) (result : GetoptResult)
    (rest : List GetoptResult) : Prop :=
  readTexts ctx argv field [result] ++ readTexts ctx argv field (firstPlain rest) =
    textsFor field (writtenBy result rest).toList

/-- The short options without an argument. -/
private theorem findShort_false {c : Char}
    (h : GetoptLong.findShort c (optStr.toList.drop 1) = some false) : c ∈ "ahceslpv".toList := by
  obtain ⟨hmem, -⟩ := mem_of_findShort (c := c) (by rw [h]; rfl)
  have hall : (optStr.toList.drop 1).all (fun c =>
      GetoptLong.findShort c (optStr.toList.drop 1) = some false → c ∈ "ahceslpv".toList) := by
    decide
  exact of_decide_eq_true (List.all_eq_true.mp hall c hmem) h

/-- The short options with an argument. -/
private theorem findShort_true {c : Char}
    (h : GetoptLong.findShort c (optStr.toList.drop 1) = some true) :
    c = 'a' ∨ c = 'T' ∨ c = 't' ∨ c = 'n' := by
  obtain ⟨hmem, -⟩ := mem_of_findShort (c := c) (by rw [h]; rfl)
  have hall : (optStr.toList.drop 1).all (fun c =>
      GetoptLong.findShort c (optStr.toList.drop 1) = some true →
        c = 'a' ∨ c = 'T' ∨ c = 't' ∨ c = 'n') := by
    decide
  exact of_decide_eq_true (List.all_eq_true.mp hall c hmem) h

/-- A flag reads no value. -/
private theorem readOf_flag {c : Char} (h : c ∈ "ahceslpv".toList) (optarg : Option String)
    (optind : Nat) : readOf ctx argv ⟨.short c optarg, optind⟩ = none := if_pos h

private theorem valueFor_fieldOfShort (c : Char) (value : String) :
    valueFor (fieldOfShort c) value = (fieldOfShort c).map (·, value) := by
  unfold fieldOfShort
  split <;> rfl

/-- Short options without an argument read nothing, and only the last of them could have a value
    behind it. -/
private theorem flags_silent {flags : List GetoptResult}
    (hflags : ∀ result ∈ flags, IsFlag (optStr.toList.drop 1) result) (c : Char)
    (optarg : Option String) (optind : Nat) (rest : List GetoptResult) :
    readTexts ctx argv field flags = [] ∧
      written (flags ++ ⟨.short c optarg, optind⟩ :: rest) =
        written (⟨.short c optarg, optind⟩ :: rest) := by
  induction flags with
  | nil => exact ⟨rfl, rfl⟩
  | cons result flags ih =>
    obtain ⟨hread, hwritten⟩ := ih fun other hother => hflags other (List.mem_cons_of_mem _ hother)
    obtain ⟨d, k, rfl, hfind⟩ := hflags result List.mem_cons_self
    have hnone : readOf ctx argv ⟨.short d none, k⟩ = none := readOf_flag (findShort_false hfind) _ k
    -- Behind a flag another short option of the same element comes next.
    have hnext : nextPlain (flags ++ ⟨.short c optarg, optind⟩ :: rest) = none := by
      cases flags with
      | nil => rfl
      | cons other flags =>
        obtain ⟨d, k, rfl, -⟩ := hflags other (by simp)
        rfl
    constructor
    · rw [← List.singleton_append, readTexts_append, readTexts_singleton, hnone, hread]
      rfl
    · rw [List.cons_append, written_cons, hwritten, writtenBy_eq rfl, hnext]
      rfl

/-- `--name`, with or without a value behind it. -/
private theorem joint_long (hstrings : LawfulStrings ctx.sys.strings) {i : Nat} {arg : String}
    {text : List Char} {option : LongOption} (hi : 1 ≤ i) (hargv : argv[i]? = some arg)
    (harg : arg.toList = '-' :: '-' :: text)
    (hfind : GetoptLong.findLong (longOptions ctx.build) text = some option)
    (hopt : option.hasArg ≠ .requiredArgument)
    (haccepted : ∀ result ∈ resultsFrom ctx argv (i + 1), Accepted ctx argv result) :
    Joint ctx argv field ⟨.long option.name none, i + 1⟩ (resultsFrom ctx argv (i + 1)) := by
  -- `--mem-smaps` has a required argument in each build, so this is another option and reads
  -- nothing.
  have hsmaps : option.name ≠ "mem-smaps" := by
    have hall : (longOptions ctx.build).all (fun option =>
        option.name ≠ "mem-smaps" || option.hasArg = .requiredArgument) = true := by
      generalize ctx.build = build
      obtain ⟨hiview, plugin, emulator⟩ := build
      cases hiview <;> cases plugin <;> cases emulator <;> decide +kernel
    intro hname
    have hthis := List.all_eq_true.mp hall option (mem_of_findLong hfind)
    simp [hname, hopt] at hthis
  have hnone : readOf ctx argv ⟨.long option.name none, i + 1⟩ = none := by
    simp [readOf, readOfLong, hsmaps]
  rw [Joint, readTexts_singleton, hnone]
  rcases firstPlain_cases fun result hresult => (haccepted result hresult).known with
    ⟨hplain, hnext⟩ | ⟨value, hvalue, hplain, hnext, hmem⟩
  -- No plain element follows: nothing is read and nothing is written.
  · rw [hplain, writtenBy_eq rfl, hnext]
    rfl
  · obtain ⟨opts, opts', hturn⟩ := haccepted _ hmem
    -- The turn of the element behind it was accepted, so the value belongs to this option.
    have hok := (setCmdParameter_eq hargv hvalue opts).symm.trans hturn
    rw [hplain, readTexts_singleton, writtenBy_eq rfl, hnext]
    have hread : readOf ctx argv ⟨.plain value, i + 1 + 1⟩ =
        valueFor (fieldOfLong option.name) value :=
      (readBefore_eq hargv hvalue).trans (readOfName_long hstrings hi hargv harg hfind hok)
    rw [hread]
    rfl

/-- `-abc`, with or without a value behind it. -/
private theorem joint_short (hstrings : LawfulStrings ctx.sys.strings) {i : Nat} {arg : String}
    {front : List Char} {c : Char} (hi : 1 ≤ i) (hargv : argv[i]? = some arg)
    (harg : arg.toList = '-' :: (front ++ [c])) (hhead : (front ++ [c]).head? ≠ some '-')
    (hfind : GetoptLong.findShort c (optStr.toList.drop 1) = some false)
    (haccepted : ∀ result ∈ resultsFrom ctx argv (i + 1), Accepted ctx argv result) :
    Joint ctx argv field ⟨.short c none, i + 1⟩ (resultsFrom ctx argv (i + 1)) := by
  have hnone : readOf ctx argv ⟨.short c none, i + 1⟩ = none :=
    readOf_flag (findShort_false hfind) none (i + 1)
  rw [Joint, readTexts_singleton, hnone]
  rcases firstPlain_cases fun result hresult => (haccepted result hresult).known with
    ⟨hplain, hnext⟩ | ⟨value, hvalue, hplain, hnext, hmem⟩
  · rw [hplain, writtenBy_eq rfl, hnext]
    rfl
  · obtain ⟨opts, opts', hturn⟩ := haccepted _ hmem
    have hok := (setCmdParameter_eq hargv hvalue opts).symm.trans hturn
    rw [hplain, readTexts_singleton, writtenBy_eq rfl, hnext]
    have hread : readOf ctx argv ⟨.plain value, i + 1 + 1⟩ =
        valueFor (fieldOfShort c) value := by
      rw [valueFor_fieldOfShort]
      exact (readBefore_eq hargv hvalue).trans (readOfName_short hstrings hi hargv harg hhead hok)
    rw [hread]
    rfl

/-- A long option whose argument `getopt_long` gives. -/
private theorem readTexts_longArgument (hstrings : LawfulStrings ctx.sys.strings)
    {option : LongOption}
    {value : String} {optind : Nat} {rest : List GetoptResult}
    (haccepted : Accepted ctx argv ⟨.long option.name (some value), optind⟩)
    (hreached : Reached argv field ⟨.long option.name (some value), optind⟩)
    (hrequired : field.optionName ≠ none → fieldOfLong option.name = some field →
      option.name = "mem-smaps" ∧ argv[optind - 1]? = some value) :
    readTexts ctx argv field [⟨.long option.name (some value), optind⟩] =
      textsFor field (writtenBy ⟨.long option.name (some value), optind⟩ rest).toList := by
  have hwritten : writtenBy ⟨.long option.name (some value), optind⟩ rest =
      valueFor (fieldOfLong option.name) value := (writtenBy_eq rfl).trans rfl
  rw [readTexts_singleton, hwritten]
  by_cases hsmaps : option.name = "mem-smaps"
  · have hfield : fieldOfLong option.name = some .memPid := by rw [hsmaps]; rfl
    have hread : readOf ctx argv ⟨.long option.name (some value), optind⟩ =
        some (.memPid, argv.getD 2 "") := by
      simp [readOf, readOfLong, hsmaps]
    rw [hread, hfield]
    by_cases hmem : field = .memPid
    · -- The fixed position is that of the value.
      subst hmem
      have hthree : optind = 3 :=
        hreached.smaps rfl (by simp [isLong, hsmaps])
      obtain ⟨-, hvalue⟩ := hrequired (Option.some_ne_none _) hfield
      rw [hthree] at hvalue
      have hsecond : argv.getD 2 "" = value := by
        rw [List.getD_eq_getElem?_getD, show argv[2]? = some value from hvalue, Option.getD_some]
      rw [hsecond] at hread ⊢
      have hstop : isStopWord .memPid value = false := by
        have hnumeric := haccepted.isNumericStr hread
        rw [hstrings.isNumericStr] at hnumeric
        rw [isStopWord, Bool.and_eq_false_iff]
        right
        refine decide_eq_false fun heq => ?_
        rw [heq] at hnumeric
        exact absurd hnumeric (by decide)
      rw [valueFor, Option.bind_some, hstop]
      rfl
    · have hother : ∀ values : List (ValueField × String), (∀ v ∈ values, v.1 = .memPid) →
          textsFor field values = [] := fun values hall =>
        textsFor_eq_nil fun v hv heq => hmem (heq ▸ hall v hv)
      rw [hother _ (by simp), hother _ ?_]
      intro v hv
      rw [Option.mem_toList, valueFor, Option.bind_some] at hv
      split at hv
      · cases hv
      · exact (Option.some.inj hv) ▸ rfl
  · by_cases hjs : option.name = "mem-jsheap"
    · simp [readOf, readOfLong, hjs, fieldOfLong, valueFor, isStopWord]
    · by_cases hcj : option.name = "mem-cjheap"
      · simp [readOf, readOfLong, hcj, fieldOfLong, valueFor, isStopWord]
      · -- The others read nothing here, and none of them is an option for the field.
        have hread : readOf ctx argv ⟨.long option.name (some value), optind⟩ = none := by
          simp [readOf, readOfLong, hsmaps, hjs, hcj]
        have hother : textsFor field (valueFor (fieldOfLong option.name) value).toList = [] := by
          apply textsFor_eq_nil
          intro v hv hfield
          have hoption := eq_of_valueFor (Option.mem_toList.mp hv)
          rw [hfield] at hoption
          by_cases hname : field.optionName = none
          · exact (name_of_optionName_none hoption hname).elim hjs hcj
          · exact hsmaps (hrequired hname hoption).1
        rw [hread, hother]
        rfl

/-- An attached value of a short option: nothing is read, and nothing is written for the field. -/
private theorem readTexts_shortAttached (hstrings : LawfulStrings ctx.sys.strings) {i : Nat}
    {arg : String}
    {front value : List Char} {c : Char} {rest : List GetoptResult} (hi : 1 ≤ i)
    (hargv : argv[i]? = some arg) (harg : arg.toList = '-' :: (front ++ c :: value))
    (hfind : GetoptLong.findShort c (optStr.toList.drop 1) = some true)
    (haccepted : Accepted ctx argv ⟨.short c (some (String.ofList value)), i + 1⟩)
    (hreached : Reached argv field ⟨.short c (some (String.ofList value)), i + 1⟩) :
    readTexts ctx argv field [⟨.short c (some (String.ofList value)), i + 1⟩] =
      textsFor field (writtenBy ⟨.short c (some (String.ofList value)), i + 1⟩ rest).toList := by
  have hread : ∀ text, readOf ctx argv ⟨.short c (some (String.ofList value)), i + 1⟩ ≠
      some (field, text) := by
    intro text hread
    -- What is read is the element of the option itself: this is no number.
    have htext : text = arg := by
      rw [readOf] at hread
      dsimp only at hread
      split at hread
      · cases hread
      · rw [readBefore] at hread
        split at hread
        · have hlast : i + 1 - 1 = i := by omega
          rw [(readFor_readOfName ctx argv _ _ _ _ _ hread).2, hlast,
            List.getD_eq_getElem?_getD, hargv, Option.getD_some]
        · cases hread
    refine haccepted.readOf_ne hstrings ?_ hread
    rw [htext]
    simp [StringEx.simple, harg]
  have hwritten : fieldOfShort c ≠ some field := by
    intro hfield
    have hname : field.optionName ≠ none := by
      rcases findShort_true hfind with rfl | rfl | rfl | rfl
      · cases hfield
      all_goals
        obtain rfl := Option.some.inj hfield
        exact Option.some_ne_none _
    have hseparate := hreached.separate hname (String.ofList value) (by simp [occurrence, hfield])
    rw [show i + 1 - 1 = i by omega, hargv, Option.some.injEq] at hseparate
    have hlength := congrArg (fun text : String => text.toList.length) hseparate
    simp only [harg, String.toList_ofList, List.length_cons, List.length_append] at hlength
    omega
  rw [readTexts_singleton, writtenBy_eq rfl, textsFor_eq_nil, textsFor_eq_nil]
  · intro v hv hfield
    obtain ⟨_, -, hvalue⟩ := Option.bind_eq_some_iff.mp (Option.mem_toList.mp hv)
    exact hwritten (hfield ▸ eq_of_valueFor hvalue)
  · intro v hv hfield
    obtain ⟨other, text⟩ := v
    obtain rfl : other = field := hfield
    exact hread text (Option.mem_toList.mp hv)

/-- A short option with its value in the next element. -/
private theorem readTexts_shortArgument (hstrings : LawfulStrings ctx.sys.strings) {i : Nat}
    {arg value : String} {front : List Char} {c : Char} {rest : List GetoptResult} (hi : 1 ≤ i)
    (hargv : argv[i]? = some arg) (hvalue : argv[i + 1]? = some value)
    (harg : arg.toList = '-' :: (front ++ [c])) (hhead : (front ++ [c]).head? ≠ some '-')
    (hfind : GetoptLong.findShort c (optStr.toList.drop 1) = some true)
    (haccepted : Accepted ctx argv ⟨.short c (some value), i + 2⟩) :
    readTexts ctx argv field [⟨.short c (some value), i + 2⟩] =
      textsFor field (writtenBy ⟨.short c (some value), i + 2⟩ rest).toList := by
  have hread : readOf ctx argv ⟨.short c (some value), i + 2⟩ = valueFor (fieldOfShort c) value := by
    -- `-a` has no field; the other three read the element before `optind`.
    by_cases hability : c = 'a'
    · subst hability
      rfl
    · have hturn : ∃ opts opts', setCmdParameter ctx argv (i + 2) opts = .ok opts' := by
        obtain ⟨opts, opts', hturn⟩ := haccepted
        rcases findShort_true hfind with rfl | rfl | rfl | rfl
        · exact absurd rfl hability
        all_goals exact ⟨opts, opts', hturn⟩
      obtain ⟨opts, opts', hturn⟩ := hturn
      have hok := (setCmdParameter_eq hargv hvalue opts).symm.trans hturn
      have hbefore : readOf ctx argv ⟨.short c (some value), i + 2⟩ =
          readBefore ctx argv (i + 2) := by
        rcases findShort_true hfind with rfl | rfl | rfl | rfl
        · exact absurd rfl hability
        all_goals rfl
      rw [hbefore, readBefore_eq hargv hvalue, valueFor_fieldOfShort,
        readOfName_short hstrings hi hargv harg hhead hok]
  rw [readTexts_singleton, hread, writtenBy_eq rfl]
  rfl

/-! ## The names of the fields -/

/-- A plain element is not the name of an option. -/
private theorem optionName_ne_of_plain {arg : String}
    (harg : arg.toList = ['-'] ∨ arg.toList.head? ≠ some '-') : field.optionName ≠ some arg := by
  intro hoption
  obtain ⟨-, ⟨rest, hchars⟩ | ⟨c, hchars⟩⟩ := ValueField.optionName_chars hoption
  all_goals
    rw [hchars] at harg
    simp at harg

/-- A name has no `=`. -/
private theorem optionName_ne_of_longAttached {arg : String} {name value : List Char}
    (harg : arg.toList = '-' :: '-' :: (name ++ '=' :: value)) : field.optionName ≠ some arg := by
  intro hoption
  have hequals := (ValueField.optionName_chars hoption).1
  rw [harg] at hequals
  exact hequals (by simp)

/-- A name of one character leaves no room for a value. -/
private theorem optionName_ne_of_shortAttached {arg : String} {front value : List Char} {c : Char}
    (harg : arg.toList = '-' :: (front ++ c :: value)) (hhead : (front ++ [c]).head? ≠ some '-')
    (hvalue : value ≠ []) : field.optionName ≠ some arg := by
  intro hoption
  obtain ⟨-, ⟨rest, hchars⟩ | ⟨d, hchars⟩⟩ := ValueField.optionName_chars hoption
  · rw [harg] at hchars
    have hfront := (List.cons.inj hchars).2
    -- The second `-` would be in front.
    cases front with
    | nil => exact hhead (by rw [(List.cons.inj hfront).1]; rfl)
    | cons e front => exact hhead (by rw [(List.cons.inj hfront).1]; rfl)
  · rw [harg] at hchars
    have hlength := congrArg List.length hchars
    have hpos := List.length_pos_iff.mpr hvalue
    simp only [List.length_cons, List.length_append, List.length_nil] at hlength
    omega

/-- The argument of an option is not spelled like the option for the field. -/
private theorem Reached.optionName_ne {result : GetoptResult} (hreached : Reached argv field result)
    {value : String} (hvalue : optargOf result.code = some value) :
    field.optionName ≠ some value := by
  intro hoption
  rcases hreached.spelled with hnone | hne
  · exact Option.some_ne_none _ (hvalue.symm.trans hnone)
  · exact hne (hvalue.trans hoption.symm)

/-- A long option with an argument of its own that has a value for the field, and a name the
    parser looks at, is `--mem-smaps`. -/
private theorem name_of_requiredArgument {build : Build} {option : LongOption}
    (hmem : option ∈ longOptions build) (hopt : option.hasArg = .requiredArgument)
    (hfield : fieldOfLong option.name = some field) (hname : field.optionName ≠ none) :
    option.name = "mem-smaps" := by
  -- Five long options require an argument, in each build; the heap ones are not read by name.
  have hall : (longOptions build).all (fun option => option.hasArg ≠ .requiredArgument ||
      ["mem-smaps", "mem-jsheap", "mem-cjheap", "since", "until"].contains option.name) = true := by
    obtain ⟨hiview, plugin, emulator⟩ := build
    cases hiview <;> cases plugin <;> cases emulator <;> decide +kernel
  have hthis := List.all_eq_true.mp hall option hmem
  simp only [hopt, ne_eq, not_true_eq_false, decide_false, Bool.false_or, List.contains_eq_mem,
    decide_eq_true_eq, List.mem_cons, List.not_mem_nil, or_false] at hthis
  rcases hthis with h | h | h | h | h
  · exact h
  · rw [h] at hfield
    obtain rfl := Option.some.inj hfield
    exact absurd rfl hname
  · rw [h] at hfield
    obtain rfl := Option.some.inj hfield
    exact absurd rfl hname
  · rw [h] at hfield
    exact absurd hfield (Option.some_ne_none _).symm
  · rw [h] at hfield
    exact absurd hfield (Option.some_ne_none _).symm

/-! ## Options with an argument -/

/-- A result that reads what is written in it, with nothing left to read behind it. -/
private theorem joint_of_argument {result : GetoptResult} {rest : List GetoptResult}
    (hread : readTexts ctx argv field [result] = textsFor field (writtenBy result rest).toList)
    (hnext : readTexts ctx argv field (firstPlain rest) = []) :
    Joint ctx argv field result rest := by
  rw [Joint, hread, hnext, List.append_nil]

/-- `--name=value`. -/
private theorem joint_longAttached (hstrings : LawfulStrings ctx.sys.strings) {i : Nat}
    {arg : String} {name value : List Char} {option : LongOption} (hargv : argv[i]? = some arg)
    (harg : arg.toList = '-' :: '-' :: (name ++ '=' :: value))
    (haccepted : Accepted ctx argv ⟨.long option.name (some (String.ofList value)), i + 1⟩)
    (hreached : Reached argv field ⟨.long option.name (some (String.ofList value)), i + 1⟩)
    (hknown : ∀ result ∈ resultsFrom ctx argv (i + 1), Known result) :
    Joint ctx argv field ⟨.long option.name (some (String.ofList value)), i + 1⟩
      (resultsFrom ctx argv (i + 1)) := by
  refine joint_of_argument (readTexts_longArgument hstrings haccepted hreached ?_)
    (readTexts_firstPlain hknown ?_)
  · -- The value is not an element of its own.
    intro hname hfield
    have hseparate := hreached.separate hname (String.ofList value) (by simp [occurrence, hfield])
    rw [show i + 1 - 1 = i by omega, hargv, Option.some.injEq] at hseparate
    have hlength := congrArg (fun text : String => text.toList.length) hseparate
    simp only [harg, String.toList_ofList, List.length_cons, List.length_append] at hlength
    omega
  · intro other hother
    rw [← Option.some.inj (hargv.symm.trans hother)]
    exact optionName_ne_of_longAttached harg

/-- `--name value`, where the option requires the value. -/
private theorem joint_longArgument (hstrings : LawfulStrings ctx.sys.strings) {i : Nat}
    {value : String} {option : LongOption} (hvalue : argv[i + 1]? = some value)
    (hmem : option ∈ longOptions ctx.build) (hopt : option.hasArg = .requiredArgument)
    (haccepted : Accepted ctx argv ⟨.long option.name (some value), i + 2⟩)
    (hreached : Reached argv field ⟨.long option.name (some value), i + 2⟩)
    (hknown : ∀ result ∈ resultsFrom ctx argv (i + 2), Known result) :
    Joint ctx argv field ⟨.long option.name (some value), i + 2⟩ (resultsFrom ctx argv (i + 2)) := by
  refine joint_of_argument (readTexts_longArgument hstrings haccepted hreached ?_)
    (readTexts_firstPlain hknown ?_)
  · exact fun hname hfield => ⟨name_of_requiredArgument hmem hopt hfield hname, hvalue⟩
  · intro other hother
    rw [← Option.some.inj (hvalue.symm.trans hother)]
    exact hreached.optionName_ne rfl

/-- `-abcvalue`. -/
private theorem joint_shortAttached (hstrings : LawfulStrings ctx.sys.strings) {i : Nat}
    {arg : String} {front value : List Char} {c : Char} (hi : 1 ≤ i) (hargv : argv[i]? = some arg)
    (harg : arg.toList = '-' :: (front ++ c :: value)) (hhead : (front ++ [c]).head? ≠ some '-')
    (hvalue : value ≠ []) (hfind : GetoptLong.findShort c (optStr.toList.drop 1) = some true)
    (haccepted : Accepted ctx argv ⟨.short c (some (String.ofList value)), i + 1⟩)
    (hreached : Reached argv field ⟨.short c (some (String.ofList value)), i + 1⟩)
    (hknown : ∀ result ∈ resultsFrom ctx argv (i + 1), Known result) :
    Joint ctx argv field ⟨.short c (some (String.ofList value)), i + 1⟩
      (resultsFrom ctx argv (i + 1)) := by
  refine joint_of_argument (readTexts_shortAttached hstrings hi hargv harg hfind haccepted hreached)
    (readTexts_firstPlain hknown ?_)
  intro other hother
  rw [← Option.some.inj (hargv.symm.trans hother)]
  exact optionName_ne_of_shortAttached harg hhead hvalue

/-- `-abc value`, where the last option requires the value. -/
private theorem joint_shortArgument (hstrings : LawfulStrings ctx.sys.strings) {i : Nat}
    {arg value : String} {front : List Char} {c : Char} (hi : 1 ≤ i)
    (hargv : argv[i]? = some arg) (hvalue : argv[i + 1]? = some value)
    (harg : arg.toList = '-' :: (front ++ [c])) (hhead : (front ++ [c]).head? ≠ some '-')
    (hfind : GetoptLong.findShort c (optStr.toList.drop 1) = some true)
    (haccepted : Accepted ctx argv ⟨.short c (some value), i + 2⟩)
    (hreached : Reached argv field ⟨.short c (some value), i + 2⟩)
    (hknown : ∀ result ∈ resultsFrom ctx argv (i + 2), Known result) :
    Joint ctx argv field ⟨.short c (some value), i + 2⟩ (resultsFrom ctx argv (i + 2)) := by
  refine joint_of_argument
    (readTexts_shortArgument hstrings hi hargv hvalue harg hhead hfind haccepted)
    (readTexts_firstPlain hknown ?_)
  intro other hother
  rw [← Option.some.inj (hvalue.symm.trans hother)]
  exact hreached.optionName_ne rfl

/-! ## The whole command line -/

/-- What is read for the field is what is written for it, but for the first element if that
    belongs to the one before. -/
def ReadsWritten (ctx : CmdContext) (argv : List String) (field : ValueField)
    (results : List GetoptResult) : Prop :=
  readTexts ctx argv field results =
    readTexts ctx argv field (firstPlain results) ++ textsFor field (written results)

/-- A plain element, whose text belongs to the element before. -/
private theorem readsWritten_plain {i : Nat} {arg : String} (hargv : argv[i]? = some arg)
    (harg : arg.toList = ['-'] ∨ arg.toList.head? ≠ some '-')
    (hknown : ∀ result ∈ resultsFrom ctx argv (i + 1), Known result)
    (hrest : ReadsWritten ctx argv field (resultsFrom ctx argv (i + 1))) :
    ReadsWritten ctx argv field ([⟨.plain arg, i + 1⟩] ++ resultsFrom ctx argv (i + 1)) := by
  have hnext : readTexts ctx argv field (firstPlain (resultsFrom ctx argv (i + 1))) = [] := by
    refine readTexts_firstPlain hknown fun other hother => ?_
    rw [← Option.some.inj (hargv.symm.trans hother)]
    exact optionName_ne_of_plain harg
  rw [ReadsWritten, hnext, List.nil_append] at hrest
  rw [ReadsWritten, readTexts_append, hrest]
  rfl

/-- An element whose last result reads what it writes, with the elements behind it. -/
private theorem readsWritten_of_joint {flags rest : List GetoptResult} {result : GetoptResult}
    (hplain : firstPlain (flags ++ [result] ++ rest) = [])
    (hflags : readTexts ctx argv field flags = [] ∧
      written (flags ++ result :: rest) = written (result :: rest))
    (hjoint : Joint ctx argv field result rest) (hrest : ReadsWritten ctx argv field rest) :
    ReadsWritten ctx argv field (flags ++ [result] ++ rest) := by
  rw [ReadsWritten] at hrest
  rw [ReadsWritten, hplain, readTexts_append, readTexts_append, hflags.1, List.nil_append, hrest,
    ← List.append_assoc, hjoint, List.append_assoc flags, List.singleton_append, hflags.2,
    written_cons, textsFor_append]
  rfl

/-- A long option, which is an element of its own. -/
private theorem readsWritten_long {name : String} {optarg : Option String} {optind : Nat}
    {rest : List GetoptResult} (hjoint : Joint ctx argv field ⟨.long name optarg, optind⟩ rest)
    (hrest : ReadsWritten ctx argv field rest) :
    ReadsWritten ctx argv field ([⟨.long name optarg, optind⟩] ++ rest) :=
  @readsWritten_of_joint _ _ _ [] _ _ rfl ⟨rfl, rfl⟩ hjoint hrest

/-- A short option behind flags. -/
private theorem readsWritten_short {flags rest : List GetoptResult} {c : Char}
    {optarg : Option String} {optind : Nat}
    (hflags : ∀ result ∈ flags, IsFlag (optStr.toList.drop 1) result)
    (hjoint : Joint ctx argv field ⟨.short c optarg, optind⟩ rest)
    (hrest : ReadsWritten ctx argv field rest) :
    ReadsWritten ctx argv field (flags ++ [⟨.short c optarg, optind⟩] ++ rest) :=
  readsWritten_of_joint (firstPlain_flags hflags).1 (flags_silent hflags _ _ _ _) hjoint hrest

/-- From every element on, what is read is what is written. -/
private theorem readsWritten_resultsFrom (hstrings : LawfulStrings ctx.sys.strings) (i : Nat)
    (hi : 1 ≤ i)
    (haccepted : ∀ result ∈ resultsFrom ctx argv i, Accepted ctx argv result)
    (hreached : ∀ result ∈ resultsFrom ctx argv i, Reached argv field result) :
    ReadsWritten ctx argv field (resultsFrom ctx argv i) := by
  induction hleft : argv.length - i using Nat.strongRecOn generalizing i with
  | _ left ih =>
    cases hargv : argv[i]? with
    | none =>
      have hnil : resultsFrom ctx argv i = [] := by
        rw [resultsFrom, List.drop_eq_nil_of_le (List.getElem?_eq_none_iff.mp hargv), getoptLong]
      rw [hnil]
      rfl
    | some arg =>
      obtain ⟨hlt, -⟩ := List.getElem?_eq_some_iff.mp hargv
      obtain ⟨results, next, helement, heq⟩ :=
        resultsFrom_cases hargv fun result hresult => (haccepted result hresult).known
      -- The rest, one or two elements further on, with what is known of it.
      have hrest : ∀ k, i < k → resultsFrom ctx argv i = results ++ resultsFrom ctx argv k →
          (∀ result ∈ resultsFrom ctx argv k, Accepted ctx argv result) ∧
          (∀ result ∈ resultsFrom ctx argv k, Known result) ∧
          ReadsWritten ctx argv field (resultsFrom ctx argv k) := by
        intro k hk hk'
        have hsub : ∀ result ∈ resultsFrom ctx argv k, result ∈ resultsFrom ctx argv i :=
          fun result h => hk' ▸ List.mem_append_right _ h
        exact ⟨fun result h => haccepted result (hsub result h),
          fun result h => (haccepted result (hsub result h)).known,
          ih _ (by omega) k (by omega) (fun result h => haccepted result (hsub result h))
            (fun result h => hreached result (hsub result h)) rfl⟩
      have hown : ∀ result ∈ results,
          Accepted ctx argv result ∧ Reached argv field result := by
        intro result hresult
        have hmem : result ∈ resultsFrom ctx argv i := by
          rw [heq]
          cases next with
          | stop => exact hresult
          | one | two => exact List.mem_append_left _ hresult
        exact ⟨haccepted result hmem, hreached result hmem⟩
      cases helement with
      | stop =>
        rw [heq]
        rfl
      | plain harg =>
        obtain ⟨-, hknown, hthis⟩ := hrest (i + 1) (by omega) heq
        rw [heq]
        exact readsWritten_plain hargv harg hknown hthis
      | long harg hfind hopt =>
        obtain ⟨hnext, -, hthis⟩ := hrest (i + 1) (by omega) heq
        rw [heq]
        exact readsWritten_long (joint_long hstrings hi hargv harg hfind hopt hnext) hthis
      | longAttached harg =>
        obtain ⟨-, hknown, hthis⟩ := hrest (i + 1) (by omega) heq
        obtain ⟨hturn, hreach⟩ := hown _ List.mem_cons_self
        rw [heq]
        exact readsWritten_long (joint_longAttached hstrings hargv harg hturn hreach hknown) hthis
      | longArgument hvalue hmem hopt =>
        obtain ⟨-, hknown, hthis⟩ := hrest (i + 2) (by omega) heq
        obtain ⟨hturn, hreach⟩ := hown _ List.mem_cons_self
        rw [heq]
        exact readsWritten_long
          (joint_longArgument hstrings hvalue hmem hopt hturn hreach hknown) hthis
      | short harg hhead hflags hfind =>
        obtain ⟨hnext, -, hthis⟩ := hrest (i + 1) (by omega) heq
        rw [heq]
        exact readsWritten_short hflags
          (joint_short hstrings hi hargv harg hhead hfind hnext) hthis
      | shortAttached harg hhead hvalue hflags hfind =>
        obtain ⟨-, hknown, hthis⟩ := hrest (i + 1) (by omega) heq
        obtain ⟨hturn, hreach⟩ := hown _ (List.mem_append_right _ List.mem_cons_self)
        rw [heq]
        exact readsWritten_short hflags
          (joint_shortAttached hstrings hi hargv harg hhead hvalue hfind hturn hreach hknown) hthis
      | shortArgument harg hhead hflags hfind hvalue =>
        obtain ⟨-, hknown, hthis⟩ := hrest (i + 2) (by omega) heq
        obtain ⟨hturn, hreach⟩ := hown _ (List.mem_append_right _ List.mem_cons_self)
        rw [heq]
        exact readsWritten_short hflags
          (joint_shortArgument hstrings hi hargv hvalue harg hhead hfind hturn hreach hknown) hthis

/-- Where the routes reach, the last text read for a field on an accepted command line is the
    last one written for it. -/
theorem lastRead_eq_lastWritten (hstrings : LawfulStrings ctx.sys.strings) {opts : DumperOpts}
    (hparse : parseOptions ctx argv = .ok opts) (hreach : RoutesReach ctx argv field) :
    lastRead ctx argv (getoptResults ctx argv) field =
      lastWritten (getoptResults ctx argv) field := by
  have haccepted : ∀ result ∈ resultsFrom ctx argv 1, Accepted ctx argv result :=
    accepted_of_foldlM hparse
  have hall := readsWritten_resultsFrom hstrings 1 (le_refl 1) haccepted hreach.results
  rw [ReadsWritten, readTexts_firstPlain (fun result h => (haccepted result h).known),
    List.nil_append] at hall
  · exact congrArg List.getLast? hall
  · intro name hname hoption
    rw [← List.head?_eq_getElem?] at hname
    exact hreach.program name hoption hname

end Junctions

end HiDumper.Spec
