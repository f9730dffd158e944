import HiDumper.Native.ProcStatus
import HiDumper.Spec.SplitTexts

/-!
# Keys of a process status

What `FileUtils::GetProcValue` returns for a file of lines `Key:<tab>value`. It takes the
first line that has the text of the key anywhere in it, and of this line what is between the
first colon and the second. The process chooses the value of `Name`, so it can put another
key there, and the uid that `GetProcUid` reads is then a part of the name.

## Key results

- `getProcValue_content`: the line that is taken, and what is made of it
- `getProcValue_iff`: when this is the value that was asked for
- `getProcUid_withName_iff`: when the name has no influence on the uid
- `getProcName_withName`, `getProcValue_amount`: the name that is shown and the amounts
-/

namespace HiDumper.Spec

open HiDumper.Native

/-! ## The file -/

/-- A line `Key:<tab>value`. The kernel writes a line break in a name as two other
    characters, and a name ends at a NUL. -/
structure StatusLine where
  key : List Char
  value : List Char
  key_ne_nil : key ≠ []
  colon_not_mem : ':' ∉ key
  newline_not_mem : '\n' ∉ key ++ value
  nul_not_mem : '\x00' ∉ key ++ value

namespace StatusLine

def text (line : StatusLine) : List Char := line.key ++ ':' :: '\t' :: line.value

/-- The line with a key. -/
def ofKey (lines : List StatusLine) (key : List Char) : Option StatusLine :=
  lines.find? fun line => line.key = key

/-- The value of the line with a key, as `GetProcValue` should return it. -/
def valueOf (lines : List StatusLine) (key : List Char) : String :=
  match ofKey lines key with
  | none => FileUtils.unknown
  | some line => String.ofList line.value

/-- The file. -/
def content (lines : List StatusLine) : String :=
  String.ofList (lines.flatMap fun line => line.text ++ ['\n'])

/-- The key stands somewhere in the line. -/
def mentions (key : List Char) (line : StatusLine) : Bool := decide (key <:+: line.text)

/-- What is shown of a value: the part up to its first colon. -/
def shown (value : List Char) : String :=
  if value.takeWhile (· ≠ ':') = [] then FileUtils.unknown
  else String.ofList (value.takeWhile (· ≠ ':'))

/-- No line mentions the key; or the first one that does is the line with this key, and its
    value is not empty and has no colon; or it is another line, and what is shown of its
    value happens to be the same. -/
def ReadsRight (lines : List StatusLine) (key : List Char) : Prop :=
  match lines.find? (mentions key) with
  | none => True
  | some line =>
    if line.key = key then line.value ≠ [] ∧ ':' ∉ line.value
    else shown line.value = valueOf lines key

/-! ## The lines that are read -/

/-- A line has no line break in it. -/
theorem newline_not_mem_text (line : StatusLine) : '\n' ∉ line.text := by
  have hline := line.newline_not_mem
  rw [List.mem_append, not_or] at hline
  simp [text, hline.1, hline.2]

/-- A line has no NUL. -/
private theorem takeWhile_text (line : StatusLine) :
    line.text.takeWhile (· ≠ '\x00') = line.text := by
  rw [List.takeWhile_eq_self_iff]
  intro c hc
  have hline := line.nul_not_mem
  rw [List.mem_append, not_or] at hline
  rw [decide_eq_true_eq]
  rintro rfl
  simp [text, hline.1, hline.2] at hc

/-- The lines that are read are those of the file. -/
private theorem contentLines_content (lines : List StatusLine) :
    FileUtils.contentLines (content lines) = lines.map fun line => String.ofList line.text := by
  have htexts : ∀ l ∈ lines.map text, '\n' ∉ l := by
    intro l hl
    obtain ⟨line, -, rfl⟩ := List.mem_map.mp hl
    exact line.newline_not_mem_text
  have hlines := getlines_flatMap htexts
  rw [List.flatMap_map] at hlines
  rw [FileUtils.contentLines, content, hlines, List.map_map, List.map_map]
  apply List.map_congr_left
  intro line _
  show String.ofList ((String.ofList line.text).toList.takeWhile (· ≠ '\x00')) = _
  rw [String.toList_ofList, takeWhile_text]

/-- The value of a line behind its key, for the split at the colons. -/
theorem splitStr_text {strings : StringEx} (hstrings : SplitsParts strings) (line : StatusLine) :
    (strings.splitStr (String.ofList line.text) ":" false false)[FileUtils.valuesMinLen]? =
      some (String.ofList ('\t' :: line.value.takeWhile (· ≠ ':'))) := by
  have hback : ('\t' :: line.value).takeWhile (· ≠ ':') = '\t' :: line.value.takeWhile (· ≠ ':') :=
    rfl
  rw [← hback]
  exact hstrings.second line.key_ne_nil line.colon_not_mem (by simp)

/-- The first line that mentions the key is taken, whatever its own key is. -/
theorem getProcValue_content {strings : StringEx} (hstrings : SplitsParts strings)
    (lines : List StatusLine) (key : List Char) :
    FileUtils.getProcValue strings (some (content lines)) (String.ofList key) =
      match lines.find? (mentions key) with
      | none => FileUtils.unknown
      | some line => shown line.value := by
  -- The source takes the first line that has the key anywhere in it.
  have hfind : (FileUtils.contentLines (content lines)).find?
      (fun content => contains content (String.ofList key)) =
      (lines.find? (mentions key)).map fun line => String.ofList line.text := by
    rw [contentLines_content, List.find?_map]
    congr 2
    funext line
    simp [contains, mentions]
  unfold FileUtils.getProcValue
  dsimp only
  rw [hfind]
  cases lines.find? (mentions key) with
  | none => simp
  | some line =>
    have hne : line.text ≠ [] := by simp [text]
    have hempty : (String.ofList line.text).isEmpty = false := by
      simpa [String.isEmpty_iff] using hne
    rw [Option.map_some, Option.getD_some, hempty, splitStr_text hstrings]
    show _ = if line.value.takeWhile (· ≠ ':') = [] then FileUtils.unknown
      else String.ofList (line.value.takeWhile (· ≠ ':'))
    generalize line.value.takeWhile (· ≠ ':') = part
    cases part <;> simp [FileUtils.valuesMinLen]

/-! ## The right line -/

/-- The line with a key mentions it. -/
private theorem mentions_key (line : StatusLine) : mentions line.key line = true := by
  rw [mentions, decide_eq_true_eq]
  exact (List.prefix_append _ _).isInfix

/-- What is found first with a weaker test is found first with a stronger one, if it meets
    that. -/
private theorem find?_of_imp {α : Type} {p q : α → Bool} (hqp : ∀ a, q a = true → p a = true)
    {l : List α} {a : α} (hp : l.find? p = some a) (ha : q a = true) : l.find? q = some a := by
  induction l with
  | nil => exact absurd hp (by simp)
  | cons b l ih =>
    rw [List.find?_cons] at hp ⊢
    cases hpb : p b with
    | true =>
      rw [hpb, Option.some.injEq] at hp
      rw [hp, ha]
    | false =>
      rw [hpb] at hp
      have hqb : q b = false := by
        rw [Bool.eq_false_iff]
        intro hq
        rw [hqp b hq] at hpb
        exact absurd hpb (by simp)
      rw [hqb]
      exact ih hp

/-- A line mentions its own key. -/
private theorem mentions_of_key {key : List Char} (line : StatusLine)
    (h : decide (line.key = key) = true) : mentions key line = true := by
  have hkey : line.key = key := by simpa using h
  rw [← hkey]
  exact line.mentions_key

/-- A value is shown as it is if it is not empty and has no colon. -/
theorem shown_eq_iff {value : List Char} :
    shown value = String.ofList value ↔ value ≠ [] ∧ ':' ∉ value := by
  have hwhole : value.takeWhile (· ≠ ':') = value ↔ ':' ∉ value := by
    rw [List.takeWhile_eq_self_iff]
    constructor
    · intro hall hmem
      exact absurd (hall ':' hmem) (by simp)
    · intro hnot c hc
      simpa using ne_of_mem_of_not_mem hc hnot
  unfold shown
  split
  · -- `unknown` begins with a letter, and the value with a colon, if with anything.
    rename_i hpart
    constructor
    · intro hunknown
      have hvalue : value = FileUtils.unknown.toList := by
        rw [hunknown, String.toList_ofList]
      rw [hvalue] at hpart
      exact absurd hpart (by decide)
    · intro ⟨hne, hcolon⟩
      rw [hwhole.mpr hcolon] at hpart
      exact absurd hpart hne
  · rename_i hpart
    rw [String.ofList_inj, hwhole]
    constructor
    · intro hcolon
      refine ⟨?_, hcolon⟩
      rintro rfl
      exact hpart rfl
    · exact And.right

/-- `GetProcValue` returns the value of the line with the key, or `unknown` if there is
    none, exactly in the cases of `ReadsRight`. -/
theorem getProcValue_iff {strings : StringEx} (hstrings : SplitsParts strings)
    (lines : List StatusLine) (key : List Char) :
    FileUtils.getProcValue strings (some (content lines)) (String.ofList key) =
      valueOf lines key ↔ ReadsRight lines key := by
  rw [getProcValue_content hstrings, ReadsRight]
  cases hfind : lines.find? (mentions key) with
  | none =>
    -- The line with the key would mention it.
    have hnone : ofKey lines key = none := by
      rw [ofKey, List.find?_eq_none]
      intro line hline hkey
      exact List.find?_eq_none.mp hfind line hline (line.mentions_of_key hkey)
    simp [valueOf, hnone]
  | some line =>
    dsimp only
    by_cases hkey : line.key = key
    · have hline : ofKey lines key = some line :=
        find?_of_imp mentions_of_key hfind (by simpa using hkey)
      rw [if_pos hkey, valueOf, hline]
      exact shown_eq_iff
    · rw [if_neg hkey]

end StatusLine

/-! ## The uid -/

/-- A name as the kernel writes it. -/
structure ProcessName where
  text : List Char
  newline_not_mem : '\n' ∉ text
  nul_not_mem : '\x00' ∉ text

/-- The line `Name` of a process. -/
def nameLine (name : ProcessName) : StatusLine where
  key := ['N', 'a', 'm', 'e']
  value := name.text
  key_ne_nil := by decide
  colon_not_mem := by decide
  newline_not_mem := by simpa using name.newline_not_mem
  nul_not_mem := by simpa using name.nul_not_mem

/-- The key of the uid. -/
def uidKey : List Char := ['U', 'i', 'd']

/-- The system when the status of the process has these lines. -/
def withStatus (sys : System) (lines : List StatusLine) : System :=
  { sys with procStatus := fun _ => some (StatusLine.content lines) }

/-- The letters of the key stand in the name if they stand in the line. -/
private theorem mentions_nameLine (name : ProcessName) :
    StatusLine.mentions uidKey (nameLine name) = true ↔ uidKey <:+: name.text := by
  have htext : (nameLine name).text = ['N', 'a', 'm', 'e', ':', '\t'] ++ name.text := rfl
  rw [StatusLine.mentions, decide_eq_true_eq, htext]
  simp [uidKey, List.infix_cons_iff]

/-- The uid is made of the first line that mentions its key. -/
private theorem getProcUid_withStatus {sys : System} (hstrings : SplitsParts sys.strings)
    (lines : List StatusLine) (pid : Int) :
    MemoryInfo.getProcUid (withStatus sys lines) pid =
      MemoryInfo.uidOfValue sys.strings
        (match lines.find? (StatusLine.mentions uidKey) with
        | none => FileUtils.unknown
        | some line => StatusLine.shown line.value) := by
  rw [← StatusLine.getProcValue_content hstrings]
  rfl

/-- The uid is what it would be without the name exactly if the name does not have the
    letters of the key in it, or if the number in their place happens to be the same. -/
theorem getProcUid_withName_iff {sys : System} (hstrings : SplitsParts sys.strings)
    (name : ProcessName) (rest : List StatusLine) (pid : Int) :
    MemoryInfo.getProcUid (withStatus sys (nameLine name :: rest)) pid =
        MemoryInfo.getProcUid (withStatus sys rest) pid ↔
      ¬uidKey <:+: name.text ∨
        MemoryInfo.uidOfValue sys.strings (StatusLine.shown name.text) =
          MemoryInfo.getProcUid (withStatus sys rest) pid := by
  rw [getProcUid_withStatus hstrings (nameLine name :: rest), List.find?_cons]
  by_cases hname : uidKey <:+: name.text
  · rw [(mentions_nameLine name).mpr hname]
    simp only [hname, not_true_eq_false, false_or]
    exact Iff.rfl
  · have hskip : StatusLine.mentions uidKey (nameLine name) = false := by
      rw [Bool.eq_false_iff, ne_eq, mentions_nameLine]
      exact hname
    rw [hskip]
    simp only [hname, not_false_eq_true, true_or, iff_true]
    exact (getProcUid_withStatus hstrings rest pid).symm

/-! ## The name and the amounts -/

/-- Where the command line gives no name, the one in the status is taken, up to its first
    colon. -/
theorem getProcName_withName {sys : System} (hstrings : SplitsParts sys.strings)
    (name : ProcessName) (rest : List StatusLine) (pid : Int)
    (hcmdline : sys.getProcessNameByPid pid = none) :
    MemoryInfo.getProcName (withStatus sys (nameLine name :: rest)) pid =
      StatusLine.shown name.text := by
  have hnone : (withStatus sys (nameLine name :: rest)).getProcessNameByPid pid = none := hcmdline
  have hmentions : StatusLine.mentions ['N', 'a', 'm', 'e'] (nameLine name) = true := by
    rw [StatusLine.mentions, decide_eq_true_eq]
    exact ⟨[], ':' :: '\t' :: name.text, rfl⟩
  have hvalue := StatusLine.getProcValue_content hstrings (nameLine name :: rest)
    ['N', 'a', 'm', 'e']
  rw [List.find?_cons, hmentions] at hvalue
  unfold MemoryInfo.getProcName
  rw [hnone, Option.getD_none, if_pos rfl]
  exact hvalue

/-- The value of a line with an amount: blanks, the digits and the unit. -/
def amountText (blanks : Nat) (digits : List Char) : List Char :=
  List.replicate blanks ' ' ++ (digits ++ [' ', 'k', 'B'])

/-- An amount is read without the blanks before it and the unit behind it. -/
theorem getProcValue_amount {sys : System} (hstrings : SplitsParts sys.strings)
    {lines : List StatusLine} {key : List Char} {line : StatusLine}
    (hfind : lines.find? (StatusLine.mentions key) = some line) {blanks : Nat} {digits : List Char}
    (hvalue : line.value = amountText blanks digits) (hdigits : ∀ c ∈ digits, c.isDigit = true)
    {number : Int} (hnumber : sys.strings.strToInt (String.ofList digits) = some number)
    (pid : Int) :
    MemoryInfo.getProcValue (withStatus sys lines) pid (String.ofList key) =
      UInt64.ofInt number := by
  have hblank : ∀ c ∈ digits, c ≠ ' ' := by
    rintro c hc rfl
    exact absurd (hdigits _ hc) (by decide)
  have hcolon : (amountText blanks digits).takeWhile (· ≠ ':') = amountText blanks digits := by
    rw [List.takeWhile_eq_self_iff]
    intro c hc
    rw [decide_eq_true_eq]
    rintro rfl
    simp only [amountText, List.mem_append, List.mem_replicate, List.mem_cons, List.not_mem_nil,
      or_false] at hc
    rcases hc with ⟨-, hc⟩ | hc | hc | hc | hc
    · exact absurd hc (by decide)
    · exact absurd (hdigits _ hc) (by decide)
    · exact absurd hc (by decide)
    · exact absurd hc (by decide)
    · exact absurd hc (by decide)
  have hcontent : FileUtils.getProcValue sys.strings (some (StatusLine.content lines))
      (String.ofList key) = String.ofList (amountText blanks digits) := by
    rw [StatusLine.getProcValue_content hstrings, hfind]
    show StatusLine.shown line.value = _
    rw [hvalue, StatusLine.shown, hcolon, if_neg (by simp [amountText])]
  have hlength : (String.ofList (amountText blanks digits)).length =
      (List.replicate blanks ' ' ++ digits).length + 3 := by
    rw [String.length_ofList]
    simp [amountText]
    omega
  -- The last three characters are the unit, and the number starts behind the last blank.
  have htake : (amountText blanks digits).take
      ((String.ofList (amountText blanks digits)).length - 3) =
        List.replicate blanks ' ' ++ digits := by
    rw [hlength, Nat.add_sub_cancel, amountText, ← List.append_assoc, List.take_left']
    rfl
  have hword : ((List.replicate blanks ' ' ++ digits).reverse.takeWhile (· ≠ ' ')).reverse =
      digits := by
    rw [List.reverse_append, List.takeWhile_append_of_pos (by simpa using hblank),
      List.reverse_replicate]
    cases blanks with
    | zero => simp
    | succ blanks =>
      rw [List.replicate_succ, List.takeWhile_cons_of_neg (by decide), List.append_nil,
        List.reverse_reverse]
  have hknown : String.ofList (amountText blanks digits) ≠ MemoryInfo.unknownProcess := by
    intro heq
    have hlast := congrArg (fun text => text.toList.getLast?) heq
    simp [amountText, MemoryInfo.unknownProcess] at hlast
  have hread : FileUtils.getProcValue (withStatus sys lines).strings
      ((withStatus sys lines).procStatus pid) (String.ofList key) =
        String.ofList (amountText blanks digits) := hcontent
  have hparsed : (withStatus sys lines).strings.strToInt (String.ofList digits) = some number :=
    hnumber
  simp only [MemoryInfo.getProcValue, hread, if_neg hknown, String.toList_ofList]
  rw [if_neg (by omega), htake, hword, hparsed]

/-- When `GetProcValue` returns the value of the line that was asked for, and when the name
    of the process has no influence on its uid. -/
theorem procStatus_iff {sys : System} (hstrings : SplitsParts sys.strings) :
    (∀ (lines : List StatusLine) (key : List Char),
      FileUtils.getProcValue sys.strings (some (StatusLine.content lines)) (String.ofList key) =
        StatusLine.valueOf lines key ↔ StatusLine.ReadsRight lines key) ∧
    ∀ (name : ProcessName) (rest : List StatusLine) (pid : Int),
      MemoryInfo.getProcUid (withStatus sys (nameLine name :: rest)) pid =
          MemoryInfo.getProcUid (withStatus sys rest) pid ↔
        ¬uidKey <:+: name.text ∨
          MemoryInfo.uidOfValue sys.strings (StatusLine.shown name.text) =
            MemoryInfo.getProcUid (withStatus sys rest) pid :=
  ⟨StatusLine.getProcValue_iff hstrings, getProcUid_withName_iff hstrings⟩

/-! ## A process with another key in its name -/

/-- A system about which only the status of processes matters. -/
def statusSystem : System where
  strings := StringEx.simple
  procNames := none
  procExists _ := true
  procStatus _ := none
  procCmdline _ := none
  cpuNames := none
  applicationInfo _ := none
  debuggable := "0"
  developerMode := "false"

/-- The uid of a system process. -/
def rootLine : StatusLine where
  key := uidKey
  value := ['0', '\t', '0', '\t', '0', '\t', '0']
  key_ne_nil := by decide
  colon_not_mem := by decide
  newline_not_mem := by decide
  nul_not_mem := by decide

/-- With an ordinary name the uid is read. -/
theorem procStatus_ordinary :
    (∀ (lines : List StatusLine) (key : List Char),
      FileUtils.getProcValue statusSystem.strings (some (StatusLine.content lines))
          (String.ofList key) = StatusLine.valueOf lines key ↔ StatusLine.ReadsRight lines key) ∧
    MemoryInfo.getProcUid
        (withStatus statusSystem [nameLine ⟨['i', 'n', 'i', 't'], by decide, by decide⟩, rootLine])
        1 =
      MemoryInfo.getProcUid (withStatus statusSystem [rootLine]) 1 :=
  ⟨(procStatus_iff simple_splitsParts).1,
    ((procStatus_iff simple_splitsParts).2 ⟨['i', 'n', 'i', 't'], by decide, by decide⟩
      [rootLine] 1).mpr (.inl (by decide))⟩

/-- The name `20000 Uid`. -/
def spoofedName : ProcessName where
  text := ['2', '0', '0', '0', '0', ' ', 'U', 'i', 'd']
  newline_not_mem := by decide
  nul_not_mem := by decide

/-- The uid of a system process with this name is 20000 instead of 0, and the process passes
    the check of `GetDmaBufByProc`. -/
theorem getProcUid_spoofedName :
    ¬FileUtils.getProcValue statusSystem.strings
          (some (StatusLine.content [nameLine spoofedName, rootLine])) (String.ofList uidKey) =
        StatusLine.valueOf [nameLine spoofedName, rootLine] uidKey ∧
      MemoryInfo.getProcUid (withStatus statusSystem [rootLine]) 1 = 0 ∧
      MemoryInfo.getProcUid (withStatus statusSystem [nameLine spoofedName, rootLine]) 1 = 20000 ∧
      ∀ dmaBufRows, MemoryInfo.getDmaBufByProc
        (withStatus statusSystem [nameLine spoofedName, rootLine]) dmaBufRows 1 =
          dmaBufRows 1 := by
  have hstrings : SplitsParts statusSystem.strings := simple_splitsParts
  have huid : MemoryInfo.getProcUid
      (withStatus statusSystem [nameLine spoofedName, rootLine]) 1 = 20000 := by
    rw [getProcUid_withStatus hstrings]
    decide +kernel
  refine ⟨?_, ?_, huid, ?_⟩
  · rw [StatusLine.getProcValue_content hstrings]
    decide +kernel
  · rw [getProcUid_withStatus hstrings]
    decide +kernel
  · intro dmaBufRows
    rw [MemoryInfo.getDmaBufByProc, huid, if_neg (by decide)]

end HiDumper.Spec
