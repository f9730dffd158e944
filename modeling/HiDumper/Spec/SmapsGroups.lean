import HiDumper.Native.MemoryGroups

/-!
# Which group the memory of a region is added to

A region of smaps is a header line, a line of kB for each amount and a line of flags.
`GetInfo` tells the lines apart by their last character: what ends in `B` is an amount. A
header whose path ends in `B` is taken for one. Then the amounts of the region are added to
the group of the region before it.

## Key results

- `isNameLine_header`, `getTypeAndValue_line`: what the formats read
- `parseRegion`: what is left when a region has been read
- `groupsOwnRegions_iff`: when every region is added to its own group
-/

namespace HiDumper.Spec

open HiDumper.Native ParseSmapsInfo

/-! ## Regions -/

/-- The parts of a header line. The path, if there is one, stands apart from the inode. -/
structure RegionHeader where
  startAddr : Scanf.HexNumeral
  endAddr : Scanf.HexNumeral
  perms : Scanf.Word
  offset : Scanf.HexNumeral
  dev : Scanf.Word
  iNode : Scanf.Numeral
  blanks : Nat
  path : List Char
  apart : path ≠ [] → 0 < blanks

namespace RegionHeader

def chars (header : RegionHeader) : List Char :=
  header.startAddr.digits ++ '-' :: (header.endAddr.digits ++ ' ' :: (header.perms.text ++
    ' ' :: (header.offset.digits ++ ' ' :: (header.dev.text ++ ' ' :: (header.iNode.digits ++
      (List.replicate header.blanks ' ' ++ header.path))))))

def text (header : RegionHeader) : String := String.ofList header.chars

/-- The name of the region: its path, blanks in front of it apart. -/
def name (header : RegionHeader) : String :=
  if header.path.dropWhile (· = ' ') = [] then "[anon]"
  else String.ofList (header.path.dropWhile (· = ' '))

end RegionHeader

/-- A line of kB. -/
structure AmountLine where
  type : List Char
  noColon : ':' ∉ type
  blanks : Nat
  amount : Scanf.Numeral

namespace AmountLine

def chars (line : AmountLine) : List Char :=
  line.type ++ ':' :: (List.replicate line.blanks ' ' ++ (line.amount.digits ++ " kB".toList))

def text (line : AmountLine) : String := String.ofList line.chars

end AmountLine

/-- A region of smaps. The flags are lower-case letters and blanks. -/
structure Region where
  header : RegionHeader
  amounts : List AmountLine
  vmFlags : List Char
  flags_ne : ∀ c ∈ vmFlags, c ≠ 'B'

namespace Region

def flagsText (region : Region) : String :=
  String.ofList ('V' :: (['m', 'F', 'l', 'a', 'g', 's', ':'] ++ region.vmFlags))

def lines (region : Region) : List String :=
  region.header.text :: (region.amounts.map (·.text) ++ [region.flagsText])

/-- The group of the region by its own header. -/
def group (region : Region) : String :=
  MemoryFilter.parseMemoryGroup region.header.name region.header.iNode.value

/-- The amount of one type. -/
def amount (region : Region) (type : String) : UInt64 :=
  ((region.amounts.filter fun line => String.ofList line.type = type).map (·.amount.value)).sum

/-- The header ends like a line of kB. -/
def EndsInB (region : Region) : Prop := isEnd region.header.text "B" = true

instance (region : Region) : Decidable region.EndsInB := inferInstanceAs (Decidable (_ = _))

end Region

/-- The lines of a file. -/
def smapsLines (regions : List Region) : List String := regions.flatMap (·.lines)

/-- The types that are added up with and without a process. -/
def pssTypes : List String := ["Pss", "SwapPss"]

/-- What has been added up for a group and a type. -/
def amountOf (infos : GroupMap) (group type : String) : UInt64 :=
  ((infos.lookup group).bind (·.lookup type)).getD 0

/-! ## What the formats read -/

private theorem blank_isSpace : ∀ c ∈ [' '], Scanf.isSpace c = true :=
  Scanf.isSpace_of_mem_replicate 1

/-- The format of `IsNameLine` reads the inode of a header and leaves its path. -/
theorem isNameLine_header (header : RegionHeader) :
    MemoryUtil.isNameLine header.text = some (header.name, header.iNode.value) := by
  have hblank : ∀ (s : List Char) c, (' ' :: s).head? = some c →
      Scanf.isHexDigit c = false ∧ c ≠ 'x' ∧ c ≠ 'X' := by
    intro s c hc
    obtain rfl : ' ' = c := Option.some.inj hc
    decide
  have hspace : ∀ (s : List Char) c, (' ' :: s).head? = some c → Scanf.isSpace c = true := by
    intro s c hc
    obtain rfl : ' ' = c := Option.some.inj hc
    decide
  have hminus : ∀ (s : List Char) c, ('-' :: s).head? = some c →
      Scanf.isHexDigit c = false ∧ c ≠ 'x' ∧ c ≠ 'X' := by
    intro s c hc
    obtain rfl : '-' = c := Option.some.inj hc
    decide
  -- Behind the inode there is a blank or nothing.
  have hend : ∀ c, (List.replicate header.blanks ' ' ++ header.path).head? = some c →
      c.isDigit = false := by
    intro c hc
    cases hblanks : header.blanks with
    | zero =>
      have hpath : header.path = [] := by
        by_contra hne
        have hpos := header.apart hne
        omega
      rw [hblanks, hpath] at hc
      exact nomatch hc
    | succ n =>
      rw [hblanks, List.replicate_succ, List.cons_append, List.head?_cons, Option.some.injEq] at hc
      rw [← hc]
      decide
  have hname : (List.replicate header.blanks ' ' ++ header.path).dropWhile (· = ' ') =
      header.path.dropWhile (· = ' ') := by
    apply List.dropWhile_append_of_pos
    intro c hc
    simpa using List.eq_of_mem_replicate hc
  have hstart : ∀ s, Scanf.skipHex (header.startAddr.digits ++ '-' :: s) = some ('-' :: s) :=
    fun s => Scanf.skipHex_numeral [] (by simp) header.startAddr (hminus s)
  have hlast : ∀ s, Scanf.skipHex (header.endAddr.digits ++ ' ' :: s) = some (' ' :: s) :=
    fun s => Scanf.skipHex_numeral [] (by simp) header.endAddr (hblank s)
  have hperms : ∀ s, Scanf.word (' ' :: (header.perms.text ++ ' ' :: s)) =
      some (header.perms.text, ' ' :: s) :=
    fun s => Scanf.word_append [' '] blank_isSpace header.perms (hspace s)
  have hoffset : ∀ s, Scanf.skipHex (' ' :: (header.offset.digits ++ ' ' :: s)) =
      some (' ' :: s) :=
    fun s => Scanf.skipHex_numeral [' '] blank_isSpace header.offset (hblank s)
  have hdev : ∀ s, Scanf.word (' ' :: (header.dev.text ++ ' ' :: s)) =
      some (header.dev.text, ' ' :: s) :=
    fun s => Scanf.word_append [' '] blank_isSpace header.dev (hspace s)
  have hinode := Scanf.unsigned_numeral [' '] blank_isSpace header.iNode hend
  rw [List.singleton_append] at hinode
  rw [MemoryUtil.isNameLine, RegionHeader.text, String.toList_ofList, RegionHeader.chars]
  simp only [hstart, Scanf.char, if_true, hlast, hperms, hoffset, hdev, hinode, hname,
    Option.bind_eq_bind, Option.bind_some, RegionHeader.name]

/-- The type and the amount of a line. -/
theorem getTypeAndValue_line (line : AmountLine) :
    MemoryUtil.getTypeAndValue line.text =
      some (String.ofList line.type, line.amount.value) := by
  have htype : ∀ c ∈ line.type, decide (c ≠ ':') = true := by
    intro c hc
    rw [decide_eq_true_iff]
    exact fun heq => line.noColon (heq ▸ hc)
  have hunit : ∀ c, " kB".toList.head? = some c → c.isDigit = false := by
    intro c hc
    obtain rfl : ' ' = c := Option.some.inj hc
    decide
  have hvalue := Scanf.unsigned_numeral _ (Scanf.isSpace_of_mem_replicate line.blanks) line.amount
    hunit
  rw [MemoryUtil.getTypeAndValue, AmountLine.text, String.toList_ofList, AmountLine.chars,
    List.dropWhile_append_of_pos htype, List.dropWhile_cons_of_neg (by simp),
    List.takeWhile_append_of_pos htype, List.takeWhile_cons_of_neg (by simp), List.append_nil]
  simp only [hvalue, Option.map_some, Option.getD_some]

/-- A line with an amount ends in `B`. -/
private theorem isEnd_line (line : AmountLine) : isEnd line.text "B" = true := by
  rw [isEnd, AmountLine.text, String.toList_ofList, List.isSuffixOf_iff_suffix]
  refine ⟨line.type ++ ':' :: (List.replicate line.blanks ' ' ++
    (line.amount.digits ++ " k".toList)), ?_⟩
  simp [AmountLine.chars]

/-- The line with the flags does not. -/
private theorem isEnd_flagsText (region : Region) : isEnd region.flagsText "B" = false := by
  have hchar : ∀ c ∈ region.flagsText.toList, c ≠ 'B' := by
    intro c hc
    rw [Region.flagsText, String.toList_ofList, ← List.cons_append, List.mem_append] at hc
    cases hc with
    | inl hc =>
      have hletters : ['V', 'm', 'F', 'l', 'a', 'g', 's', ':'].all (· ≠ 'B') = true := by decide
      simpa using List.all_eq_true.mp hletters c hc
    | inr hc => exact region.flags_ne c hc
  rw [← Bool.not_eq_true, isEnd, List.isSuffixOf_iff_suffix]
  intro hsuffix
  have hlast : 'B' ∈ "B".toList := by decide
  exact hchar 'B' (hsuffix.subset hlast) rfl

/-- The first character of the line of flags is not a digit. -/
private theorem isNameLine_flagsText (region : Region) :
    MemoryUtil.isNameLine region.flagsText = none := by
  have hskip : ∀ s, Scanf.skipHex ('V' :: s) = none := by
    intro s
    have hspace : Scanf.space ('V' :: s) = 'V' :: s := List.dropWhile_cons_of_neg (by decide)
    have hbare : Scanf.hexPrefix ('V' :: s) = 'V' :: s := by
      cases s with
      | nil => rfl
      | cons x s => simp [Scanf.hexPrefix]
    have htake : ('V' :: s).takeWhile Scanf.isHexDigit = [] :=
      List.takeWhile_cons_of_neg (by decide)
    simp [Scanf.skipHex, hspace, Scanf.sign, hbare, Scanf.run, htake]
  rw [MemoryUtil.isNameLine, Region.flagsText, String.toList_ofList, hskip]
  rfl

/-- A header that is taken for an amount has none of the types that are read: it begins with a
    hexadecimal digit. -/
private theorem getValue_header (memType : MemoryFilter.MemoryType) (header : RegionHeader) :
    getValue memType header.text = none := by
  -- A header starts with a hexadecimal digit, which no key of a value does.
  have hstarts : ∀ pre c rest, pre.toList = c :: rest → Scanf.isHexDigit c = false →
      startWith header.text pre = false := by
    intro pre c rest hpre hc
    cases hstart : header.startAddr.digits with
    | nil => exact absurd hstart header.startAddr.ne_nil
    | cons d digits =>
      have hd := header.startAddr.isHexDigit d (hstart ▸ List.mem_cons_self)
      have hne : c ≠ d := by
        rintro rfl
        exact absurd hd (by simp [hc])
      rw [startWith, hpre, RegionHeader.text, String.toList_ofList, RegionHeader.chars, hstart,
        List.cons_append]
      simp [List.isPrefixOf, hne]
  have hR := hstarts "R" 'R' [] (by decide) (by decide)
  have hP := hstarts "P" 'P' [] (by decide) (by decide)
  have hS := hstarts "S" 'S' [] (by decide) (by decide)
  have hPss := hstarts "Pss" 'P' ['s', 's'] (by decide) (by decide)
  have hSwapPss := hstarts "SwapPss" 'S' "wapPss".toList (by decide) (by decide)
  simp [getValue, getHasPidValue, getNoPidValue, hR, hP, hS, hPss, hSwapPss]

/-- An amount is read under its type, and `Pss` and `SwapPss` always are. -/
private theorem getValue_line (memType : MemoryFilter.MemoryType) (line : AmountLine) :
    getValue memType line.text = none ∧ String.ofList line.type ∉ pssTypes ∨
      getValue memType line.text = some (String.ofList line.type, line.amount.value) := by
  have hread := getTypeAndValue_line line
  have hstart : ∀ pre : String, startWith line.text pre = pre.toList.isPrefixOf line.chars := by
    intro pre
    rw [startWith, AmountLine.text, String.toList_ofList]
  by_cases htype : String.ofList line.type ∈ pssTypes
  · right
    rw [pssTypes, List.mem_pair] at htype
    -- Of the types that are summed, one is found behind `P`, the other behind `S`.
    cases htype with
    | inl htype =>
      have hchars : ∃ s, line.chars = 'P' :: 's' :: 's' :: s :=
        ⟨_, by rw [AmountLine.chars, ← String.toList_ofList (l := line.type), htype]; rfl⟩
      obtain ⟨s, hchars⟩ := hchars
      have hR : startWith line.text "R" = false := by rw [hstart, hchars]; rfl
      have hP : startWith line.text "P" = true := by rw [hstart, hchars]; rfl
      have hPss : startWith line.text "Pss" = true := by rw [hstart, hchars]; rfl
      cases memType <;>
        simp [getValue, getHasPidValue, getNoPidValue, hR, hP, hPss, hread, htype]
    | inr htype =>
      have hchars : ∃ s, line.chars = 'S' :: 'w' :: 'a' :: 'p' :: 'P' :: 's' :: 's' :: s :=
        ⟨_, by rw [AmountLine.chars, ← String.toList_ofList (l := line.type), htype]; rfl⟩
      obtain ⟨s, hchars⟩ := hchars
      have hR : startWith line.text "R" = false := by rw [hstart, hchars]; rfl
      have hP : startWith line.text "P" = false := by rw [hstart, hchars]; rfl
      have hS : startWith line.text "S" = true := by rw [hstart, hchars]; rfl
      have hSwapPss : startWith line.text "SwapPss" = true := by rw [hstart, hchars]; rfl
      cases memType <;>
        simp [getValue, getHasPidValue, getNoPidValue, hR, hP, hS, hSwapPss, hread, htype]
  · -- Every branch returns what `GetTypeAndValue` reads, or nothing.
    have hfilter : ∀ p, (some (String.ofList line.type, line.amount.value)).filter p = none ∨
        (some (String.ofList line.type, line.amount.value)).filter p =
          some (String.ofList line.type, line.amount.value) := by
      intro p
      rw [Option.filter_some]
      split
      · exact .inr rfl
      · exact .inl rfl
    have hvalue : getValue memType line.text = none ∨
        getValue memType line.text = some (String.ofList line.type, line.amount.value) := by
      unfold getValue getHasPidValue getNoPidValue
      rw [hread]
      repeat' split
      all_goals first | exact hfilter _ | exact .inl rfl | exact .inr rfl
    cases hvalue with
    | inl hnone => exact .inl ⟨hnone, htype⟩
    | inr hsome => exact .inr hsome

/-! ## Adding up -/

/-- An amount is added under its group and its type. -/
private theorem amountOf_calcGroup (group type : String) (value : UInt64) (infos : GroupMap)
    (g t : String) :
    amountOf (MemoryUtil.calcGroup group type value infos) g t =
      amountOf infos g t + if g = group ∧ t = type then value else 0 := by
  unfold amountOf MemoryUtil.calcGroup
  rw [AList.lookup_upsert]
  by_cases hg : g = group
  · subst hg
    by_cases ht : t = type
    · subst ht
      cases hgroup : infos.lookup g with
      | none => simp [-AList.insert_empty]
      | some values => cases htype : values.lookup t <;> simp [AList.lookup_upsert, htype]
    · cases hgroup : infos.lookup g with
      | none => simp [-AList.insert_empty, ht, AList.lookup_insert_ne ht]
      | some values => simp [AList.lookup_upsert, ht]
  · simp [hg]

/-- A line of kB adds its amount to the group that is carried. -/
private theorem parseLine_amount (memType : MemoryFilter.MemoryType) (parse : SmapsParse)
    (line : AmountLine) :
    (parseLine memType parse line.text).memGroup = parse.memGroup ∧
      ∀ g, ∀ t ∈ pssTypes, amountOf (parseLine memType parse line.text).result g t =
        amountOf parse.result g t +
          if g = parse.memGroup ∧ t = String.ofList line.type then line.amount.value else 0 := by
  rw [parseLine, if_pos (isEnd_line line)]
  obtain ⟨hnone, htype⟩ | hsome := getValue_line memType line
  · rw [hnone]
    refine ⟨rfl, fun g t ht => ?_⟩
    have hne : t ≠ String.ofList line.type := fun heq => htype (heq ▸ ht)
    simp [hne]
  · rw [hsome]
    exact ⟨rfl, fun g t _ => amountOf_calcGroup _ _ _ _ g t⟩

/-- The amounts of a region go to the group that is current. -/
private theorem foldl_parseLine_amounts (memType : MemoryFilter.MemoryType)
    (amounts : List AmountLine)
    (parse : SmapsParse) :
    ((amounts.map (·.text)).foldl (parseLine memType) parse).memGroup = parse.memGroup ∧
      ∀ g, ∀ t ∈ pssTypes,
        amountOf ((amounts.map (·.text)).foldl (parseLine memType) parse).result g t =
          amountOf parse.result g t + if g = parse.memGroup then
            ((amounts.filter fun line => String.ofList line.type = t).map (·.amount.value)).sum
          else 0 := by
  induction amounts generalizing parse with
  | nil => simp
  | cons line amounts ih =>
    obtain ⟨hgroup, hline⟩ := parseLine_amount memType parse line
    obtain ⟨hgroup', hlines⟩ := ih (parseLine memType parse line.text)
    rw [List.map_cons, List.foldl_cons]
    refine ⟨hgroup'.trans hgroup, fun g t ht => ?_⟩
    rw [hlines g t ht, hline g t ht, hgroup, List.filter_cons]
    by_cases hg : g = parse.memGroup
    · by_cases htype : String.ofList line.type = t
      · simp [hg, htype, add_assoc]
      · simp [hg, htype, Ne.symm htype]
    · simp [hg]

/-- What is left when a region has been read: a header that does not end in `B` changes the
    group, and the amounts are added to the group there is then. -/
theorem parseRegion (memType : MemoryFilter.MemoryType) (parse : SmapsParse) (region : Region) :
    (region.lines.foldl (parseLine memType) parse).memGroup =
        (if region.EndsInB then parse.memGroup else region.group) ∧
      ∀ g, ∀ t ∈ pssTypes,
        amountOf (region.lines.foldl (parseLine memType) parse).result g t =
          amountOf parse.result g t +
            if g = (if region.EndsInB then parse.memGroup else region.group)
            then region.amount t else 0 := by
  -- The line of the flags is neither a header nor an amount.
  have hflags : ∀ parse, parseLine memType parse region.flagsText = parse := by
    intro parse
    rw [parseLine, isEnd_flagsText, isNameLine_flagsText]
    rfl
  have hheader : (parseLine memType parse region.header.text).memGroup =
        (if region.EndsInB then parse.memGroup else region.group) ∧
      (parseLine memType parse region.header.text).result = parse.result := by
    by_cases hend : region.EndsInB
    · have hend' : isEnd region.header.text "B" = true := hend
      rw [parseLine, if_pos hend', getValue_header, if_pos hend]
      exact ⟨rfl, rfl⟩
    · have hend' : ¬isEnd region.header.text "B" = true := hend
      rw [parseLine, if_neg hend', isNameLine_header, if_neg hend]
      exact ⟨rfl, rfl⟩
  obtain ⟨hgroup, hresult⟩ := hheader
  obtain ⟨hgroup', hamounts⟩ :=
    foldl_parseLine_amounts memType region.amounts (parseLine memType parse region.header.text)
  rw [Region.lines, List.foldl_cons, List.foldl_append, List.foldl_cons, List.foldl_nil, hflags]
  refine ⟨hgroup'.trans hgroup, fun g t ht => ?_⟩
  rw [hamounts g t ht, hgroup, hresult]
  rfl

/-! ## Runs over a file -/

/-- The group that is carried over from the regions before: that of the last one whose header
    does not end in `B`. -/
def carriedGroup (before : List Region) : String :=
  ((before.filter fun region => ¬region.EndsInB).getLast?.map (·.group)).getD ""

/-- A region whose head ends in `B` leaves the group of those before it. -/
private theorem carriedGroup_concat (before : List Region) (region : Region) :
    carriedGroup (before ++ [region]) =
      if region.EndsInB then carriedGroup before else region.group := by
  unfold carriedGroup
  rw [List.filter_append]
  by_cases hend : region.EndsInB
  · simp [hend]
  · simp [hend]

/-- A region behind others is parsed after them. -/
private theorem getInfo_concat (memType : MemoryFilter.MemoryType) (before : List Region)
    (region : Region) :
    getInfo memType (smapsLines (before ++ [region])) =
      region.lines.foldl (parseLine memType) (getInfo memType (smapsLines before)) := by
  simp [getInfo, smapsLines]

private theorem memGroup_getInfo (memType : MemoryFilter.MemoryType) (regions : List Region) :
    (getInfo memType (smapsLines regions)).memGroup = carriedGroup regions := by
  induction regions using List.reverseRecOn with
  | nil => rfl
  | append_singleton before region ih =>
    rw [getInfo_concat, (parseRegion memType _ region).1, ih, carriedGroup_concat]

/-- The group a region is added to. -/
def chargedGroup (before : List Region) (region : Region) : String :=
  if region.EndsInB then carriedGroup before else region.group

private theorem amountOf_concat (memType : MemoryFilter.MemoryType) (before : List Region)
    (region : Region) (g t : String) (ht : t ∈ pssTypes) :
    amountOf (getInfo memType (smapsLines (before ++ [region]))).result g t =
      amountOf (getInfo memType (smapsLines before)).result g t +
        if g = chargedGroup before region then region.amount t else 0 := by
  rw [getInfo_concat, (parseRegion memType _ region).2 g t ht, memGroup_getInfo]
  rfl

/-- Each region is added to the group of its own header, and a group has the sum over its
    regions. -/
structure GroupsOwnRegions (memType : MemoryFilter.MemoryType) (regions : List Region) :
    Prop where
  adds : ∀ before region after, regions = before ++ region :: after → ∀ g, ∀ t ∈ pssTypes,
    amountOf (getInfo memType (smapsLines (before ++ [region]))).result g t =
      amountOf (getInfo memType (smapsLines before)).result g t +
        if g = region.group then region.amount t else 0
  totals : ∀ g, ∀ t ∈ pssTypes, amountOf (getInfo memType (smapsLines regions)).result g t =
    ((regions.filter fun region => region.group = g).map (·.amount t)).sum

/-- What is wrong with a header that ends in `B` does not show: the group that is carried is
    the region's own, or there is nothing to add. -/
def Unnoticed (before : List Region) (region : Region) : Prop :=
  carriedGroup before = region.group ∨ ∀ t ∈ pssTypes, region.amount t = 0

/-- The amounts added to the carried group and to the region's own are the same. -/
private theorem charged_iff (before : List Region) (region : Region) :
    (∀ g, ∀ t ∈ pssTypes, (if g = chargedGroup before region then region.amount t else 0) =
        if g = region.group then region.amount t else 0) ↔
      (region.EndsInB → Unnoticed before region) := by
  unfold chargedGroup Unnoticed
  -- Only a header that ends in `B` is charged to another group than its own.
  by_cases hend : region.EndsInB
  · rw [if_pos hend]
    constructor
    · intro h _
      by_cases hgroup : carriedGroup before = region.group
      · exact .inl hgroup
      · -- The own group misses the amounts, so there are none.
        right
        intro t ht
        have hown := h region.group t ht
        rw [if_neg (Ne.symm hgroup), if_pos rfl] at hown
        exact hown.symm
    · intro h g t ht
      cases h hend with
      | inl hgroup => rw [hgroup]
      | inr hzero => simp [hzero t ht]
  · simp [hend]

/-- If no charge goes wrong unnoticed, every group has the sum over its regions. -/
private theorem totals_of_charged (memType : MemoryFilter.MemoryType) (regions : List Region)
    (h : ∀ before region after, regions = before ++ region :: after → region.EndsInB →
      Unnoticed before region) (g t : String) (ht : t ∈ pssTypes) :
    amountOf (getInfo memType (smapsLines regions)).result g t =
      ((regions.filter fun region => region.group = g).map (·.amount t)).sum := by
  induction regions using List.reverseRecOn with
  | nil => rfl
  | append_singleton before region ih =>
    have hbefore := ih fun before' region' after' heq =>
      h before' region' (after' ++ [region]) (by rw [heq]; simp)
    have hregion := (charged_iff before region).mpr (h before region [] rfl) g t ht
    rw [amountOf_concat memType before region g t ht, hbefore, hregion, List.filter_append,
      List.map_append, List.sum_append]
    by_cases hg : region.group = g
    · simp [hg]
    · simp [hg, Ne.symm hg]

/-- Every region is added to its own group just when no header that ends in `B` is noticed. -/
theorem groupsOwnRegions_iff (memType : MemoryFilter.MemoryType) (regions : List Region) :
    GroupsOwnRegions memType regions ↔
      ∀ before region after, regions = before ++ region :: after → region.EndsInB →
        Unnoticed before region := by
  constructor
  · -- What is added to the groups tells where the region has gone.
    intro h before region after hsplit
    rw [← charged_iff]
    intro g t ht
    have hadds := h.adds before region after hsplit g t ht
    rw [amountOf_concat memType before region g t ht] at hadds
    exact add_left_cancel hadds
  · intro h
    refine ⟨fun before region after hsplit g t ht => ?_,
      fun g t ht => totals_of_charged memType regions h g t ht⟩
    have hregion := (charged_iff before region).mpr (h before region after hsplit) g t ht
    rw [amountOf_concat memType before region g t ht, hregion]

/-! ## A library whose name ends in `B` -/

/-- The header `7f00-8f00 r--p 0000 b3:01 <inode> <path>`. -/
def plainHeader (iNode : Scanf.Numeral) (path : List Char) : RegionHeader where
  startAddr := .of ['7', 'f', '0', '0'] (by decide)
  endAddr := .of ['8', 'f', '0', '0'] (by decide)
  perms := .of ['r', '-', '-', 'p'] (by decide)
  offset := .of ['0', '0', '0', '0'] (by decide)
  dev := .of ['b', '3', ':', '0', '1'] (by decide)
  iNode := iNode
  blanks := 1
  path := path
  apart := fun _ => Nat.one_pos

def pssLine (amount : Scanf.Numeral) : AmountLine where
  type := ['P', 's', 's']
  noColon := by decide
  blanks := 1
  amount := amount

/-- The heap. -/
def heapRegion : Region where
  header := plainHeader (.of ['0'] (by decide)) ['[', 'h', 'e', 'a', 'p', ']']
  amounts := [pssLine (.of ['4'] (by decide))]
  vmFlags := [' ', 'r', 'd']
  flags_ne := by simp

/-- The file `/data/LIB`. -/
def libRegion : Region where
  header := plainHeader (.of ['7', '7'] (by decide))
    ['/', 'd', 'a', 't', 'a', '/', 'L', 'I', 'B']
  amounts := [pssLine (.of ['8'] (by decide))]
  vmFlags := [' ', 'r', 'd']
  flags_ne := by simp

/-- The 8 kB of `/data/LIB` are added to the native heap. -/
theorem not_groupsOwnRegions_heap_lib :
    ¬GroupsOwnRegions .notSpecifiedPid [heapRegion, libRegion] := by
  intro h
  have hadds := h.adds [heapRegion] libRegion [] rfl libRegion.group "Pss" (by decide)
  rw [amountOf_concat .notSpecifiedPid [heapRegion] libRegion _ _ (by decide)] at hadds
  -- The region is charged to the group of the heap, which is carried over.
  have hcharged := add_left_cancel hadds
  revert hcharged
  decide

end HiDumper.Spec
