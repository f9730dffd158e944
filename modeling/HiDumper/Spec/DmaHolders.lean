import HiDumper.ForStd.ExactInts
import HiDumper.Native.DmaInfo
import Mathlib.Algebra.Order.BigOperators.Group.Finset

/-!
# Whose process a DMA buffer is charged to

A buffer has a line for each process that holds it. `CreateDmaInfo` keeps one record for the
inode: the first line, and later only another pid. Whether a later holder takes the buffer
over is decided with the name in the record, which is that of the first line whoever has taken
it over since.

## Key results

- `scanDmaInfo_line`: what is read of a line
- `lookup_records`: the record of an inode, from its own lines
- `attributed_iff`: when an inode is charged to the holder with the highest priority
- `countsInodesOnce_iff`: when all totals are right
-/

namespace HiDumper.Spec

open HiDumper.Native DmaInfo

/-! ## Lines -/

/-- A data line: the name, the pid, the descriptor, the size and the inode in their columns, each
    padded by any white space, and whatever follows that is not a digit. -/
structure DmaLine where
  indent : List Char
  indent_isSpace : ∀ c ∈ indent, Scanf.isSpace c = true
  name : Scanf.Word
  name_le : name.text.length ≤ 255
  pidGap : Scanf.Gap
  pid : Scanf.Numeral
  pid_lt : Scanf.decimal pid.digits < UInt32.size
  fdGap : Scanf.Gap
  fd : Scanf.Numeral
  sizeGap : Scanf.Gap
  size : Scanf.Numeral
  inoGap : Scanf.Gap
  ino : Scanf.Numeral
  rest : List Char
  rest_head : ∀ c, rest.head? = some c → c.isDigit = false

namespace DmaLine

def chars (line : DmaLine) : List Char :=
  line.indent ++ (line.name.text ++ (line.pidGap.text ++ (line.pid.digits ++
    (line.fdGap.text ++ (line.fd.digits ++ (line.sizeGap.text ++ (line.size.digits ++
      (line.inoGap.text ++ (line.ino.digits ++ line.rest)))))))))

def text (line : DmaLine) : String := String.ofList line.chars

/-- What is recorded for a line. -/
def record (line : DmaLine) : MemInfoData.DmaInfo where
  size := line.size.value / bytePerKb
  ino := line.ino.value
  pid := line.pid.value.toUInt32
  name := String.ofList line.name.text

end DmaLine

/-- A number in its column, with another column behind it. -/
private theorem unsigned_column (gap next : Scanf.Gap) (numeral : Scanf.Numeral)
    (rest : List Char) :
    Scanf.unsigned (gap.text ++ (numeral.digits ++ (next.text ++ rest))) =
      some (numeral.value, next.text ++ rest) :=
  Scanf.unsigned_numeral _ gap.isSpace numeral
    fun _ hc => Scanf.isDigit_of_isSpace (next.head_isSpace hc)

/-- The format reads a data line, however its columns are padded. -/
theorem scanDmaInfo_line (line : DmaLine) :
    scanDmaInfo line.text = { line.record with size := line.size.value } := by
  have hword : ∀ rest, Scanf.wordUpTo 255 (line.indent ++
      (line.name.text ++ (line.pidGap.text ++ rest))) =
        some (line.name.text, line.pidGap.text ++ rest) := by
    intro rest
    rw [Scanf.wordUpTo, Scanf.word_append _ line.indent_isSpace line.name
      fun _ hc => line.pidGap.head_isSpace hc, Option.map_some]
    simp only [List.take_of_length_le line.name_le, List.drop_of_length_le line.name_le,
      List.nil_append]
  -- The inode is the last number: `rest` ends it.
  have hino := Scanf.unsigned_numeral _ line.inoGap.isSpace line.ino line.rest_head
  rw [scanDmaInfo, DmaLine.text, String.toList_ofList, DmaLine.chars, hword]
  simp only [unsigned_column, hino]
  rfl

/-- A line is parsed into the record it was printed from. -/
private theorem createDmaInfo_line (dmaInfos : UnorderedMap UInt64 MemInfoData.DmaInfo)
    (line : DmaLine) : createDmaInfo dmaInfos line.text = addDmaInfo dmaInfos line.record := by
  rw [createDmaInfo, scanDmaInfo_line]
  rfl

/-! ## The record of an inode -/

/-- The kinds of holders. -/
inductive Holder where
  | composerHost
  | renderService
  | application
  deriving DecidableEq, Repr

def holderOf (info : MemInfoData.DmaInfo) : Holder :=
  if info.name = "composer_host" then .composerHost
  else if info.name = "render_service" then .renderService
  else .application

/-- Does a later holder take the buffer over from the first one? -/
def takesOver (first info : MemInfoData.DmaInfo) : Bool :=
  holderOf info = .application || (holderOf info = .renderService && holderOf first = .composerHost)

/-- An application takes a buffer over, and `render_service` takes it over from `composer_host`. -/
private theorem takesOver_iff (first info : MemInfoData.DmaInfo) : takesOver first info = true ↔
    (info.name ≠ "composer_host" ∧ info.name ≠ "render_service") ∨
      (info.name = "render_service" ∧ first.name = "composer_host") := by
  have hnames : "render_service" ≠ "composer_host" := by decide
  unfold takesOver holderOf
  by_cases hcomposer : info.name = "composer_host"
  · simp [hcomposer, Ne.symm hnames]
  · by_cases hrender : info.name = "render_service"
    · by_cases hfirst : first.name = "composer_host"
      · simp [hrender, hfirst]
      · by_cases hfirst' : first.name = "render_service" <;> simp [hrender, hfirst, hfirst']
    · simp [hcomposer, hrender]

/-- What one line does to the record of its inode. -/
def recordLine (found : Option MemInfoData.DmaInfo) (info : MemInfoData.DmaInfo) :
    Option MemInfoData.DmaInfo :=
  match found with
  | none => some info
  | some found => if takesOver found info then some { found with pid := info.pid } else some found

/-- A record is seen under its inode only. -/
private theorem lookup_addDmaInfo (dmaInfos : UnorderedMap UInt64 MemInfoData.DmaInfo)
    (info : MemInfoData.DmaInfo) (ino : UInt64) :
    (addDmaInfo dmaInfos info).lookup ino =
      if info.ino = ino then recordLine (dmaInfos.lookup ino) info else dmaInfos.lookup ino := by
  unfold addDmaInfo
  by_cases hino : info.ino = ino
  · subst hino
    rw [if_pos rfl]
    cases hfound : dmaInfos.lookup info.ino with
    | none => exact AList.lookup_insert dmaInfos
    | some found =>
      simp only [recordLine, ← takesOver_iff]
      split
      · exact AList.lookup_insert dmaInfos
      · exact hfound
  · rw [if_neg hino]
    have hother : ∀ record : MemInfoData.DmaInfo,
        (dmaInfos.insert info.ino record).lookup ino = dmaInfos.lookup ino :=
      fun record => AList.lookup_insert_ne (Ne.symm hino)
    split
    · exact hother _
    · split
      · exact hother _
      · rfl

/-- The record of an inode depends on its own lines only. -/
theorem lookup_records (infos : List MemInfoData.DmaInfo)
    (dmaInfos : UnorderedMap UInt64 MemInfoData.DmaInfo) (ino : UInt64) :
    (infos.foldl addDmaInfo dmaInfos).lookup ino =
      (infos.filter fun info => info.ino = ino).foldl recordLine (dmaInfos.lookup ino) := by
  induction infos generalizing dmaInfos with
  | nil => rfl
  | cons info infos ih =>
    rw [List.foldl_cons, ih, lookup_addDmaInfo]
    by_cases hino : info.ino = ino
    · rw [if_pos hino, List.filter_cons_of_pos (by simpa using hino), List.foldl_cons]
    · rw [if_neg hino, List.filter_cons_of_neg (by simpa using hino)]

/-- The pid in the record: that of the last line that takes over from the first one. -/
def chargedPid (first : MemInfoData.DmaInfo) (rest : List MemInfoData.DmaInfo) : UInt32 :=
  ((rest.filter (takesOver first)).getLast?.getD first).pid

/-- The record of the first line, with the pid of the last one that has taken over. -/
private theorem foldl_recordLine (first : MemInfoData.DmaInfo) (rest : List MemInfoData.DmaInfo) :
    (first :: rest).foldl recordLine none = some { first with pid := chargedPid first rest } := by
  induction rest using List.reverseRecOn with
  | nil => rfl
  | append_singleton rest info ih =>
    rw [← List.cons_append, List.foldl_append, ih, List.foldl_cons, List.foldl_nil, recordLine]
    -- The name in the record is still that of the first line.
    have hname : takesOver { first with pid := chargedPid first rest } info =
        takesOver first info := rfl
    rw [hname, chargedPid, chargedPid, List.filter_append]
    by_cases htakes : takesOver first info = true
    · simp [htakes]
    · simp [htakes]

/-! ## Priorities -/

/-- The holder a buffer belongs to: the last application, otherwise a render service, otherwise
    a composer host. -/
def AttributedTo (held : List MemInfoData.DmaInfo) (pid : UInt32) : Prop :=
  match (held.filter fun info => holderOf info = .application).getLast? with
  | some app => app.pid = pid
  | none =>
    if ∃ info ∈ held, holderOf info = .renderService then
      ∃ info ∈ held, holderOf info = .renderService ∧ info.pid = pid
    else ∃ info ∈ held, holderOf info = .composerHost ∧ info.pid = pid

/-- If the first line is a composer host's and an application holds the buffer too, then the last
    line that is not a composer host's has the pid of the last application. -/
def KeepsApplication (held : List MemInfoData.DmaInfo) : Prop :=
  ∀ first app last, held.head? = some first → holderOf first = .composerHost →
    (held.filter fun info => holderOf info = .application).getLast? = some app →
    (held.filter fun info => holderOf info ≠ .composerHost).getLast? = some last →
    last.pid = app.pid

/-- From an application or a render service only applications take a buffer over. -/
private theorem chargedPid_of_not_composer {first : MemInfoData.DmaInfo}
    (hfirst : holderOf first ≠ .composerHost) (rest : List MemInfoData.DmaInfo) :
    chargedPid first rest =
      ((rest.filter fun info => holderOf info = .application).getLast?.getD first).pid := by
  have htakes : ∀ info, takesOver first info = decide (holderOf info = .application) := by
    intro info
    simp [takesOver, hfirst]
  rw [chargedPid, List.filter_congr fun info _ => htakes info]

/-- From a composer host everyone else does. -/
private theorem chargedPid_of_composer {first : MemInfoData.DmaInfo}
    (hfirst : holderOf first = .composerHost) (rest : List MemInfoData.DmaInfo) :
    chargedPid first rest =
      ((rest.filter fun info => holderOf info ≠ .composerHost).getLast?.getD first).pid := by
  have htakes : ∀ info, takesOver first info = decide (holderOf info ≠ .composerHost) := by
    intro info
    cases hinfo : holderOf info <;> simp [takesOver, hfirst, hinfo]
  rw [chargedPid, List.filter_congr fun info _ => htakes info]

/-- An inode is charged by the rule just when no render service has taken it from an
    application. -/
theorem attributed_iff (first : MemInfoData.DmaInfo) (rest : List MemInfoData.DmaInfo) :
    AttributedTo (first :: rest) (chargedPid first rest) ↔ KeepsApplication (first :: rest) := by
  by_cases hcomposer : holderOf first = .composerHost
  · have happs : (first :: rest).filter (fun info => holderOf info = .application) =
        rest.filter fun info => holderOf info = .application :=
      List.filter_cons_of_neg (by simp [hcomposer])
    have hothers : (first :: rest).filter (fun info => holderOf info ≠ .composerHost) =
        rest.filter fun info => holderOf info ≠ .composerHost :=
      List.filter_cons_of_neg (by simp [hcomposer])
    rw [chargedPid_of_composer hcomposer, AttributedTo, KeepsApplication, happs, hothers]
    -- Everyone but a composer host has taken over, so the last of these is charged.
    cases happ : (rest.filter fun info => holderOf info = .application).getLast? with
    | some app =>
      -- The application is one of the lines that take over, so there is a last one of these.
      have happMem := List.mem_filter.mp (List.mem_of_getLast? happ)
      have hotherMem : app ∈ rest.filter fun info => holderOf info ≠ .composerHost := by
        have happHolder : holderOf app = .application := by simpa using happMem.2
        simp [List.mem_filter, happMem.1, happHolder]
      cases hlast : (rest.filter fun info => holderOf info ≠ .composerHost).getLast? with
      | none =>
        rw [List.getLast?_eq_none_iff] at hlast
        rw [hlast] at hotherMem
        exact nomatch hotherMem
      | some last =>
        constructor
        · intro hpid first' app' last' _ _ happ' hlast'
          rw [← Option.some.inj happ', ← Option.some.inj hlast']
          exact hpid.symm
        · intro h
          exact (h first app last rfl hcomposer rfl rfl).symm
    | none =>
      have hnone : ∀ info ∈ rest, holderOf info ≠ .application := by
        simpa [List.getLast?_eq_none_iff, List.filter_eq_nil_iff] using happ
      simp only [reduceCtorEq, false_implies, implies_true, iff_true]
      cases hlast : (rest.filter fun info => holderOf info ≠ .composerHost).getLast? with
      | some last =>
        have hlastMem := List.mem_filter.mp (List.mem_of_getLast? hlast)
        have hlastHolder : holderOf last ≠ .composerHost := by simpa using hlastMem.2
        have hrender : holderOf last = .renderService := by
          have hnotApp := hnone last hlastMem.1
          cases hkind : holderOf last with
          | composerHost => exact absurd hkind hlastHolder
          | renderService => rfl
          | application => exact absurd hkind hnotApp
        have hmem : last ∈ first :: rest := List.mem_cons_of_mem first hlastMem.1
        rw [if_pos ⟨last, hmem, hrender⟩]
        exact ⟨last, hmem, hrender, rfl⟩
      | none =>
        -- Only composer hosts hold the buffer, and the first one is charged.
        have hall : ∀ info ∈ rest, holderOf info = .composerHost := by
          simpa [List.getLast?_eq_none_iff, List.filter_eq_nil_iff] using hlast
        have hnoRender : ¬∃ info ∈ first :: rest, holderOf info = .renderService := by
          rintro ⟨info, hmem, hrender⟩
          cases List.mem_cons.mp hmem with
          | inl heq => exact absurd (heq ▸ hrender) (by simp [hcomposer])
          | inr hmem => exact absurd (hall info hmem) (by simp [hrender])
        rw [if_neg hnoRender]
        exact ⟨first, List.mem_cons_self, hcomposer, rfl⟩
  · -- The rule does not apply to the condition, and the last application is charged.
    have hkeeps : KeepsApplication (first :: rest) := by
      intro first' app last hhead hfirst'
      obtain rfl : first = first' := Option.some.inj hhead
      exact absurd hfirst' hcomposer
    refine iff_of_true ?_ hkeeps
    rw [chargedPid_of_not_composer hcomposer, AttributedTo]
    by_cases hfirst : holderOf first = .application
    · rw [List.filter_cons_of_pos (by simpa using hfirst), List.getLast?_cons]
    · rw [List.filter_cons_of_neg (by simpa using hfirst)]
      have hrender : holderOf first = .renderService := by
        cases hkind : holderOf first with
        | composerHost => exact absurd hkind hcomposer
        | renderService => rfl
        | application => exact absurd hkind hfirst
      cases happ : (rest.filter fun info => holderOf info = .application).getLast? with
      | some app => rfl
      | none =>
        show if _ then _ else _
        rw [if_pos ⟨first, List.mem_cons_self, hrender⟩]
        exact ⟨first, List.mem_cons_self, hrender, rfl⟩

/-! ## Totals -/

/-- `DmaInfo` when the lines are read. -/
def parsed (lines : List DmaLine) : DmaInfo :=
  (parseDmaInfo {} (some (lines.map (·.text)))).1

def inodes (lines : List DmaLine) : Finset UInt64 := (lines.map (·.ino.value)).toFinset

/-- The lines of an inode. -/
def held (lines : List DmaLine) (ino : UInt64) : List MemInfoData.DmaInfo :=
  (lines.map (·.record)).filter fun info => info.ino = ino

/-- The kilobytes of an inode. All its lines have the same size; the first one is taken. -/
def sizeKb (lines : List DmaLine) (ino : UInt64) : Nat :=
  ((lines.find? fun line => line.ino.value = ino).map fun line =>
    line.size.value.toNat / 1024).getD 0

/-- The pid an inode is charged to. -/
def charged (lines : List DmaLine) (ino : UInt64) : Option UInt32 :=
  ((parsed lines).dmaInfos.lookup ino).map (·.pid)

/-- Each inode is charged once, to the holder it belongs to, and the totals are the sums over
    inodes. -/
structure CountsInodesOnce (lines : List DmaLine) : Prop where
  attributed : ∀ ino ∈ inodes lines, ∃ pid, charged lines ino = some pid ∧
    AttributedTo (held lines ino) pid
  byPid : ∀ pid : Int32, ((parsed lines).getDmaByPid pid).toNat =
    ∑ ino ∈ inodes lines with charged lines ino = some pid.toUInt32, sizeKb lines ino
  total : (parsed lines).getTotalDma.toNat = ∑ ino ∈ inodes lines, sizeKb lines ino

/-- Parsing the lines is adding their records. -/
private theorem dmaInfos_parsed (lines : List DmaLine) :
    (parsed lines).dmaInfos = (lines.map (·.record)).foldl addDmaInfo ∅ := by
  have hlines : ∀ dmaInfos, (lines.map (·.text)).foldl createDmaInfo dmaInfos =
      (lines.map (·.record)).foldl addDmaInfo dmaInfos := by
    induction lines with
    | nil => exact fun dmaInfos => rfl
    | cons line lines ih =>
      intro dmaInfos
      rw [List.map_cons, List.foldl_cons, List.map_cons, List.foldl_cons, createDmaInfo_line, ih]
  exact hlines ∅

/-- The record of an inode that has lines. -/
private theorem lookup_parsed {lines : List DmaLine} {ino : UInt64} {first : MemInfoData.DmaInfo}
    {rest : List MemInfoData.DmaInfo} (hheld : held lines ino = first :: rest) :
    (parsed lines).dmaInfos.lookup ino = some { first with pid := chargedPid first rest } := by
  have hrecords := lookup_records (lines.map (·.record)) ∅ ino
  rw [dmaInfos_parsed, hrecords]
  show (held lines ino).foldl recordLine none = _
  rw [hheld, foldl_recordLine]

/-- An inode that no line has is held by none. -/
private theorem held_eq_nil_iff (lines : List DmaLine) (ino : UInt64) :
    held lines ino = [] ↔ ino ∉ inodes lines := by
  simp [held, inodes, DmaLine.record]

/-- An inode of some line has a first holder. -/
private theorem exists_held {lines : List DmaLine} {ino : UInt64} (h : ino ∈ inodes lines) :
    ∃ first rest, held lines ino = first :: rest :=
  List.exists_cons_of_ne_nil fun hnil => (held_eq_nil_iff lines ino).mp hnil h

/-- The size of an inode is that of its first line. -/
private theorem sizeKb_of_held {lines : List DmaLine} {ino : UInt64} {first : MemInfoData.DmaInfo}
    {rest : List MemInfoData.DmaInfo} (hheld : held lines ino = first :: rest) :
    sizeKb lines ino = first.size.toNat := by
  have hhead : (held lines ino).head? = some first := by
    rw [hheld]
    rfl
  rw [held, List.filter_map, List.head?_map, List.head?_filter, Option.map_eq_some_iff] at hhead
  obtain ⟨line, hfind, hrecord⟩ := hhead
  have hfind' : lines.find? (fun line => line.ino.value = ino) = some line := hfind
  rw [sizeKb, hfind', ← hrecord, Option.map_some, Option.getD_some]
  exact (UInt64.toNat_div line.size.value bytePerKb).symm

/-- The records are those of the inodes, with their sizes. -/
private theorem mem_entries {lines : List DmaLine} {e : Sigma fun _ : UInt64 => MemInfoData.DmaInfo}
    (h : e ∈ (parsed lines).dmaInfos.entries) :
    e.1 ∈ inodes lines ∧ charged lines e.1 = some e.2.pid ∧
      sizeKb lines e.1 = e.2.size.toNat := by
  have hlookup : (parsed lines).dmaInfos.lookup e.1 = some e.2 :=
    AList.lookup_eq_some_iff.mpr h
  have hmem : e.1 ∈ inodes lines := by
    by_contra hnot
    have hrecords := lookup_records (lines.map (·.record)) ∅ e.1
    have hnil : held lines e.1 = [] := (held_eq_nil_iff lines e.1).mpr hnot
    unfold held at hnil
    rw [hnil, ← dmaInfos_parsed, hlookup] at hrecords
    exact nomatch hrecords
  obtain ⟨first, rest, hheld⟩ := exists_held hmem
  have hrecord := lookup_parsed hheld
  rw [hlookup, Option.some.injEq] at hrecord
  refine ⟨hmem, by rw [charged, hlookup, Option.map_some], ?_⟩
  rw [sizeKb_of_held hheld, hrecord]

/-- The inodes are charged, and nothing else is. -/
private theorem mem_inodes_iff (lines : List DmaLine) (ino : UInt64) :
    ino ∈ inodes lines ↔ ∃ pid, charged lines ino = some pid := by
  constructor
  · intro h
    obtain ⟨first, rest, hheld⟩ := exists_held h
    exact ⟨_, by rw [charged, lookup_parsed hheld]; rfl⟩
  · rintro ⟨pid, hcharged⟩
    rw [charged, Option.map_eq_some_iff] at hcharged
    obtain ⟨info, hlookup, -⟩ := hcharged
    exact (mem_entries (AList.lookup_eq_some_iff.mp hlookup)).1

/-- A sum over the records of some pids is a sum over the inodes that are charged to them. -/
private theorem sum_records (lines : List DmaLine) (p : UInt32 → Bool) {s : Finset UInt64}
    (hs : ∀ ino, ino ∈ s ↔ ∃ pid, charged lines ino = some pid ∧ p pid = true) :
    (((parsed lines).dmaInfos.entries.filter fun e => p e.2.pid).map
        fun e => e.2.size.toNat).sum = ∑ ino ∈ s, sizeKb lines ino := by
  have hnodup : (((parsed lines).dmaInfos.entries.filter fun e => p e.2.pid).map (·.1)).Nodup :=
    List.Nodup.sublist (List.filter_sublist.map _) (parsed lines).dmaInfos.nodupKeys
  -- A record has the size of its inode, so the sum is one over the inodes.
  have hsizes : ((parsed lines).dmaInfos.entries.filter fun e => p e.2.pid).map
        (fun e => e.2.size.toNat) =
      (((parsed lines).dmaInfos.entries.filter fun e => p e.2.pid).map (·.1)).map
        (sizeKb lines) := by
    rw [List.map_map]
    apply List.map_congr_left
    intro e he
    exact (mem_entries (List.mem_filter.mp he).1).2.2.symm
  have hkeys : (((parsed lines).dmaInfos.entries.filter fun e => p e.2.pid).map (·.1)).toFinset =
      s := by
    ext ino
    rw [List.mem_toFinset, List.mem_map, hs]
    constructor
    · rintro ⟨e, he, rfl⟩
      rw [List.mem_filter] at he
      exact ⟨e.2.pid, (mem_entries he.1).2.1, he.2⟩
    · rintro ⟨pid, hcharged, hp⟩
      rw [charged, Option.map_eq_some_iff] at hcharged
      obtain ⟨info, hlookup, rfl⟩ := hcharged
      have hentry := AList.lookup_eq_some_iff.mp hlookup
      exact ⟨⟨ino, info⟩, List.mem_filter.mpr ⟨hentry, hp⟩, rfl⟩
  rw [hsizes, ← List.sum_toFinset _ hnodup, hkeys]

/-- The amount of a pid is the residue of the sum over its inodes. -/
private theorem toNat_getDmaByPid (lines : List DmaLine) (pid : Int32) :
    ((parsed lines).getDmaByPid pid).toNat =
      (∑ ino ∈ inodes lines with charged lines ino = some pid.toUInt32, sizeKb lines ino) %
        2 ^ 64 := by
  have htally := AList.getD_lookup_foldl_tally
    (fun e : Sigma fun _ : UInt64 => MemInfoData.DmaInfo => e.2.pid) (fun e => e.2.size)
    (parsed lines).dmaInfos.entries ∅ pid.toUInt32
  have hamount : (parsed lines).getDmaByPid pid =
      (((parsed lines).dmaInfos.entries.filter fun e => e.2.pid = pid.toUInt32).map
        fun e => e.2.size).sum := by
    rw [AList.lookup_empty, Option.getD_none, zero_add] at htally
    exact htally
  have hsum := sum_records lines (fun p => p = pid.toUInt32)
    (s := {ino ∈ inodes lines | charged lines ino = some pid.toUInt32}) fun ino => by
      simp only [Finset.mem_filter, mem_inodes_iff, decide_eq_true_eq, exists_eq_right]
      exact and_iff_right_of_imp fun hcharged => ⟨pid.toUInt32, hcharged⟩
  rw [hamount, UInt64.toNat_sum, List.map_map, ← hsum]
  rfl

/-- The total is the residue of the sum over all inodes. -/
private theorem toNat_getTotalDma (lines : List DmaLine) :
    (parsed lines).getTotalDma.toNat = (∑ ino ∈ inodes lines, sizeKb lines ino) % 2 ^ 64 := by
  have hfold := AList.sumVals_foldl_upsert id
    (fun e : Sigma fun _ : UInt64 => MemInfoData.DmaInfo => e.2.size) (fun e => e.2.pid)
    (fun e => e.2.size) (fun e size => size + e.2.size) (fun _ => rfl) (fun _ _ => rfl)
    (parsed lines).dmaInfos.entries ∅
  have htotal : (parsed lines).getTotalDma =
      ((parsed lines).dmaInfos.entries.map fun e => e.2.size).sum := by
    rw [AList.sumVals_empty, zero_add] at hfold
    rw [← hfold, getTotalDma, ← List.foldl_map, ← List.sum_eq_foldl]
    rfl
  have hsum := sum_records lines (fun _ => true) (s := inodes lines) fun ino => by
    rw [mem_inodes_iff]
    simp
  rw [List.filter_true] at hsum
  rw [htotal, UInt64.toNat_sum, List.map_map, ← hsum]
  rfl

/-- A buffer is charged to a process that it may be charged to exactly if it keeps its
    application. -/
private theorem charged_attributed_iff {lines : List DmaLine} {ino : UInt64}
    (h : ino ∈ inodes lines) :
    (∃ pid, charged lines ino = some pid ∧ AttributedTo (held lines ino) pid) ↔
      KeepsApplication (held lines ino) := by
  obtain ⟨first, rest, hheld⟩ := exists_held h
  have hcharged : charged lines ino = some (chargedPid first rest) := by
    rw [charged, lookup_parsed hheld, Option.map_some]
  rw [hheld, ← attributed_iff, hcharged]
  simp

/-- All is right just when no render service has taken a buffer from an application, and the
    total does not wrap around. -/
theorem countsInodesOnce_iff (lines : List DmaLine) :
    CountsInodesOnce lines ↔
      (∀ ino ∈ inodes lines, KeepsApplication (held lines ino)) ∧
        ∑ ino ∈ inodes lines, sizeKb lines ino < 2 ^ 64 := by
  constructor
  · intro h
    refine ⟨fun ino hino => (charged_attributed_iff hino).mp (h.attributed ino hino), ?_⟩
    rw [← h.total]
    exact UInt64.toNat_lt _
  · rintro ⟨hkeeps, hrange⟩
    refine ⟨fun ino hino => (charged_attributed_iff hino).mpr (hkeeps ino hino), fun pid => ?_, ?_⟩
    · have hle : ∑ ino ∈ inodes lines with charged lines ino = some pid.toUInt32,
          sizeKb lines ino ≤ ∑ ino ∈ inodes lines, sizeKb lines ino :=
        Finset.sum_le_sum_of_subset (Finset.filter_subset _ _)
      rw [toNat_getDmaByPid, Nat.mod_eq_of_lt (by omega)]
    · rw [toNat_getTotalDma, Nat.mod_eq_of_lt hrange]

/-! ## A render service behind an application -/

/-- A line of the buffer 7, of 4096 bytes, in columns as the kernel prints them. -/
def bufferLine (name : Scanf.Word) (name_le : name.text.length ≤ 16) (pid : Scanf.Numeral)
    (pid_lt : Scanf.decimal pid.digits < UInt32.size) : DmaLine where
  indent := []
  indent_isSpace := fun _ h => absurd h List.not_mem_nil
  name := name
  name_le := by omega
  -- The pid begins in column 17, the inode 17 columns behind the size.
  pidGap := .of (List.replicate (17 - name.text.length) ' ') ⟨by
    rw [Ne, List.replicate_eq_nil_iff]
    omega, List.all_eq_true.mpr (Scanf.isSpace_of_mem_replicate _)⟩
  pid := pid
  pid_lt := pid_lt
  fdGap := .of (List.replicate 16 ' ') (by decide)
  fd := .of ['9'] (by decide)
  sizeGap := .of (List.replicate 16 ' ') (by decide)
  size := .of ['4', '0', '9', '6'] (by decide)
  inoGap := .of (List.replicate 13 ' ') (by decide)
  ino := .of ['7'] (by decide)
  rest := " 1 app NULL".toList
  rest_head := fun c hc => by
    obtain rfl : ' ' = c := Option.some.inj hc
    decide

/-- A buffer of the composer host, the application 2 and the render service 3. -/
def threeHolders : List DmaLine :=
  [bufferLine (.of ['c', 'o', 'm', 'p', 'o', 's', 'e', 'r', '_', 'h', 'o', 's', 't'] (by decide))
      (by decide) (.of ['1'] (by decide)) (by decide),
    bufferLine (.of ['a', 'p', 'p'] (by decide)) (by decide) (.of ['2'] (by decide)) (by decide),
    bufferLine
      (.of ['r', 'e', 'n', 'd', 'e', 'r', '_', 's', 'e', 'r', 'v', 'i', 'c', 'e'] (by decide))
      (by decide) (.of ['3'] (by decide)) (by decide)]

example : (threeHolders.map (·.text))[1]? =
    some "app              2                9                4096             7 1 app NULL" := by
  decide +kernel

/-- The buffer is charged to the render service, not to the application. -/
theorem not_countsInodesOnce_threeHolders :
    ¬CountsInodesOnce threeHolders ∧
      ((parsed threeHolders).getDmaByPid 2, (parsed threeHolders).getDmaByPid 3) = (0, 4) := by
  constructor
  · intro h
    have hmem : (7 : UInt64) ∈ inodes threeHolders := by decide
    obtain ⟨pid, hcharged, hattributed⟩ := h.attributed 7 hmem
    have hpid : charged threeHolders 7 = some 3 := by decide
    obtain rfl : 3 = pid := Option.some.inj (hpid.symm.trans hcharged)
    have hrule : (2 : UInt32) = 3 := hattributed
    exact absurd hrule (by decide)
  · decide

end HiDumper.Spec
