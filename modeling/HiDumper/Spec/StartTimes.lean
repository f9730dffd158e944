import HiDumper.Native.ThreadInfo
import HiDumper.Spec.SplitTexts

/-!
# Start times of threads

What `FdThreadDumper::GetThreadStartTime` finds in the `stat` of a thread. The kernel puts
the name of the thread between parentheses and writes the other fields behind it; the name
is any text. The fields are counted from the first `)` of the line, so a name with a `)`
moves the fields back by the words that stand between the two parentheses.

## Key results

- `fields_afterParen`: what is counted, for every name
- `getThreadStartTime_eq_iff`: the start time is found exactly where nothing is moved, or
  where the field in its place has the same number
-/

namespace HiDumper.Spec

open HiDumper.Native Scanf

/-! ## The line of the kernel -/

/-- A line `tid (comm) state ... starttime ...`. The kernel writes a line break in a name as
    two other characters. -/
structure StatLine where
  tid : Numeral
  comm : List Char
  comm_newline : '\n' ∉ comm
  /-- The fields from the state to the one in front of the start time. -/
  before : List Word
  length_before : before.length = 19
  starttime : UInt64
  after : List Word

namespace StatLine

/-- The fields behind the name. -/
def words (line : StatLine) : List (List Char) :=
  line.before.map (·.text) ++ (Numeral.ofUInt64 line.starttime).digits :: line.after.map (·.text)

/-- The text behind the `)` of the kernel. -/
def tail (line : StatLine) : List Char := line.words.flatMap (' ' :: ·)

def text (line : StatLine) : List Char :=
  line.tid.digits ++ ' ' :: '(' :: (line.comm ++ ')' :: line.tail)

/-- The file `stat`. -/
def content (line : StatLine) : String := String.ofList (line.text ++ ['\n'])

/-- The words from the first `)` of the name to the `)` of the kernel. -/
def displaced (line : StatLine) : List (List Char) :=
  match line.comm.dropWhile (· ≠ ')') with
  | [] => []
  | _ :: rest => (rest ++ [')']).fields isSpace

/-- The name has no `)`; or the 20th word, counted from behind its first `)`, happens to be
    a number with the value of the start time. -/
def CountsRight (line : StatLine) : Prop :=
  ')' ∉ line.comm ∨
    ∃ field, (line.displaced ++ line.before.map (·.text))[19]? = some field ∧
      field.all Char.isDigit = true ∧ FdThreadDumper.strtoull field = line.starttime.toNat

/-! ## The fields -/

/-- A digit is no white space. -/
private theorem isSpace_of_isDigit {c : Char} (h : c.isDigit = true) : isSpace c = false :=
  isSpace_of_isHexDigit (isHexDigit_of_isDigit h)

/-- All fields are words. -/
private theorem of_mem_words {line : StatLine} {word : List Char} (h : word ∈ line.words) :
    word ≠ [] ∧ ∀ c ∈ word, isSpace c = false := by
  simp only [words, List.mem_append, List.mem_map, List.mem_cons] at h
  rcases h with ⟨w, -, rfl⟩ | rfl | ⟨w, -, rfl⟩
  · exact ⟨w.ne_nil, w.notSpace⟩
  · exact ⟨Numeral.ne_nil _, fun c hc => isSpace_of_isDigit (Numeral.isDigit _ c hc)⟩
  · exact ⟨w.ne_nil, w.notSpace⟩

/-- Words with a blank in front of each are found again. -/
private theorem fields_flatMap_words {ws : List (List Char)}
    (h : ∀ w ∈ ws, w ≠ [] ∧ ∀ c ∈ w, isSpace c = false) :
    (ws.flatMap (' ' :: ·)).fields isSpace = ws := by
  induction ws with
  | nil => rfl
  | cons w ws ih =>
    have hw := h w List.mem_cons_self
    have hnext : ∀ c, (ws.flatMap (' ' :: ·)).head? = some c → isSpace c = true := by
      intro c hc
      cases ws with
      | nil => simp at hc
      | cons v ws =>
        simp only [List.flatMap_cons, List.cons_append, List.head?_cons, Option.some.injEq] at hc
        subst hc
        decide
    rw [List.flatMap_cons, List.cons_append, List.fields_cons_sep (by decide),
      List.fields_part_append hw.1 hw.2 hnext, ih fun v hv => h v (List.mem_cons_of_mem w hv)]

/-- The fields behind the name. -/
private theorem fields_tail (line : StatLine) : line.tail.fields isSpace = line.words :=
  fields_flatMap_words fun _ hw => of_mem_words hw

/-- There are fields, so a blank follows the name. -/
private theorem tail_eq_cons (line : StatLine) : ∃ rest, line.tail = ' ' :: rest := by
  unfold tail words
  cases line.before.map (·.text) with
  | nil => exact ⟨_, rfl⟩
  | cons w ws => exact ⟨_, rfl⟩

/-- A name without `)` moves no field. -/
private theorem displaced_of_not_mem {line : StatLine}
    (h : ')' ∉ line.comm) : line.displaced = [] := by
  have hdrop : line.comm.dropWhile (· ≠ ')') = [] := by
    rw [List.dropWhile_eq_nil_iff]
    intro c hc
    simpa using ne_of_mem_of_not_mem hc h
  rw [displaced, hdrop]

/-- The `)` of the kernel itself is in one of the words. -/
private theorem displaced_ne_nil {line : StatLine} (h : ')' ∈ line.comm) : line.displaced ≠ [] := by
  unfold displaced
  split
  · rename_i hdrop
    have hall := List.dropWhile_eq_nil_iff.mp hdrop ')' h
    simp at hall
  · rename_i rest hdrop
    rw [ne_eq, List.fields_eq_nil_iff]
    intro hall
    have hparen := hall ')' (List.mem_append_right rest List.mem_cons_self)
    exact absurd hparen (by decide)

/-- What `GetThreadStartTime` counts: the words of the name that are moved there, and the
    fields. -/
theorem fields_afterParen (line : StatLine) :
    ∃ rest, FdThreadDumper.afterParen line.text = some rest ∧
      rest.fields isSpace = line.displaced ++ line.words := by
  have htid : ∀ c ∈ line.tid.digits ++ [' ', '('], c ≠ ')' := by
    intro c hc heq
    subst heq
    rw [List.mem_append] at hc
    rcases hc with hdigit | hpunct
    · exact absurd (line.tid.isDigit ')' hdigit) (by decide)
    · exact absurd hpunct (by decide)
  have hskip : line.text.dropWhile (· ≠ ')') =
      (line.comm ++ ')' :: line.tail).dropWhile (· ≠ ')') := by
    have htext : line.text =
        (line.tid.digits ++ [' ', '(']) ++ (line.comm ++ ')' :: line.tail) := by
      simp [text]
    rw [htext, List.dropWhile_append_of_pos (by simpa using htid)]
  unfold FdThreadDumper.afterParen displaced
  rw [hskip]
  cases hcomm : line.comm.dropWhile (· ≠ ')') with
  | nil =>
    -- The first `)` is the one of the kernel.
    have hnone : ∀ c ∈ line.comm, (decide (c ≠ ')')) = true := List.dropWhile_eq_nil_iff.mp hcomm
    refine ⟨line.tail, ?_, by rw [fields_tail, List.nil_append]⟩
    rw [List.dropWhile_append_of_pos hnone]
    simp
  | cons c rest =>
    obtain ⟨next, htail⟩ := line.tail_eq_cons
    refine ⟨rest ++ ')' :: line.tail, ?_, ?_⟩
    · rw [List.dropWhile_append, hcomm]
      simp
    · have hcut : (rest ++ [')'] ++ ' ' :: next).fields isSpace =
          (rest ++ [')']).fields isSpace ++ next.fields isSpace :=
        List.fields_append_sep _ (by decide) next
      have hwords := line.fields_tail
      rw [htail, List.fields_cons_sep (by decide)] at hwords
      rw [htail, ← hwords, ← hcut, List.append_assoc, List.singleton_append]

/-- A line has no line break in it. -/
theorem newline_not_mem_text (line : StatLine) : '\n' ∉ line.text := by
  have hdigits : '\n' ∉ line.tid.digits := fun h =>
    absurd (line.tid.isDigit '\n' h) (by decide)
  have htail : '\n' ∉ line.tail := by
    intro h
    obtain ⟨word, hword, hmem⟩ := List.mem_flatMap.mp h
    rcases List.mem_cons.mp hmem with heq | hmem
    · exact absurd heq (by decide)
    · exact absurd ((of_mem_words hword).2 '\n' hmem) (by decide)
  simp [text, hdigits, htail, line.comm_newline]

/-- The file is one line. -/
private theorem head?_getlines (line : StatLine) :
    (FdThreadDumper.getlines line.content).head? = some (String.ofList line.text) := by
  have htext : ∀ l ∈ [line.text], '\n' ∉ l := by
    intro l hl
    rw [List.mem_singleton.mp hl]
    exact line.newline_not_mem_text
  have hlines := getlines_flatMap htext
  rw [List.flatMap_singleton] at hlines
  rw [content, hlines]
  rfl

/-! ## The start time -/

/-- The result of `GetThreadStartTime` for one field. -/
def shown (field : List Char) : String :=
  if field.all Char.isDigit then toString (FdThreadDumper.strtoull field) else ""

/-- What `GetThreadStartTime` returns is made of the 20th of the words that it counts. -/
private theorem getThreadStartTime_content {line : StatLine} {field : List Char}
    (h : (line.displaced ++ line.words)[19]? = some field) :
    FdThreadDumper.getThreadStartTime (some line.content) = shown field := by
  obtain ⟨rest, hafter, hfields⟩ := line.fields_afterParen
  have hne : field.isEmpty = false := by
    rw [← hfields] at h
    simpa using (List.of_mem_fields (List.mem_of_getElem? h)).1
  have hindex : (rest.fields isSpace)[FdThreadDumper.startTimeFieldIndex]? = some field := by
    rw [hfields]
    exact h
  unfold FdThreadDumper.getThreadStartTime shown
  simp only [Option.bind_some, head?_getlines, String.toList_ofList, hafter, hindex, hne]
  cases field.all Char.isDigit <;> simp

/-- A field is shown as the number exactly if it is a decimal numeral with this value. -/
theorem shown_eq_iff {field : List Char} {n : Nat} :
    shown field = toString n ↔
      field.all Char.isDigit = true ∧ FdThreadDumper.strtoull field = n := by
  unfold shown
  split
  · rename_i hdigits
    rw [and_iff_right hdigits]
    constructor
    · intro h
      have hdigits := congrArg (fun text => decimal text.toList) h
      simpa [Nat.toString_eq_repr, decimal_toDigits] using hdigits
    · intro h
      rw [h]
  · rename_i hdigits
    constructor
    · intro h
      exact absurd h.symm (by simp)
    · intro h
      exact absurd h.1 hdigits

/-- The start time is shown as it is. -/
private theorem shown_starttime (line : StatLine) :
    shown (Numeral.ofUInt64 line.starttime).digits = toString line.starttime.toNat := by
  have numeral := Numeral.ofUInt64 line.starttime
  rw [shown_eq_iff]
  refine ⟨List.all_eq_true.mpr (Numeral.isDigit _), ?_⟩
  have hlt := line.starttime.toNat_lt_size
  show min (decimal (Nat.toDigits 10 line.starttime.toNat)) (UInt64.size - 1) = _
  rw [decimal_toDigits]
  omega

/-- The word that is counted as the start time, and when it is shown as the start time. -/
private theorem exists_counted (line : StatLine) :
    ∃ field, (line.displaced ++ line.words)[19]? = some field ∧
      (shown field = toString line.starttime.toNat ↔ line.CountsRight) := by
  by_cases hparen : ')' ∈ line.comm
  · -- At least one word is moved in front of the 19 fields, so the 20th is not behind them.
    have hpos := List.length_pos_iff.mpr (displaced_ne_nil hparen)
    have hlt : 19 < (line.displaced ++ line.before.map (·.text)).length := by
      simp only [List.length_append, List.length_map, line.length_before]
      omega
    obtain ⟨field, hfield⟩ : ∃ field, (line.displaced ++ line.before.map (·.text))[19]? =
        some field := ⟨_, List.getElem?_eq_getElem hlt⟩
    refine ⟨field, ?_, ?_⟩
    · rw [words, ← List.append_assoc, List.getElem?_append_left hlt, hfield]
    · rw [shown_eq_iff, CountsRight]
      simp [hparen, hfield]
  · refine ⟨(Numeral.ofUInt64 line.starttime).digits, ?_, ?_⟩
    · rw [displaced_of_not_mem hparen, List.nil_append, words,
        List.getElem?_append_right (by simp [line.length_before])]
      simp [line.length_before]
    · exact iff_of_true line.shown_starttime (.inl hparen)

end StatLine

/-- `GetThreadStartTime` returns the start time of the line exactly where the name does not
    move the fields back, or where the word it takes instead has the same number. -/
theorem getThreadStartTime_eq_iff (line : StatLine) :
    FdThreadDumper.getThreadStartTime (some line.content) = toString line.starttime.toNat ↔
      line.CountsRight := by
  obtain ⟨field, hfield, hiff⟩ := line.exists_counted
  rw [StatLine.getThreadStartTime_content hfield, hiff]

/-- A thread named `a)`. The word that is counted as the start time is the 0 in front of it. -/
def parenthesisLine : StatLine where
  tid := .ofUInt64 7
  comm := ['a', ')']
  comm_newline := by decide
  before := Word.of ['S'] (by decide) :: List.replicate 18 (Word.of ['0'] (by decide))
  length_before := by decide
  starttime := 500
  after := []

/-- A thread named `a)` is shown with another field as its start time. -/
theorem getThreadStartTime_parenthesisLine :
    FdThreadDumper.getThreadStartTime (some parenthesisLine.content) = "0" ∧
      ¬FdThreadDumper.getThreadStartTime (some parenthesisLine.content) =
        toString parenthesisLine.starttime.toNat := by
  have hcounted : (parenthesisLine.displaced ++ parenthesisLine.words)[19]? = some ['0'] := by
    decide
  rw [StatLine.getThreadStartTime_content hcounted]
  decide

/-- The list of all threads has the right times where no name moves the fields. -/
theorem dumpThreadInfo_startTimes (order : CountSort) {threads : List (ThreadFiles × StatLine)}
    (hstat : ∀ thread ∈ threads, thread.1.stat = some thread.2.content)
    (hcounts : ∀ thread ∈ threads, thread.2.CountsRight) :
    ∃ summary, FdThreadDumper.dumpThreadInfo order true (threads.map (·.1)) =
      summary ++ threads.map fun thread =>
        [thread.1.tid ++ "\t" ++ FdThreadDumper.getThreadName thread.1.comm ++ "\t" ++
          toString thread.2.starttime.toNat] := by
  have hrows : (threads.map (·.1)).map FdThreadDumper.threadRow = threads.map fun thread =>
      [thread.1.tid ++ "\t" ++ FdThreadDumper.getThreadName thread.1.comm ++ "\t" ++
        toString thread.2.starttime.toNat] := by
    rw [List.map_map]
    apply List.map_congr_left
    intro thread hthread
    obtain ⟨field, hfield, hiff⟩ := thread.2.exists_counted
    have htime := StatLine.getThreadStartTime_content hfield
    rw [hiff.mpr (hcounts thread hthread), ← hstat thread hthread] at htime
    simp only [Function.comp_apply, FdThreadDumper.threadRow, htime]
  unfold FdThreadDumper.dumpThreadInfo
  rw [if_pos rfl, hrows]
  exact ⟨_, List.append_cons _ _ _⟩

end HiDumper.Spec
