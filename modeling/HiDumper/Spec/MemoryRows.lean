import HiDumper.ForStd.Padding
import HiDumper.Spec.MemorySessions

/-!
# The rows of a process in the memory table

`UpdateResult` takes the name of each detail from one table, keeps its totals in a map
under that name, and prints the map in the order of another table. The details of class
`other` are split by the inode of their items: one part goes through the map, the other one
is printed behind it.

## Key results

- `loopInvariant_foldlM`: what the loop has kept when all details are read
- `rowsOf_classRows`: the rows of a title
- `showsEachOnce_updateResult`: every detail is shown once
-/

namespace HiDumper.Spec

open HiDumper.Native HiDumper.Native.MemoryInfo

/-! ## Amounts add up -/

instance : Zero Amounts := ⟨{}⟩

instance : Add Amounts := ⟨Amounts.add⟩

private theorem add_eq (a b : Amounts) : a + b = a.add b := rfl

private theorem zero_eq : (0 : Amounts) = {} := rfl

instance : AddCommMonoid Amounts where
  add_assoc a b c := by simp [add_eq, Amounts.add, add_assoc]
  zero_add a := by simp [add_eq, zero_eq, Amounts.add]
  add_zero a := by simp [add_eq, zero_eq, Amounts.add]
  add_comm a b := by simp [add_eq, Amounts.add, add_comm]
  nsmul := nsmulRec

/-- The sum over items. -/
def sumAmounts (items : List MemoryItem) : Amounts := (items.map (·.amounts)).sum

/-- The anonymous regions and the others together are all regions. -/
private theorem sumAmounts_partition (items : List MemoryItem) :
    sumAmounts (items.filter isAnonymous) +
      sumAmounts (items.filter fun item => !isAnonymous item) = sumAmounts items := by
  have hsplit := List.sum_map_filter_add_sum_map_filter_not (fun item => isAnonymous item = true)
    (·.amounts) items
  simpa [sumAmounts] using hsplit

/-- `UpdatePageDetail` on a detail that has not been moved. -/
private theorem foldlM_updatePageDetail (items : List MemoryItem) (anonPage filePage : Amounts) :
    items.foldlM updatePageDetail (some anonPage, filePage) =
      some (some (anonPage + sumAmounts (items.filter isAnonymous)),
        filePage + sumAmounts (items.filter fun item => !isAnonymous item)) := by
  induction items generalizing anonPage filePage with
  | nil => simp [sumAmounts]
  | cons item items ih =>
    rw [List.foldlM_cons]
    -- An item goes to the anonymous page if its truncated inode is 0.
    by_cases hanon : isAnonymous item = true
    · have hnode : item.iNode % 2 ^ 32 = 0 := by simpa [isAnonymous] using hanon
      have hstep : updatePageDetail (some anonPage, filePage) item =
          some (some (anonPage + item.amounts), filePage) := by
        rw [updatePageDetail, if_pos hnode]
        rfl
      rw [hstep, Option.bind_eq_bind, Option.bind_some, ih]
      simp [sumAmounts, hanon, add_assoc]
    · have hnode : ¬item.iNode % 2 ^ 32 = 0 := by simpa [isAnonymous] using hanon
      have hstep : updatePageDetail (some anonPage, filePage) item =
          some (some anonPage, filePage + item.amounts) := by
        rw [updatePageDetail, if_neg hnode]
        rfl
      rw [hstep, Option.bind_eq_bind, Option.bind_some, ih]
      simp [sumAmounts, hanon, add_assoc]

/-! ## Titles -/

/-- The rows of a title. -/
def rowsOf (info : MemoryInfo) (title : String) (rows : List MemoryInfo.Row) : List MemoryInfo.Row :=
  rows.filter fun row => row.head? = some (titleCell info title)

/-- A title that is told apart from others when blanks are put in front of it. -/
def IsTitle (title : String) : Prop := title.toList.head?.any (· ≠ ' ') = true

instance (title : String) : Decidable (IsTitle title) := inferInstanceAs (Decidable (_ = _))

/-- The cell of a title is the title with blanks in front and one behind. -/
private theorem titleCell_toList (info : MemoryInfo) (title : String) :
    ∃ n, (titleCell info title).toList = List.replicate n ' ' ++ (title.toList ++ [' ']) := by
  refine ⟨info.titleWidth - title.utf8ByteSize, ?_⟩
  simp [titleCell, setWidth]

/-- Different titles have different cells. -/
private theorem titleCell_inj {info : MemoryInfo} {a b : String} (ha : IsTitle a) (hb : IsTitle b)
    (heq : titleCell info a = titleCell info b) : a = b := by
  have hdrop : ∀ title, IsTitle title →
      (titleCell info title).toList.dropWhile (· = ' ') = title.toList ++ [' '] := by
    intro title htitle
    obtain ⟨n, hcell⟩ := titleCell_toList info title
    rw [hcell]
    apply List.dropWhile_replicate_append
    unfold IsTitle at htitle
    cases hchars : title.toList with
    | nil => simp [hchars] at htitle
    | cons c rest => simpa [hchars] using htitle
  have hlist := hdrop a ha
  rw [heq, hdrop b hb] at hlist
  exact (String.toList_inj.mp (List.append_cancel_right hlist)).symm

/-- Only the width of the titles matters. -/
private theorem titleCell_congr {info info' : MemoryInfo} (h : info.titleWidth = info'.titleWidth)
    (title : String) : titleCell info title = titleCell info' title := by
  rw [titleCell, titleCell, h]

/-- The rows with a title in one table behind another. -/
private theorem rowsOf_append (info : MemoryInfo) (title : String)
    (rows rows' : List MemoryInfo.Row) :
    rowsOf info title (rows ++ rows') = rowsOf info title rows ++ rowsOf info title rows' :=
  List.filter_append ..

/-- Rows with other titles. -/
private theorem rowsOf_eq_nil {info : MemoryInfo} {title : String} (htitle : IsTitle title)
    {rows : List MemoryInfo.Row} (h : ∀ row ∈ rows, ∃ other, IsTitle other ∧ other ≠ title ∧
      row.head? = some (titleCell info other)) : rowsOf info title rows = [] := by
  rw [rowsOf, List.filter_eq_nil_iff]
  intro row hrow hhead
  obtain ⟨other, hother, hne, hcell⟩ := h row hrow
  rw [hcell, decide_eq_true_iff, Option.some.injEq] at hhead
  exact hne (titleCell_inj hother htitle hhead)

/-! ## Classes -/

/-- A class of `MEMORY_CLASS_VEC`. -/
def ValidClass (c : Int) : Prop := 0 ≤ c ∧ c < memoryClassVec.length

instance (c : Int) : Decidable (ValidClass c) := inferInstanceAs (Decidable (_ ∧ _))

/-- The name of a class. -/
def className (c : Int) : String := memoryClassVec.getD c.toNat ""

/-- A class that has a row of its own. -/
structure HasRow (c : Int) : Prop where
  valid : ValidClass c
  notGraph : c ≠ graphClass
  notOther : c ≠ otherClass

/-- A valid class has a name. -/
private theorem memoryClassStr_of_valid {c : Int} (h : ValidClass c) :
    memoryClassStr c = some (some (className c)) := by
  obtain ⟨hlow, hhigh⟩ := h
  have hlt : c.toNat < memoryClassVec.length := by omega
  have htest : ¬(c < 0 ∨ c > memoryClassVec.length) := by omega
  rw [memoryClassStr, if_neg htest, List.getElem?_eq_getElem hlt, className,
    List.getD_eq_getElem _ _ hlt, Option.map_some]

/-- The name is one of the table. -/
private theorem className_mem {c : Int} (h : ValidClass c) : className c ∈ memoryClassVec := by
  have hlt : c.toNat < memoryClassVec.length := by
    have := h.1
    have := h.2
    omega
  rw [className, List.getD_eq_getElem _ _ hlt]
  exact List.getElem_mem hlt

/-- `MEMORY_CLASS_VEC` has each name once. -/
private theorem className_inj {a b : Int} (ha : ValidClass a) (hb : ValidClass b)
    (h : className a = className b) : a = b := by
  have hnodup : memoryClassVec.Nodup := by decide
  obtain ⟨ha0, ha⟩ := ha
  obtain ⟨hb0, hb⟩ := hb
  have halt : a.toNat < memoryClassVec.length := by omega
  have hblt : b.toNat < memoryClassVec.length := by omega
  rw [className, className, List.getD_eq_getElem _ _ halt, List.getD_eq_getElem _ _ hblt,
    hnodup.getElem_inj_iff] at h
  omega

/-- No class has the name under which the anonymous pages are printed. -/
private theorem className_ne_anonPage {c : Int} (h : ValidClass c) :
    className c ≠ "AnonPage other" := by
  intro heq
  have hmem := className_mem h
  rw [heq] at hmem
  exact absurd hmem (by decide)

/-- Each class with a row of its own is in `MEMORY_PRINT_ORDER_VEC` too. -/
private theorem className_mem_printOrder {c : Int} (h : HasRow c) :
    className c ∈ memoryPrintOrderVec := by
  have hnames : ∀ name ∈ memoryClassVec,
      name ≠ className graphClass → name ≠ className otherClass →
        name ∈ memoryPrintOrderVec := by
    decide
  apply hnames _ (className_mem h.valid)
  · exact fun heq => h.notGraph (className_inj h.valid (by decide) heq)
  · exact fun heq => h.notOther (className_inj h.valid (by decide) heq)

/-! ## The loop over the details -/

/-- What the loop of `UpdateResult` has kept of the details before. -/
structure LoopInvariant (info : MemoryInfo) (details : List MemoryDetail) (loop : ResultLoop) :
    Prop where
  width : loop.info.titleWidth = info.titleWidth
  rows : ∀ row ∈ loop.rows, ∃ title ∈ ["GL", "Graph"], row.head? = some (titleCell info title)
  present : ∀ d ∈ details, HasRow d.memoryClass →
    loop.allDetailMap.lookup (className d.memoryClass) = some (some d.totals)
  absent : ∀ c, HasRow c → c ∉ details.map (·.memoryClass) →
    loop.allDetailMap.lookup (className c) = none
  other : ∀ d ∈ details, d.memoryClass = otherClass →
    loop.allDetailMap.lookup "AnonPage other" =
        some (some (sumAmounts (d.items.filter isAnonymous))) ∧
      loop.filePageDetail = sumAmounts (d.items.filter fun item => !isAnonymous item)
  noOther : otherClass ∉ details.map (·.memoryClass) →
    loop.allDetailMap.lookup "AnonPage other" = none ∧ loop.anonPageDetail = some 0 ∧
      loop.filePageDetail = 0

/-- Before the loop nothing is printed. -/
private theorem loopInvariant_nil (info : MemoryInfo) : LoopInvariant info [] { info := info } where
  width := rfl
  rows _ h := nomatch h
  present _ h := nomatch h
  absent _ _ _ := rfl
  other _ h := nomatch h
  noOther _ := ⟨rfl, rfl, rfl⟩

/-- A detail with a row of its own is put into the map, and nothing else changes. -/
private theorem step_printed (loop : ResultLoop) {detail : MemoryDetail}
    (h : HasRow detail.memoryClass) :
    ∃ done, loop.step detail = some done ∧ done.info = loop.info ∧ done.rows = loop.rows ∧
      done.anonPageDetail = loop.anonPageDetail ∧ done.filePageDetail = loop.filePageDetail ∧
      done.allDetailMap =
        loop.allDetailMap.insert (className detail.memoryClass) (some detail.totals) := by
  have hprinted := className_mem_printOrder h
  have hstr := memoryClassStr_of_valid h.valid
  have hput : ∀ loop' : ResultLoop, loop'.putDetail (className detail.memoryClass) detail.totals =
      { loop' with
        allDetailMap :=
          loop'.allDetailMap.insert (className detail.memoryClass) (some detail.totals) } := by
    intro loop'
    rw [ResultLoop.putDetail, if_pos hprinted]
  cases classCases detail.memoryClass with
  | skipped hc => exact nomatch hstr.symm.trans hc
  | outside hc => exact nomatch hstr.symm.trans hc
  | graph hc hgraph => exact absurd hgraph h.notGraph
  -- The native heap is kept a second time, outside of the map.
  | nativeHeap hc =>
    have hname : className detail.memoryClass = "native heap" := by
      rwa [hstr, Option.some.injEq, Option.some.injEq] at hc
    refine ⟨_, step_nativeHeap hc, ?_⟩
    rw [← hname, hput]
    exact ⟨rfl, rfl, rfl, rfl, rfl⟩
  | other hc hother => exact absurd hother h.notOther
  | plain name hc hname =>
    obtain rfl : className detail.memoryClass = name := by
      rwa [hstr, Option.some.injEq, Option.some.injEq] at hc
    refine ⟨_, step_plain hc hname, ?_⟩
    rw [hput]
    exact ⟨rfl, rfl, rfl, rfl, rfl⟩

/-- A class with a row of its own. -/
private theorem loopInvariant_printed {info : MemoryInfo} {details : List MemoryDetail}
    {loop : ResultLoop} (hloop : LoopInvariant info details loop) {detail : MemoryDetail}
    (h : HasRow detail.memoryClass) (hnew : detail.memoryClass ∉ details.map (·.memoryClass)) :
    ∃ done, loop.step detail = some done ∧ LoopInvariant info (details ++ [detail]) done := by
  obtain ⟨done, hstep, hinfo, hrows, hanon, hfile, hmap⟩ := step_printed loop h
  have hanonName := (className_ne_anonPage h.valid).symm
  refine ⟨done, hstep, ?_, ?_, ?_, ?_, ?_, ?_⟩
  · rw [hinfo]
    exact hloop.width
  · rw [hrows]
    exact hloop.rows
  · -- A detail before keeps its entry, since its class is another one.
    intro d hd hprinted
    rw [hmap]
    cases List.mem_append.mp hd with
    | inl hd =>
      have hne : d.memoryClass ≠ detail.memoryClass :=
        fun heq => hnew (heq ▸ List.mem_map_of_mem hd)
      have hname : className d.memoryClass ≠ className detail.memoryClass :=
        fun heq => hne (className_inj hprinted.valid h.valid heq)
      rw [AList.lookup_insert_ne hname]
      exact hloop.present d hd hprinted
    | inr hd =>
      rw [List.mem_singleton.mp hd, AList.lookup_insert]
  -- A class that is not there is not this one.
  · intro c hprinted hc
    rw [List.map_append, List.mem_append, not_or] at hc
    have hne : c ≠ detail.memoryClass := by simpa using hc.2
    have hname : className c ≠ className detail.memoryClass :=
      fun heq => hne (className_inj hprinted.valid h.valid heq)
    rw [hmap, AList.lookup_insert_ne hname]
    exact hloop.absent c hprinted hc.1
  -- The entry of the other pages is not touched.
  · intro d hd hother
    rw [hmap, AList.lookup_insert_ne hanonName, hfile]
    cases List.mem_append.mp hd with
    | inl hd => exact hloop.other d hd hother
    | inr hd =>
      rw [List.mem_singleton.mp hd] at hother
      exact absurd hother h.notOther
  · intro hnone
    rw [hmap, AList.lookup_insert_ne hanonName, hfile, hanon]
    apply hloop.noOther
    intro hmem
    exact hnone (by simp [List.map_append, hmem])

/-- Graphics memory. -/
private theorem loopInvariant_graph {info : MemoryInfo} {details : List MemoryDetail}
    {loop : ResultLoop}
    (hloop : LoopInvariant info details loop) {detail : MemoryDetail}
    (h : detail.memoryClass = graphClass) :
    ∃ done, loop.step detail = some done ∧ LoopInvariant info (details ++ [detail]) done := by
  have hstr : memoryClassStr detail.memoryClass = some (some "graph") := by
    rw [h]
    rfl
  refine ⟨_, step_graph hstr, hloop.width, ?_, ?_, ?_, ?_, ?_⟩
  · -- The two rows of the graphics memory are printed at once.
    intro row hrow
    cases List.mem_append.mp hrow with
    | inl hrow => exact hloop.rows row hrow
    | inr hrow =>
      have hcell := titleCell_congr hloop.width
      cases List.mem_pair.mp hrow with
      | inl hrow => exact ⟨"GL", by decide, by rw [hrow, ← hcell]; rfl⟩
      | inr hrow => exact ⟨"Graph", by decide, by rw [hrow, ← hcell]; rfl⟩
  -- Nothing is put into the map.
  · intro d hd hprinted
    cases List.mem_append.mp hd with
    | inl hd => exact hloop.present d hd hprinted
    | inr hd => exact absurd (List.mem_singleton.mp hd ▸ h) hprinted.notGraph
  · intro c hprinted hc
    exact hloop.absent c hprinted fun hmem => hc (by simp [hmem])
  · intro d hd hother
    cases List.mem_append.mp hd with
    | inl hd => exact hloop.other d hd hother
    | inr hd =>
      rw [List.mem_singleton.mp hd, h] at hother
      exact absurd hother (by decide)
  · intro hnone
    exact hloop.noOther fun hmem => hnone (by simp [hmem])

/-- The class that is split by kind of page. -/
private theorem loopInvariant_other {info : MemoryInfo} {details : List MemoryDetail}
    {loop : ResultLoop}
    (hloop : LoopInvariant info details loop) {detail : MemoryDetail}
    (h : detail.memoryClass = otherClass)
    (hnew : detail.memoryClass ∉ details.map (·.memoryClass)) :
    ∃ done, loop.step detail = some done ∧ LoopInvariant info (details ++ [detail]) done := by
  have hstr : memoryClassStr detail.memoryClass = some (some "other") := by
    rw [h]
    rfl
  rw [h] at hnew
  -- No detail before has moved `anonPageDetail` away.
  obtain ⟨-, hanon, hfile⟩ := hloop.noOther hnew
  have hput : ∀ (loop' : ResultLoop) amounts, loop'.putDetail "AnonPage other" amounts =
      { loop' with allDetailMap := loop'.allDetailMap.insert "AnonPage other" amounts } := by
    intro loop' amounts
    rw [ResultLoop.putDetail, if_pos (by decide)]
  rw [step_other hstr, hanon, hfile, foldlM_updatePageDetail, Option.map_some, hput]
  refine ⟨_, rfl, hloop.width, hloop.rows, ?_, ?_, ?_, ?_⟩
  · intro d hd hprinted
    rw [AList.lookup_insert_ne (className_ne_anonPage hprinted.valid)]
    cases List.mem_append.mp hd with
    | inl hd => exact hloop.present d hd hprinted
    | inr hd => exact absurd (List.mem_singleton.mp hd ▸ h) hprinted.notOther
  · intro c hprinted hc
    rw [AList.lookup_insert_ne (className_ne_anonPage hprinted.valid)]
    exact hloop.absent c hprinted fun hmem => hc (by simp [hmem])
  · intro d hd hother
    cases List.mem_append.mp hd with
    | inl hd => exact absurd (hother ▸ List.mem_map_of_mem hd) hnew
    | inr hd =>
      rw [List.mem_singleton.mp hd, AList.lookup_insert, zero_add, zero_add]
      exact ⟨rfl, rfl⟩
  · intro hnone
    exact absurd (by simp [h]) hnone

/-- The loop is defined on distinct classes, and has kept every detail. -/
theorem loopInvariant_foldlM (info : MemoryInfo) (details : List MemoryDetail)
    (hvalid : ∀ d ∈ details, ValidClass d.memoryClass)
    (hnodup : (details.map (·.memoryClass)).Nodup) :
    ∃ loop, details.foldlM ResultLoop.step { info := info } = some loop ∧
      LoopInvariant info details loop := by
  induction details using List.reverseRecOn with
  | nil => exact ⟨_, rfl, loopInvariant_nil info⟩
  -- Details are added behind the list, as the loop reads them.
  | append_singleton details detail ih =>
    rw [List.map_append, List.nodup_append] at hnodup
    obtain ⟨hnodup, -, hdisjoint⟩ := hnodup
    have hnew : detail.memoryClass ∉ details.map (·.memoryClass) :=
      fun hmem => hdisjoint _ hmem _ (by simp) rfl
    obtain ⟨loop, hfold, hloop⟩ :=
      ih (fun d hd => hvalid d (List.mem_append_left _ hd)) hnodup
    have hclass := hvalid detail (List.mem_append_right _ List.mem_cons_self)
    have hstep : ∃ done, loop.step detail = some done ∧
        LoopInvariant info (details ++ [detail]) done := by
      by_cases hgraph : detail.memoryClass = graphClass
      · exact loopInvariant_graph hloop hgraph
      by_cases hother : detail.memoryClass = otherClass
      · exact loopInvariant_other hloop hother hnew
      exact loopInvariant_printed hloop ⟨hclass, hgraph, hother⟩ hnew
    obtain ⟨done, hdone, hinvariant⟩ := hstep
    refine ⟨done, ?_, hinvariant⟩
    rw [List.foldlM_append, hfold, Option.bind_eq_bind, Option.bind_some, List.foldlM_cons, hdone]
    rfl

/-! ## The table -/

/-- The row of a class. -/
def classRow (info : MemoryInfo) (heapInfo : MallHeapInfo) (name : String) (amounts : Amounts) :
    MemoryInfo.Row :=
  titleCell info name :: (amountCells amounts ++
    if name = "native heap" then heapCells heapInfo else zeroCells)

/-- The rows `UpdateResult` prints from its map. -/
def classRows (loop : ResultLoop) (heapInfo : MallHeapInfo) : List MemoryInfo.Row :=
  memoryPrintOrderVec.flatMap fun classStr =>
    match loop.allDetailMap.lookup classStr with
    | some detail => setDetailRet loop.info classStr detail heapInfo
    | none => []

/-- The titles of the rows that are not printed from the map. -/
def otherTitles : List String := ["GL", "Graph", "FilePage other", "Total"]

/-- The separator in front of the totals. -/
def dashCell (info : MemoryInfo) : String := setWidth info.titleWidth '-' false "-" ++ "-"

/-- Amounts that are there make one row. -/
private theorem setDetailRet_some {info info' : MemoryInfo}
    (hwidth : info'.titleWidth = info.titleWidth)
    (heapInfo : MallHeapInfo) (name : String) (amounts : Amounts) :
    setDetailRet info' name (some amounts) heapInfo = [classRow info heapInfo name amounts] := by
  rw [setDetailRet, classRow, titleCell_congr hwidth]

/-- A list that has one part of each of its distinct keys, all but one of them empty. -/
private theorem flatMap_eq_of_nodup {α β : Type*} {l : List α} (hnodup : l.Nodup) {a : α}
    (ha : a ∈ l)
    {f : α → List β} (h : ∀ b ∈ l, b ≠ a → f b = []) : l.flatMap f = f a := by
  obtain ⟨before, after, rfl⟩ := List.append_of_mem ha
  rw [List.nodup_append, List.nodup_cons] at hnodup
  obtain ⟨-, ⟨hafter, -⟩, hbefore⟩ := hnodup
  have hnilBefore : before.flatMap f = [] := by
    rw [List.flatMap_eq_nil_iff]
    intro b hb
    exact h b (by simp [hb]) (hbefore b hb a List.mem_cons_self)
  have hnilAfter : after.flatMap f = [] := by
    rw [List.flatMap_eq_nil_iff]
    intro b hb
    exact h b (by simp [hb]) fun heq => hafter (heq ▸ hb)
  rw [List.flatMap_append, List.flatMap_cons, hnilBefore, hnilAfter, List.nil_append,
    List.append_nil]

/-- The names in the printing order are titles. -/
private theorem isTitle_printOrder : ∀ name ∈ memoryPrintOrderVec, IsTitle name := by decide

/-- The rows of one name of the table. -/
theorem rowsOf_classRows {info : MemoryInfo} {loop : ResultLoop}
    (hwidth : loop.info.titleWidth = info.titleWidth) (heapInfo : MallHeapInfo) {name : String}
    (hname : name ∈ memoryPrintOrderVec) :
    rowsOf info name (classRows loop heapInfo) =
      ((loop.allDetailMap.lookup name).join.map (classRow info heapInfo name)).toList := by
  have hpart : ∀ classStr, (match loop.allDetailMap.lookup classStr with
      | some detail => setDetailRet loop.info classStr detail heapInfo
      | none => []) =
        ((loop.allDetailMap.lookup classStr).join.map
          (classRow info heapInfo classStr)).toList := by
    intro classStr
    cases loop.allDetailMap.lookup classStr with
    | none => rfl
    | some detail =>
      cases detail with
      | none => rfl
      | some amounts => exact setDetailRet_some hwidth heapInfo classStr amounts
  simp only [rowsOf, classRows, List.filter_flatMap, hpart]
  rw [flatMap_eq_of_nodup (by decide) hname]
  · cases (loop.allDetailMap.lookup name).join <;> simp [classRow]
  · intro other hother hne
    apply rowsOf_eq_nil (isTitle_printOrder name hname)
    intro row hrow
    rw [Option.mem_toList, Option.map_eq_some_iff] at hrow
    obtain ⟨amounts, -, rfl⟩ := hrow
    exact ⟨other, isTitle_printOrder other hother, hne, rfl⟩

/-- Every detail is shown once: a class other than `graph` and `other` in its own row, and the
    items of `other` in two rows that are told apart by the inode. -/
structure ShowsEachOnce (info : MemoryInfo) (heapInfo : MallHeapInfo)
    (details : List MemoryDetail) (rows : List MemoryInfo.Row) : Prop where
  present : ∀ d ∈ details, HasRow d.memoryClass →
    rowsOf info (className d.memoryClass) rows =
      [classRow info heapInfo (className d.memoryClass) d.totals]
  absent : ∀ c, HasRow c → c ∉ details.map (·.memoryClass) → rowsOf info (className c) rows = []
  other : ∀ d ∈ details, d.memoryClass = otherClass → ∃ anonPage filePage,
    rowsOf info "AnonPage other" rows = [classRow info heapInfo "AnonPage other" anonPage] ∧
      rowsOf info "FilePage other" rows = [classRow info heapInfo "FilePage other" filePage] ∧
      anonPage = sumAmounts (d.items.filter isAnonymous) ∧
      filePage = sumAmounts (d.items.filter fun item => !isAnonymous item) ∧
      anonPage.add filePage = sumAmounts d.items
  noOther : otherClass ∉ details.map (·.memoryClass) →
    rowsOf info "AnonPage other" rows = [] ∧
      rowsOf info "FilePage other" rows = [classRow info heapInfo "FilePage other" {}]
  titles : ∀ row ∈ rows, (∃ title ∈ otherTitles ++ memoryPrintOrderVec,
      row.head? = some (titleCell info title)) ∨ row.head? = some (dashCell info)

/-- A row of dashes is no row of a class. -/
private theorem dashCell_ne_titleCell (info : MemoryInfo) (title : String) :
    dashCell info ≠ titleCell info title := by
  intro heq
  have hlast := congrArg (·.toList.getLast?) heq
  simp [dashCell, titleCell] at hlast

/-- The rows `UpdateResult` leaves. -/
def table (loop : ResultLoop) (detail : ProcessMemoryDetail) (heapInfo : MallHeapInfo) : List MemoryInfo.Row :=
  loop.rows ++ classRows loop heapInfo ++
    setDetailRet loop.info "FilePage other" (some loop.filePageDetail) heapInfo ++
      (updateTotalDetail loop.info detail heapInfo).2

section Table

variable {info : MemoryInfo} {details : List MemoryDetail} {loop : ResultLoop}

/-- The rows of a title that only the map and the last detail print. -/
private theorem rowsOf_table (hloop : LoopInvariant info details loop)
    (detail : ProcessMemoryDetail)
    (heapInfo : MallHeapInfo) {title : String} (htitle : IsTitle title)
    (hne : title ∉ ["GL", "Graph", "Total"]) :
    rowsOf info title (table loop detail heapInfo) =
      rowsOf info title (classRows loop heapInfo) ++
        rowsOf info title [classRow info heapInfo "FilePage other" loop.filePageDetail] := by
  -- The rows that are printed in the loop have other titles.
  have hgraph : rowsOf info title loop.rows = [] := by
    apply rowsOf_eq_nil htitle
    intro row hrow
    obtain ⟨other, hother, hcell⟩ := hloop.rows row hrow
    refine ⟨other, ?_, ?_, hcell⟩
    · exact (by decide : ∀ name ∈ ["GL", "Graph"], IsTitle name) other hother
    · rintro rfl
      exact hne (List.mem_append_left ["Total"] hother)
  have hdash : dashCell loop.info ≠ titleCell info title := by
    rw [← titleCell_congr hloop.width]
    exact dashCell_ne_titleCell loop.info title
  have htotal : titleCell loop.info "Total" ≠ titleCell info title := by
    rw [titleCell_congr hloop.width]
    intro heq
    have hsame := titleCell_inj (by decide) htitle heq
    exact hne (hsame ▸ by decide)
  -- And so have the two rows of the sums.
  have hsum : rowsOf info title (updateTotalDetail loop.info detail heapInfo).2 = [] := by
    rw [rowsOf, List.filter_eq_nil_iff]
    intro row hrow
    cases List.mem_pair.mp hrow with
    | inl hrow =>
      rw [hrow, List.head?_cons, decide_eq_true_iff, Option.some.injEq]
      exact hdash
    | inr hrow =>
      rw [hrow, List.head?_cons, decide_eq_true_iff, Option.some.injEq]
      exact htotal
  rw [table, setDetailRet_some hloop.width, rowsOf_append, rowsOf_append, rowsOf_append, hgraph,
    hsum, List.nil_append, List.append_nil]

/-- A class has the row with its amounts, or none. -/
private theorem rowsOf_table_name (hloop : LoopInvariant info details loop)
    (detail : ProcessMemoryDetail)
    (heapInfo : MallHeapInfo) {name : String} (hname : name ∈ memoryPrintOrderVec) :
    rowsOf info name (table loop detail heapInfo) =
      ((loop.allDetailMap.lookup name).join.map (classRow info heapInfo name)).toList := by
  have hnames : ∀ name ∈ memoryPrintOrderVec,
      name ∉ ["GL", "Graph", "Total"] ∧ "FilePage other" ≠ name := by
    decide
  obtain ⟨hothers, hfile⟩ := hnames name hname
  have htitle := isTitle_printOrder name hname
  have hnil : rowsOf info name [classRow info heapInfo "FilePage other" loop.filePageDetail] =
      [] := by
    apply rowsOf_eq_nil htitle
    intro row hrow
    rw [List.mem_singleton.mp hrow]
    exact ⟨"FilePage other", by decide, hfile, rfl⟩
  rw [rowsOf_table hloop detail heapInfo htitle hothers,
    rowsOf_classRows hloop.width heapInfo hname, hnil, List.append_nil]

/-- The rows that are printed from the map. -/
private theorem mem_classRows {heapInfo : MallHeapInfo} {row : MemoryInfo.Row}
    (h : row ∈ classRows loop heapInfo) :
    ∃ name ∈ memoryPrintOrderVec, row.head? = some (titleCell loop.info name) := by
  rw [classRows, List.mem_flatMap] at h
  obtain ⟨name, hname, hrow⟩ := h
  refine ⟨name, hname, ?_⟩
  cases hlookup : loop.allDetailMap.lookup name with
  | none =>
    rw [hlookup] at hrow
    exact nomatch hrow
  | some detail =>
    rw [hlookup] at hrow
    cases detail with
    | none => exact nomatch hrow
    | some amounts =>
      rw [List.mem_singleton.mp hrow]
      rfl

/-- The other file pages have one row. -/
private theorem rowsOf_table_file (hloop : LoopInvariant info details loop)
    (detail : ProcessMemoryDetail)
    (heapInfo : MallHeapInfo) :
    rowsOf info "FilePage other" (table loop detail heapInfo) =
      [classRow info heapInfo "FilePage other" loop.filePageDetail] := by
  have hnil : rowsOf info "FilePage other" (classRows loop heapInfo) = [] := by
    apply rowsOf_eq_nil (by decide)
    intro row hrow
    obtain ⟨name, hname, hcell⟩ := mem_classRows hrow
    rw [titleCell_congr hloop.width] at hcell
    refine ⟨name, isTitle_printOrder name hname, ?_, hcell⟩
    exact (by decide : ∀ name ∈ memoryPrintOrderVec, name ≠ "FilePage other") name hname
  rw [rowsOf_table hloop detail heapInfo (by decide) (by decide), hnil, List.nil_append]
  simp [rowsOf, classRow]

/-- Every row begins with a title or with dashes. -/
private theorem head_of_mem_table (hloop : LoopInvariant info details loop)
    {detail : ProcessMemoryDetail}
    {heapInfo : MallHeapInfo} {row : MemoryInfo.Row} (hrow : row ∈ table loop detail heapInfo) :
    (∃ title ∈ otherTitles ++ memoryPrintOrderVec, row.head? = some (titleCell info title)) ∨
      row.head? = some (dashCell info) := by
  have hcell := titleCell_congr hloop.width
  simp only [table, List.mem_append] at hrow
  obtain ((hrow | hrow) | hrow) | hrow := hrow
  · obtain ⟨title, htitle, hhead⟩ := hloop.rows row hrow
    have hother : title ∈ otherTitles := List.mem_append_left ["FilePage other", "Total"] htitle
    exact .inl ⟨title, List.mem_append_left _ hother, hhead⟩
  · obtain ⟨name, hname, hhead⟩ := mem_classRows hrow
    exact .inl ⟨name, List.mem_append_right _ hname, hhead.trans (by rw [hcell])⟩
  · rw [List.mem_singleton.mp hrow]
    exact .inl ⟨"FilePage other", by decide, by rw [← hcell]; rfl⟩
  · cases List.mem_pair.mp hrow with
    | inl hrow =>
      right
      rw [hrow, dashCell, ← hloop.width]
      rfl
    | inr hrow => exact .inl ⟨"Total", by decide, by rw [hrow, ← hcell]; rfl⟩

end Table

/-- The table of a process whose details have distinct classes shows every detail once. -/
theorem showsEachOnce_updateResult (info : MemoryInfo) (detail : ProcessMemoryDetail)
    (heapInfo : MallHeapInfo) (hvalid : ∀ d ∈ detail.details, ValidClass d.memoryClass)
    (hnodup : (detail.details.map (·.memoryClass)).Nodup) :
    ∃ info' nativeHeapDetail rows,
      updateResult info detail heapInfo = some (info', nativeHeapDetail, rows) ∧
        ShowsEachOnce info heapInfo detail.details rows := by
  obtain ⟨loop, hfold, hloop⟩ := loopInvariant_foldlM info detail.details hvalid hnodup
  have hresult : updateResult info detail heapInfo =
      some ((updateTotalDetail loop.info detail heapInfo).1, loop.nativeHeapDetail,
        table loop detail heapInfo) := by
    simp only [updateResult, hfold, Option.bind_eq_bind, Option.bind_some]
    rfl
  refine ⟨_, _, _, hresult, ?_⟩
  -- Each part of the statement reads the rows of one title off the final table.
  have hfile := rowsOf_table_file hloop detail heapInfo
  have hanon := rowsOf_table_name hloop detail heapInfo
    (by decide : "AnonPage other" ∈ memoryPrintOrderVec)
  constructor
  · intro d hd hprinted
    rw [rowsOf_table_name hloop detail heapInfo (className_mem_printOrder hprinted),
      hloop.present d hd hprinted]
    rfl
  · intro c hprinted hc
    rw [rowsOf_table_name hloop detail heapInfo (className_mem_printOrder hprinted),
      hloop.absent c hprinted hc]
    rfl
  -- The other pages are split into two rows that add up to them.
  · intro d hd hother
    obtain ⟨hanonPage, hfilePage⟩ := hloop.other d hd hother
    refine ⟨_, _, ?_, hfile, rfl, hfilePage, ?_⟩
    · rw [hanon, hanonPage]
      rfl
    · rw [hfilePage]
      exact sumAmounts_partition d.items
  · intro hnone
    obtain ⟨hanonPage, -, hfilePage⟩ := hloop.noOther hnone
    rw [hanon, hanonPage, hfile, hfilePage]
    exact ⟨rfl, rfl⟩
  · exact fun row hrow => head_of_mem_table hloop hrow

/-- A process with a device, files and anonymous pages. -/
def devAndOther : ProcessMemoryDetail where
  details :=
    [{ memoryClass := otherClass,
       items := [{ type := .other 0, iNode := 7, amounts := { pss := 4 } },
         { type := .other 0, iNode := 0, amounts := { pss := 2, swap := 1 } }] },
      { memoryClass := 4, totals := { pss := 3 } }]

/-- Two classes, one of them `other`. -/
theorem showsEachOnce_devAndOther :
    (∀ d ∈ devAndOther.details, ValidClass d.memoryClass) ∧
      (devAndOther.details.map (·.memoryClass)).Nodup ∧
      ∃ info' nativeHeapDetail rows,
        updateResult {} devAndOther {} = some (info', nativeHeapDetail, rows) ∧
          ShowsEachOnce {} {} devAndOther.details rows :=
  ⟨by decide, by decide, showsEachOnce_updateResult {} devAndOther {} (by decide) (by decide)⟩

end HiDumper.Spec
