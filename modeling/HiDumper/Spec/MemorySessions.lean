import Mathlib
import HiDumper.Native.MemoryInfo

/-!
# Records of a memory session

One `MemoryInfo` serves all samples of a session. Its title width, its graphics
memory and its current PSS are written only by some samples, and its native heap
items are added up over all of them. This module shows which collections make the
record of a sample independent of the samples before it.

Key results:
* `intervalSample_congr`: a sample that refreshes all members it prints
* `exists_different_records`: any other sample after the first one prints old members
* `record_own_iff`: exactly when the record of a sample is its own
-/

namespace HiDumper.Spec

open HiDumper.Native HiDumper.Native.MemoryInfo

/-! ## Which samples are defined, and which refresh everything -/

/-- The class `graph`. -/
def graphClass : Int := 0

/-- The class `native heap`. -/
def nativeHeapClass : Int := 8

/-- The class `other`. -/
def otherClass : Int := 18

/-- Does an item belong to an anonymous page? -/
def isAnonymous (item : MemoryItem) : Bool := item.iNode % 2 ^ 32 = 0

/-- Is the loop of `UpdateResult` defined on these details? No class may be the size of
    `MEMORY_CLASS_VEC`, and once a detail of class `other` has moved `anonPageDetail`
    away (`moved`), no other one may have an anonymous item. -/
def definedFrom (moved : Bool) : List MemoryDetail → Bool
  | [] => true
  | detail :: rest =>
    if detail.memoryClass = memoryClassVec.length then false
    else if detail.memoryClass = otherClass then
      (!moved || !detail.items.any isAnonymous) && definedFrom true rest
    else definedFrom moved rest

/-- A collection without undefined behaviour. -/
def Defined (readings : SampleReadings) : Prop :=
  ∀ detail, readings.processMemoryDetail = some detail → definedFrom false detail.details = true

/-- The collection has succeeded, has no native heap, and its first graph detail has
    both a GL and a Graph item. -/
def Refreshes (readings : SampleReadings) : Prop :=
  ∃ detail, readings.processMemoryDetail = some detail ∧
    (∀ d ∈ detail.details, d.memoryClass ≠ nativeHeapClass) ∧
    ∃ graph, detail.details.find? (·.memoryClass = graphClass) = some graph ∧
      (∃ item ∈ graph.items, item.type = .graphGl) ∧
      ∃ item ∈ graph.items, item.type = .graphGraphics

/-! ## One detail -/

/-- What the class of a detail can be. -/
inductive ClassCases (c : Int) : Prop
  | skipped (h : memoryClassStr c = some none) (hgraph : c ≠ graphClass)
      (hnative : c ≠ nativeHeapClass) (hother : c ≠ otherClass) (hsize : c ≠ memoryClassVec.length)
  | outside (h : memoryClassStr c = none) (hc : c = memoryClassVec.length)
  | graph (h : memoryClassStr c = some (some "graph")) (hc : c = graphClass)
  | nativeHeap (h : memoryClassStr c = some (some "native heap")) (hc : c = nativeHeapClass)
  | other (h : memoryClassStr c = some (some "other")) (hc : c = otherClass)
  | plain (name : String) (h : memoryClassStr c = some (some name))
      (hname : name ≠ "graph" ∧ name ≠ "native heap" ∧ name ≠ "other") (hgraph : c ≠ graphClass)
      (hnative : c ≠ nativeHeapClass) (hother : c ≠ otherClass) (hsize : c ≠ memoryClassVec.length)

/-- A class is outside the table, is skipped, is treated apart, or has a name of its own. -/
theorem classCases (c : Int) : ClassCases c := by
  have hlength : (memoryClassVec.length : Int) = 19 := rfl
  by_cases hlow : c < 0
  · refine .skipped (by simp [memoryClassStr, hlow]) ?_ ?_ ?_ ?_ <;>
      simp only [graphClass, nativeHeapClass, otherClass, hlength] <;> omega
  by_cases hhigh : 19 < c
  · refine .skipped (by simp [memoryClassStr, hlength, hhigh]) ?_ ?_ ?_ ?_ <;>
      simp only [graphClass, nativeHeapClass, otherClass, hlength] <;> omega
  have hge : 0 ≤ c := by omega
  have hle : c ≤ 19 := by omega
  interval_cases c <;>
    first
    | exact .graph rfl rfl
    | exact .nativeHeap rfl rfl
    | exact .other rfl rfl
    | exact .outside rfl rfl
    | exact .plain _ rfl (by decide) (by decide) (by decide) (by decide) (by decide)

section Step

variable {loop done : ResultLoop} {detail : MemoryDetail} {info old : MemoryInfo}

/-- The loop with another object. -/
def withInfo (loop : ResultLoop) (info : MemoryInfo) : ResultLoop := { loop with info := info }

/-- The object with the members of an older one that the loop does not look at. -/
def carry (info old : MemoryInfo) : MemoryInfo :=
  { info with currentPss := old.currentPss, memoryItemMap := old.memoryItemMap }

@[simp] theorem withInfo_putDetail (loop : ResultLoop) (info : MemoryInfo) (name : String)
    (amounts : Option Amounts) :
    (withInfo loop info).putDetail name amounts = withInfo (loop.putDetail name amounts) info := by
  unfold ResultLoop.putDetail withInfo
  split <;> rfl

@[simp] theorem putDetail_info (loop : ResultLoop) (name : String) (amounts : Option Amounts) :
    (loop.putDetail name amounts).info = loop.info := by
  unfold ResultLoop.putDetail
  split <;> rfl

@[simp] theorem putDetail_rows (loop : ResultLoop) (name : String) (amounts : Option Amounts) :
    (loop.putDetail name amounts).rows = loop.rows := by
  unfold ResultLoop.putDetail
  split <;> rfl

@[simp] theorem putDetail_nativeHeapDetail (loop : ResultLoop) (name : String)
    (amounts : Option Amounts) :
    (loop.putDetail name amounts).nativeHeapDetail = loop.nativeHeapDetail := by
  unfold ResultLoop.putDetail
  split <;> rfl

@[simp] theorem putDetail_anonPageDetail (loop : ResultLoop) (name : String)
    (amounts : Option Amounts) :
    (loop.putDetail name amounts).anonPageDetail = loop.anonPageDetail := by
  unfold ResultLoop.putDetail
  split <;> rfl

/-- A class without a name is skipped. -/
private theorem step_skipped (h : memoryClassStr detail.memoryClass = some none) :
    loop.step detail = some loop := by
  simp [ResultLoop.step, h]

/-- A number outside the table is undefined behaviour. -/
private theorem step_outside (h : memoryClassStr detail.memoryClass = none) :
    loop.step detail = none := by
  simp [ResultLoop.step, h]

/-- The loop after a graph detail, with the graphics memory it leaves. -/
def afterGraph (loop : ResultLoop) (detail : MemoryDetail) : ResultLoop :=
  { loop with
    info := (getGraphicsMemoryByDetail loop.info detail).1
    rows := loop.rows ++ (getGraphicsMemoryByDetail loop.info detail).2 }

/-- The turn for graphics memory. -/
theorem step_graph (h : memoryClassStr detail.memoryClass = some (some "graph")) :
    loop.step detail = some (afterGraph loop detail) := by
  simp only [ResultLoop.step, h, Option.bind_eq_bind, Option.bind_some, if_true]
  rfl

/-- The turn for the native heap. -/
theorem step_nativeHeap (h : memoryClassStr detail.memoryClass = some (some "native heap")) :
    loop.step detail = some ({ loop with nativeHeapDetail := some detail }.putDetail "native heap"
      detail.totals) := by
  simp only [ResultLoop.step, h, Option.bind_eq_bind, Option.bind_some]
  rfl

/-- The turn for what is shown by kind of page. -/
theorem step_other (h : memoryClassStr detail.memoryClass = some (some "other")) :
    loop.step detail = (detail.items.foldlM updatePageDetail (loop.anonPageDetail,
      loop.filePageDetail)).map fun pages =>
        { loop with anonPageDetail := none, filePageDetail := pages.2 }.putDetail "AnonPage other"
          pages.1 := by
  simp only [ResultLoop.step, h, Option.bind_eq_bind, Option.bind_some]
  exact Option.map_eq_bind.symm

/-- The turn for all other classes puts the totals under the name of the class. -/
theorem step_plain {name : String} (h : memoryClassStr detail.memoryClass = some (some name))
    (hname : name ≠ "graph" ∧ name ≠ "native heap" ∧ name ≠ "other") :
    loop.step detail = some (loop.putDetail name detail.totals) := by
  simp [ResultLoop.step, h, hname]

/-- Only graph details look at the object. -/
private theorem step_withInfo (hgraph : detail.memoryClass ≠ graphClass) :
    (withInfo loop info).step detail = (loop.step detail).map (withInfo · info) := by
  cases classCases detail.memoryClass with
  | skipped h => rw [step_skipped h, step_skipped h]; rfl
  | outside h => rw [step_outside h, step_outside h]; rfl
  | graph h hc => exact absurd hc hgraph
  | nativeHeap h =>
    rw [step_nativeHeap h, step_nativeHeap h, Option.map_some, ← withInfo_putDetail]
    rfl
  | other h =>
    rw [step_other h, step_other h, Option.map_map]
    congr 1
  | plain name h hname =>
    rw [step_plain h hname, step_plain h hname, Option.map_some, withInfo_putDetail]

/-- What a detail can change. -/
structure StepFacts (loop : ResultLoop) (detail : MemoryDetail) (done : ResultLoop) : Prop where
  info : detail.memoryClass ≠ graphClass → done.info = loop.info
  rows : detail.memoryClass ≠ graphClass → done.rows = loop.rows
  prefixed : ∃ rows, done.rows = loop.rows ++ rows
  graph : detail.memoryClass = graphClass → done = afterGraph loop detail
  nativeKept : detail.memoryClass ≠ nativeHeapClass →
    done.nativeHeapDetail = loop.nativeHeapDetail
  native : detail.memoryClass = nativeHeapClass → done.nativeHeapDetail = some detail

/-- What one turn changes and what it leaves. -/
private theorem stepFacts (h : loop.step detail = some done) : StepFacts loop detail done := by
  cases classCases detail.memoryClass with
  | skipped hc hgraph hnative =>
    rw [step_skipped hc, Option.some.injEq] at h
    subst h
    exact ⟨fun _ => rfl, fun _ => rfl, ⟨[], by simp⟩, fun hg => absurd hg hgraph, fun _ => rfl,
      fun hn => absurd hn hnative⟩
  -- The table has no name right behind its end: the step is undefined.
  | outside hc =>
    rw [step_outside hc] at h
    exact nomatch h
  -- Only the graphics class writes titles and rows of its own.
  | graph hc hgraph =>
    rw [step_graph hc, Option.some.injEq] at h
    subst h
    exact ⟨fun hg => absurd hgraph hg, fun hg => absurd hgraph hg, ⟨_, rfl⟩, fun _ => rfl,
      fun _ => rfl, fun hn => absurd (hgraph.symm.trans hn) (by decide)⟩
  | nativeHeap hc hnative =>
    rw [step_nativeHeap hc, Option.some.injEq] at h
    subst h
    exact ⟨fun _ => by simp, fun _ => by simp, ⟨[], by simp⟩,
      fun hg => absurd (hg.symm.trans hnative) (by decide), fun hn => absurd hnative hn,
      fun _ => by simp⟩
  | other hc hother =>
    rw [step_other hc, Option.map_eq_some_iff] at h
    obtain ⟨pages, -, rfl⟩ := h
    exact ⟨fun _ => by simp, fun _ => by simp, ⟨[], by simp⟩,
      fun hg => absurd (hg.symm.trans hother) (by decide), fun _ => by simp,
      fun hn => absurd (hother.symm.trans hn) (by decide)⟩
  | plain name hc hname hgraph hnative =>
    rw [step_plain hc hname, Option.some.injEq] at h
    subst h
    exact ⟨fun _ => by simp, fun _ => by simp, ⟨[], by simp⟩, fun hg => absurd hg hgraph,
      fun _ => by simp, fun hn => absurd hn hnative⟩

/-- No detail looks at the current PSS or the native heap items. -/
private theorem step_carry :
    (withInfo loop (carry loop.info old)).step detail =
      (loop.step detail).map fun done => withInfo done (carry done.info old) := by
  by_cases hgraph : detail.memoryClass = graphClass
  · have hc : memoryClassStr detail.memoryClass = some (some "graph") := by rw [hgraph]; rfl
    rw [step_graph hc, step_graph hc]
    rfl
  · rw [step_withInfo hgraph]
    cases hstep : loop.step detail with
    | none => rfl
    | some done => rw [Option.map_some, Option.map_some, (stepFacts hstep).info hgraph]

end Step

/-! ## All details of a sample -/

section Fold

variable {loop done : ResultLoop} {details : List MemoryDetail} {info old : MemoryInfo}

/-- Without graphics memory the loop does not look at the members. -/
private theorem foldlM_withInfo (hgraph : ∀ d ∈ details, d.memoryClass ≠ graphClass) :
    details.foldlM ResultLoop.step (withInfo loop info) =
      (details.foldlM ResultLoop.step loop).map (withInfo · info) := by
  induction details generalizing loop with
  | nil => rfl
  | cons detail rest ih =>
    rw [List.foldlM_cons, List.foldlM_cons, step_withInfo (hgraph detail List.mem_cons_self)]
    cases loop.step detail with
    | none => rfl
    | some next =>
      simp only [Option.map_some, Option.bind_eq_bind, Option.bind_some]
      exact ih fun d hd => hgraph d (List.mem_cons_of_mem _ hd)

/-- The loop does not look at these members of an older object. -/
private theorem foldlM_carry :
    details.foldlM ResultLoop.step (withInfo loop (carry loop.info old)) =
      (details.foldlM ResultLoop.step loop).map fun done => withInfo done (carry done.info old) := by
  induction details generalizing loop with
  | nil => rfl
  | cons detail rest ih =>
    rw [List.foldlM_cons, List.foldlM_cons, step_carry]
    cases loop.step detail with
    | none => rfl
    | some next =>
      simp only [Option.map_some, Option.bind_eq_bind, Option.bind_some]
      exact ih

/-- The loop only adds rows. -/
private theorem foldlM_prefixed (h : details.foldlM ResultLoop.step loop = some done) :
    ∃ rows, done.rows = loop.rows ++ rows := by
  induction details generalizing loop with
  | nil =>
    simp only [List.foldlM_nil, Option.pure_def, Option.some.injEq] at h
    exact ⟨[], by simp [h]⟩
  | cons detail rest ih =>
    rw [List.foldlM_cons, Option.bind_eq_bind, Option.bind_eq_some_iff] at h
    obtain ⟨next, hnext, hrest⟩ := h
    obtain ⟨first, hfirst⟩ := (stepFacts hnext).prefixed
    obtain ⟨others, hothers⟩ := ih hrest
    exact ⟨first ++ others, by rw [hothers, hfirst, List.append_assoc]⟩

/-- Details before the first graph detail leave the object and the rows alone. -/
private theorem foldlM_facts_of_no_graph (hgraph : ∀ d ∈ details, d.memoryClass ≠ graphClass)
    (h : details.foldlM ResultLoop.step loop = some done) :
    done.info = loop.info ∧ done.rows = loop.rows := by
  induction details generalizing loop with
  | nil =>
    simp only [List.foldlM_nil, Option.pure_def, Option.some.injEq] at h
    exact ⟨by rw [h], by rw [h]⟩
  | cons detail rest ih =>
    rw [List.foldlM_cons, Option.bind_eq_bind, Option.bind_eq_some_iff] at h
    obtain ⟨next, hnext, hrest⟩ := h
    have hfacts := stepFacts hnext
    have hfirst := hgraph detail List.mem_cons_self
    obtain ⟨hinfo, hrows⟩ := ih (fun d hd => hgraph d (List.mem_cons_of_mem _ hd)) hrest
    exact ⟨hinfo.trans (hfacts.info hfirst), hrows.trans (hfacts.rows hfirst)⟩

/-- Without the native heap its detail stays as it was. -/
private theorem foldlM_native_none (hnative : ∀ d ∈ details, d.memoryClass ≠ nativeHeapClass)
    (h : details.foldlM ResultLoop.step loop = some done) :
    done.nativeHeapDetail = loop.nativeHeapDetail := by
  induction details generalizing loop with
  | nil =>
    simp only [List.foldlM_nil, Option.pure_def, Option.some.injEq] at h
    rw [h]
  | cons detail rest ih =>
    rw [List.foldlM_cons, Option.bind_eq_bind, Option.bind_eq_some_iff] at h
    obtain ⟨next, hnext, hrest⟩ := h
    rw [ih (fun d hd => hnative d (List.mem_cons_of_mem _ hd)) hrest]
    exact (stepFacts hnext).nativeKept (hnative detail List.mem_cons_self)

end Fold

/-! ## Graphics memory -/

section Graphics

variable {memory memory' : GraphicsMemory} {items : List MemoryItem}

/-- The field of the graphics memory that items of one type set. -/
def graphicsField (graphicType : GraphicType) (memory : GraphicsMemory) : UInt64 :=
  match graphicType with
  | .gl => memory.gl
  | .graph => memory.graph

/-- The type of the items that set it. -/
def graphicsItemType : GraphicType → MemoryItemType
  | .gl => .graphGl
  | .graph => .graphGraphics

/-- An item of graphics memory sets the field of its type. -/
private theorem graphicsField_set (graphicType : GraphicType) (memory : GraphicsMemory)
    (item : MemoryItem) :
    graphicsField graphicType (setGraphicsMemory memory item) =
      if item.type = graphicsItemType graphicType then .ofInt item.amounts.pss
      else graphicsField graphicType memory := by
  unfold setGraphicsMemory
  cases graphicType <;> cases item.type <;> rfl

/-- A field without an item stays as it was. -/
private theorem graphicsField_foldl_of_none {graphicType : GraphicType}
    (hnone : ∀ item ∈ items, item.type ≠ graphicsItemType graphicType) :
    graphicsField graphicType (items.foldl setGraphicsMemory memory) =
      graphicsField graphicType memory := by
  induction items generalizing memory with
  | nil => rfl
  | cons item rest ih =>
    rw [List.foldl_cons, ih fun other hother => hnone other (List.mem_cons_of_mem _ hother),
      graphicsField_set, if_neg (hnone item List.mem_cons_self)]

/-- Equal fields stay equal. -/
private theorem graphicsField_foldl_congr {graphicType : GraphicType}
    (h : graphicsField graphicType memory = graphicsField graphicType memory') :
    graphicsField graphicType (items.foldl setGraphicsMemory memory) =
      graphicsField graphicType (items.foldl setGraphicsMemory memory') := by
  induction items generalizing memory memory' with
  | nil => exact h
  | cons item rest ih =>
    rw [List.foldl_cons, List.foldl_cons]
    exact ih (by rw [graphicsField_set, graphicsField_set, h])

/-- A field with an item does not depend on what it was before. -/
private theorem graphicsField_foldl_of_mem {graphicType : GraphicType}
    (hmem : ∃ item ∈ items, item.type = graphicsItemType graphicType) :
    graphicsField graphicType (items.foldl setGraphicsMemory memory) =
      graphicsField graphicType (items.foldl setGraphicsMemory memory') := by
  induction items generalizing memory memory' with
  | nil =>
    obtain ⟨item, hitem, -⟩ := hmem
    exact nomatch hitem
  | cons item rest ih =>
    rw [List.foldl_cons, List.foldl_cons]
    by_cases htype : item.type = graphicsItemType graphicType
    · -- From here on the field is the same, whatever it was.
      apply graphicsField_foldl_congr
      rw [graphicsField_set, graphicsField_set, if_pos htype, if_pos htype]
    · obtain ⟨other, hother, hothertype⟩ := hmem
      refine ih ⟨other, List.mem_of_ne_of_mem ?_ hother, hothertype⟩
      rintro rfl
      exact htype hothertype

/-- Items of both types leave the same graphics memory, whatever it was before. -/
private theorem foldl_setGraphicsMemory_eq (hgl : ∃ item ∈ items, item.type = .graphGl)
    (hgraph : ∃ item ∈ items, item.type = .graphGraphics) :
    items.foldl setGraphicsMemory memory = items.foldl setGraphicsMemory memory' := by
  have h₁ := @graphicsField_foldl_of_mem memory memory' items .gl hgl
  have h₂ := @graphicsField_foldl_of_mem memory memory' items .graph hgraph
  cases hm : items.foldl setGraphicsMemory memory
  cases hm' : items.foldl setGraphicsMemory memory'
  rw [hm, hm'] at h₁ h₂
  simp only [graphicsField] at h₁ h₂
  rw [h₁, h₂]

end Graphics

/-! ## Samples that refresh everything -/

section Refresh

variable {info info' : MemoryInfo}

/-- With items for both fields nothing of the members is left in the graphics memory. -/
private theorem afterGraph_withInfo {loop : ResultLoop} {detail : MemoryDetail}
    (hwidth : info.titleWidth = loop.info.titleWidth)
    (hgl : ∃ item ∈ detail.items, item.type = .graphGl)
    (hgraph : ∃ item ∈ detail.items, item.type = .graphGraphics) :
    afterGraph (withInfo loop info) detail =
      withInfo (afterGraph loop detail) (carry (afterGraph loop detail).info info) := by
  have hmemory := @foldl_setGraphicsMemory_eq info.graphicsMemory loop.info.graphicsMemory
    detail.items hgl hgraph
  simp only [afterGraph, withInfo, carry, getGraphicsMemoryByDetail, hmemory,
    updateGraphicsMemoryRet, titleCell, hwidth]

/-- After a first graph detail with both items, two runs of the loop differ in the
    members it does not look at only. -/
private theorem foldlM_refresh {details : List MemoryDetail} {graph : MemoryDetail}
    (hfind : details.find? (·.memoryClass = graphClass) = some graph)
    (hgl : ∃ item ∈ graph.items, item.type = .graphGl)
    (hgraph : ∃ item ∈ graph.items, item.type = .graphGraphics)
    (hwidth : info'.titleWidth = info.titleWidth) :
    details.foldlM ResultLoop.step { info := info' } =
      (details.foldlM ResultLoop.step { info := info }).map fun done =>
        withInfo done (carry done.info info') := by
  obtain ⟨hclass, before, after, rfl, hbefore⟩ := List.find?_eq_some_iff_append.mp hfind
  simp only [decide_eq_true_eq] at hclass
  simp only [Bool.not_eq_true', decide_eq_false_iff_not] at hbefore
  have hname : memoryClassStr graph.memoryClass = some (some "graph") := by rw [hclass]; rfl
  have hstart : ({ info := info' } : ResultLoop) = withInfo { info := info } info' := rfl
  rw [hstart, List.foldlM_append, List.foldlM_append, foldlM_withInfo hbefore]
  cases hrun : before.foldlM ResultLoop.step { info := info } with
  | none => rfl
  | some mid =>
    have hinfo := (foldlM_facts_of_no_graph hbefore hrun).1
    simp only [Option.map_some, Option.bind_eq_bind, Option.bind_some, List.foldlM_cons]
    rw [step_graph hname, step_graph hname,
      afterGraph_withInfo (hwidth.trans (by rw [hinfo])) hgl hgraph]
    exact foldlM_carry

/-- Runs of the loop that agree on what it looks at give the same rows and, but for the
    native heap items, the same object. -/
private theorem updateResult_of_carry {detail : ProcessMemoryDetail} {heapInfo : MallHeapInfo}
    (h : detail.details.foldlM ResultLoop.step { info := info' } =
      (detail.details.foldlM ResultLoop.step { info := info }).map fun done =>
        withInfo done (carry done.info info')) :
    updateResult info' detail heapInfo = (updateResult info detail heapInfo).map fun result =>
      ({ result.1 with memoryItemMap := info'.memoryItemMap }, result.2) := by
  unfold updateResult
  rw [h]
  cases detail.details.foldlM ResultLoop.step { info := info } with
  | none => rfl
  | some done => rfl

/-- The result is made of the state after the loop. -/
private theorem updateResult_done {detail : ProcessMemoryDetail} {heapInfo : MallHeapInfo}
    {result : MemoryInfo × Option MemoryDetail × List MemoryInfo.Row}
    (h : updateResult info detail heapInfo = some result) :
    ∃ done, detail.details.foldlM ResultLoop.step { info := info } = some done ∧
      result.2.1 = done.nativeHeapDetail ∧ ∃ rows, result.2.2 = done.rows ++ rows := by
  unfold updateResult at h
  simp only [Option.bind_eq_bind, Option.bind_eq_some_iff, Option.some.injEq] at h
  obtain ⟨done, hrun, rfl⟩ := h
  exact ⟨done, hrun, rfl, _, by rw [List.append_assoc, List.append_assoc]⟩

/-- The object of a sample when `GetResult` starts. -/
private theorem collectProcessMemoryDetail_eq {readings : SampleReadings}
    {detail : ProcessMemoryDetail}
    (hdetail : readings.processMemoryDetail = some detail) (info : MemoryInfo) :
    collectProcessMemoryDetail info readings =
      (detail.details.foldlM widenTitle 0).map fun width => { info with titleWidth := width } := by
  unfold collectProcessMemoryDetail
  rw [hdetail]
  exact Option.map_eq_bind.symm

/-- The whole sample, given the result of `GetResult`. -/
private theorem getMemoryInfoByPid_eq {readings : SampleReadings} {detail : ProcessMemoryDetail}
    (hdetail : readings.processMemoryDetail = some detail) (info : MemoryInfo) :
    getMemoryInfoByPid info readings =
      (detail.details.foldlM widenTitle 0).bind fun width =>
        (updateResult { info with titleWidth := width } detail readings.mallocHeapInfo).map
          fun result =>
            let heapPart := getNativeHeap result.1 result.2.1
            (heapPart.1, insertMemoryTitle { info with titleWidth := width } ++
              (result.2.2 ++ heapPart.2) ++ getPurgByPid readings ++
              getDma heapPart.1.graphicsMemory.graph ++ getHiaiServerIon readings ++
              getAshmem readings) := by
  unfold getMemoryInfoByPid
  rw [collectProcessMemoryDetail_eq hdetail]
  cases detail.details.foldlM widenTitle 0 with
  | none => rfl
  | some width =>
    simp only [Option.map_some, Option.bind_eq_bind, Option.bind_some, getResult, hdetail]
    cases updateResult { info with titleWidth := width } detail readings.mallocHeapInfo <;> rfl

/-- A sample that refreshes all members it prints does not depend on their old values. -/
theorem intervalSample_congr {readings : SampleReadings} (h : Refreshes readings) (info info' : MemoryInfo)
    (timeIndex : Nat) :
    (intervalSample info' timeIndex readings).map (·.2) =
      (intervalSample info timeIndex readings).map (·.2) := by
  obtain ⟨detail, hdetail, hnative, graph, hfind, hgl, hgraph⟩ := h
  unfold intervalSample
  rw [getMemoryInfoByPid_eq hdetail, getMemoryInfoByPid_eq hdetail]
  cases detail.details.foldlM widenTitle 0 with
  | none => rfl
  | some width =>
    have hfold := @foldlM_refresh { info with titleWidth := width }
      { info' with titleWidth := width } _ _ hfind hgl hgraph rfl
    rw [Option.bind_some, Option.bind_some, updateResult_of_carry hfold]
    cases hresult : updateResult { info with titleWidth := width } detail
        readings.mallocHeapInfo with
    | none => rfl
    | some result =>
      obtain ⟨done, hrun, hnone, -⟩ := updateResult_done hresult
      rw [foldlM_native_none hnative hrun] at hnone
      simp only [Option.map_some, Option.bind_eq_bind, Option.bind_some, hnone, getNativeHeap]
      rfl

end Refresh

/-! ## Undefined behaviour -/

section Undefined

/-- The pages can be added up unless an anonymous one comes where there is no amount for it. -/
private theorem foldlM_updatePageDetail_isSome (items : List MemoryItem) (anonPage : Option Amounts)
    (filePage : Amounts) :
    (items.foldlM updatePageDetail (anonPage, filePage)).isSome =
      (anonPage.isSome || !items.any isAnonymous) := by
  induction items generalizing anonPage filePage with
  | nil => simp
  | cons item rest ih =>
    rw [List.foldlM_cons, List.any_cons]
    cases hanon : isAnonymous item with
    | true =>
      have hzero : item.iNode % 2 ^ 32 = 0 := of_decide_eq_true hanon
      cases anonPage with
      -- `anonPageDetail` has been moved away, and the source writes through it.
      | none =>
        have hstep : updatePageDetail (none, filePage) item = none := by
          rw [updatePageDetail, if_pos hzero]
          rfl
        rw [hstep]
        rfl
      | some amounts =>
        have hstep : updatePageDetail (some amounts, filePage) item =
            some (some (amounts.add item.amounts), filePage) := by
          rw [updatePageDetail, if_pos hzero]
          rfl
        rw [hstep, Option.bind_eq_bind, Option.bind_some, ih]
        rfl
    | false =>
      have hnonzero : ¬ item.iNode % 2 ^ 32 = 0 := of_decide_eq_false hanon
      rw [updatePageDetail, if_neg hnonzero, Option.bind_eq_bind, Option.bind_some, ih,
        Bool.false_or]

/-- The loop is defined exactly where `definedFrom` says so. -/
private theorem foldlM_step_isSome (details : List MemoryDetail) (loop : ResultLoop) :
    (details.foldlM ResultLoop.step loop).isSome =
      definedFrom loop.anonPageDetail.isNone details := by
  induction details generalizing loop with
  | nil => rfl
  | cons detail rest ih =>
    -- A step that keeps the other pages has the rest to decide.
    have hkeep : ∀ next, loop.step detail = some next →
        next.anonPageDetail = loop.anonPageDetail → detail.memoryClass ≠ memoryClassVec.length →
        detail.memoryClass ≠ otherClass →
        ((detail :: rest).foldlM ResultLoop.step loop).isSome =
          definedFrom loop.anonPageDetail.isNone (detail :: rest) := by
      intro next hnext hanon hsize hother
      rw [List.foldlM_cons, hnext, Option.bind_eq_bind, Option.bind_some, ih, hanon]
      simp only [definedFrom, if_neg hsize, if_neg hother]
    cases classCases detail.memoryClass with
    | skipped h hgraph hnative hother hsize => exact hkeep _ (step_skipped h) rfl hsize hother
    | outside h hc =>
      rw [List.foldlM_cons, step_outside h]
      simp [definedFrom, hc]
    | graph h hc => exact hkeep _ (step_graph h) rfl (by rw [hc]; decide) (by rw [hc]; decide)
    | nativeHeap h hc =>
      exact hkeep _ (step_nativeHeap h) (by simp) (by rw [hc]; decide) (by rw [hc]; decide)
    | plain name h hname hgraph hnative hother hsize =>
      exact hkeep _ (step_plain h hname) (by simp) hsize hother
    -- The pages of this detail decide, and then the rest.
    | other h hc =>
      have hpages := foldlM_updatePageDetail_isSome detail.items loop.anonPageDetail
        loop.filePageDetail
      have hsize : detail.memoryClass ≠ memoryClassVec.length := by rw [hc]; decide
      rw [List.foldlM_cons, step_other h]
      simp only [definedFrom, if_neg hsize, if_pos hc]
      cases hrun : detail.items.foldlM updatePageDetail (loop.anonPageDetail,
          loop.filePageDetail) with
      | none =>
        rw [hrun] at hpages
        cases hanon : loop.anonPageDetail <;> simp_all
      | some pages =>
        rw [hrun] at hpages
        rw [Option.map_some, Option.bind_eq_bind, Option.bind_some, ih]
        cases hanon : loop.anonPageDetail <;> simp_all

/-- Where the loop is defined the width of the titles is. -/
private theorem foldlM_widenTitle_isSome {details : List MemoryDetail} {moved : Bool}
    (h : definedFrom moved details = true) (width : Nat) :
    ∃ width', details.foldlM widenTitle width = some width' := by
  induction details generalizing width moved with
  | nil => exact ⟨width, rfl⟩
  | cons detail rest ih =>
    -- A class right behind the table is what `definedFrom` excludes.
    have hsize : detail.memoryClass ≠ memoryClassVec.length := by
      intro hc
      simp [definedFrom, hc] at h
    have hrest : ∃ moved, definedFrom moved rest = true := by
      simp only [definedFrom, if_neg hsize] at h
      split at h
      · exact ⟨true, (Bool.and_eq_true_iff.mp h).2⟩
      · exact ⟨moved, h⟩
    obtain ⟨moved', hrest⟩ := hrest
    -- Every other class has a name, possibly none to widen for.
    have hstep : ∃ next, widenTitle width detail = some next := by
      unfold widenTitle
      cases hname : memoryClassStr detail.memoryClass with
      | none =>
        cases classCases detail.memoryClass with
        | outside _ hc => exact absurd hc hsize
        | _ => simp_all
      | some name => cases name <;> exact ⟨_, rfl⟩
    obtain ⟨next, hnext⟩ := hstep
    rw [List.foldlM_cons, hnext]
    exact ih hrest next

/-- A sample without undefined behaviour ends, whatever the object holds. -/
private theorem exists_intervalSample {readings : SampleReadings} (h : Defined readings)
    (info : MemoryInfo) (timeIndex : Nat) :
    ∃ result, intervalSample info timeIndex readings = some result := by
  unfold intervalSample
  cases hdetail : readings.processMemoryDetail with
  | none =>
    simp only [getMemoryInfoByPid, collectProcessMemoryDetail, getResult, hdetail]
    exact ⟨_, rfl⟩
  | some detail =>
    obtain ⟨width, hwidth⟩ := foldlM_widenTitle_isSome (h detail hdetail) 0
    have hloop := foldlM_step_isSome detail.details { info := { info with titleWidth := width } }
    obtain ⟨done, hdone⟩ := Option.isSome_iff_exists.mp (hloop.trans (h detail hdetail))
    rw [getMemoryInfoByPid_eq hdetail, hwidth, Option.bind_some]
    unfold updateResult
    rw [hdone]
    exact ⟨_, rfl⟩

/-- A sample with undefined behaviour does not. -/
private theorem intervalSample_of_not_defined {readings : SampleReadings} (h : ¬ Defined readings)
    (info : MemoryInfo) (timeIndex : Nat) : intervalSample info timeIndex readings = none := by
  simp only [Defined, not_forall] at h
  obtain ⟨detail, hdetail, hundefined⟩ := h
  unfold intervalSample
  rw [getMemoryInfoByPid_eq hdetail]
  cases detail.details.foldlM widenTitle 0 with
  | none => rfl
  | some width =>
    have hloop := foldlM_step_isSome detail.details { info := { info with titleWidth := width } }
    have hnone : detail.details.foldlM ResultLoop.step
        { info := { info with titleWidth := width } } = none := by
      rw [← Option.not_isSome_iff_eq_none, hloop]
      exact hundefined
    rw [Option.bind_some]
    unfold updateResult
    rw [hnone]
    rfl

end Undefined

/-! ## Texts -/

section Text

/-- The text of rows behind others is behind theirs. -/
private theorem rowsText_append (rows rows' : List MemoryInfo.Row) :
    rowsText (rows ++ rows') = rowsText rows ++ rowsText rows' := by
  induction rows with
  | nil => simp [rowsText]
  | cons row rows ih => simp [rowsText, ih, String.append_assoc]

/-- Two texts that go on with different words of one length after the same beginning. -/
private theorem eq_of_append_eq {start word word' rest rest' : String}
    (hlength : word.length = word'.length)
    (h : start ++ (word ++ rest) = start ++ (word' ++ rest')) : word = word' := by
  have hwords := String.append_right_inj start |>.mp h
  have hlists : word.toList ++ rest.toList = word'.toList ++ rest'.toList := by
    rw [← String.toList_append, ← String.toList_append, hwords]
  have hlength' : word.toList.length = word'.toList.length := by
    rw [String.length_toList, String.length_toList, hlength]
  exact String.toList_inj.mp (List.append_inj_left hlists hlength')

/-- Blanks are no part of a number. -/
private theorem not_blank_of_mem_repr {n : Int} {c : Char} (h : c ∈ (toString n).toList) :
    c ≠ ' ' := by
  have hdigits : ∀ m : Nat, ∀ c ∈ m.repr.toList, c ≠ ' ' := by
    intro m c hc
    rw [Nat.toList_repr] at hc
    have hdigit := Nat.isDigit_of_mem_toDigits (by decide) (by decide) hc
    rintro rfl
    exact absurd hdigit (by decide)
  rw [Int.toString_eq_repr, Int.repr_eq_if] at h
  split at h
  · exact hdigits _ c h
  · rw [String.toList_append, List.mem_append] at h
    cases h with
    | inl hminus =>
      simp only [String.reduceToList, List.mem_cons, List.not_mem_nil, or_false] at hminus
      rw [hminus]
      decide
    | inr hdigit => exact hdigits _ c hdigit

/-- Different numbers fill different cells. -/
private theorem valueCell_inj {n m : Int} (h : valueCell (toString n) = valueCell (toString m)) :
    n = m := by
  have hcells : ∀ n : Int, (valueCell (toString n)).toList.filter (· ≠ ' ') =
      (toString n).toList := by
    intro n
    have hkeep : (toString n).toList.filter (· ≠ ' ') = (toString n).toList :=
      List.filter_eq_self.mpr fun c hc => by simpa using not_blank_of_mem_repr hc
    simp only [valueCell, setWidth, Bool.false_eq_true, if_false, String.toList_append,
      List.filter_append, hkeep, String.toList_ofList]
    simp
  have hrepr : (toString n).toList = (toString m).toList := by rw [← hcells n, ← hcells m, h]
  exact Int.repr_injective (String.toList_inj.mp hrepr)

end Text

/-! ## Old native heap items -/

section NativeHeap

/-- `items'` has one `heap` item more than `items`. -/
structure HasMore (extra : MemoryItem) (items items' : UnorderedMap String MemoryItem) : Prop where
  others : ∀ type, type ≠ "heap" → items'.lookup type = items.lookup type
  heap : (items.lookup "heap" = none ∧ items'.lookup "heap" = some extra) ∨
    ∃ item item', items.lookup "heap" = some item ∧ items'.lookup "heap" = some item' ∧
      item'.amounts = extra.amounts.add item.amounts

theorem Amounts.add_assoc (a b c : Amounts) : (a.add b).add c = a.add (b.add c) := by
  simp only [Amounts.add, Int.add_assoc]

/-- An item that is added to both maps leaves the difference between them. -/
theorem HasMore.addNativeItem {extra : MemoryItem} {items items' : UnorderedMap String MemoryItem}
    (h : HasMore extra items items') (item : MemoryItem) :
    HasMore extra (MemoryInfo.addNativeItem items item) (MemoryInfo.addNativeItem items' item) := by
  unfold MemoryInfo.addNativeItem
  cases nativeHeapMap item.type with
  | none => exact h
  | some type =>
    by_cases htype : type = "heap"
    -- One more heap item is added to both, on top of the one that only the second has.
    · subst htype
      obtain ⟨hnone, hextra⟩ | ⟨old, old', hold, hold', hamounts⟩ := h.heap
      · simp only [hnone, hextra]
        refine ⟨fun other hother => ?_, .inr ⟨item, _, AList.lookup_insert _, AList.lookup_insert _, rfl⟩⟩
        rw [AList.lookup_insert_ne hother, AList.lookup_insert_ne hother, h.others other hother]
      · simp only [hold, hold']
        refine ⟨fun other hother => ?_, .inr ⟨_, _, AList.lookup_insert _, AList.lookup_insert _, ?_⟩⟩
        · rw [AList.lookup_insert_ne hother, AList.lookup_insert_ne hother, h.others other hother]
        · simp only [hamounts, Amounts.add_assoc]
    · -- An item of another kind finds the same in both maps.
      have hinsert : ∀ new, HasMore extra (items.insert type new) (items'.insert type new) := by
        intro new
        refine ⟨fun other hother => ?_, ?_⟩
        · by_cases hsame : other = type
          · rw [hsame, AList.lookup_insert, AList.lookup_insert]
          · rw [AList.lookup_insert_ne hsame, AList.lookup_insert_ne hsame, h.others other hother]
        · rw [AList.lookup_insert_ne (Ne.symm htype), AList.lookup_insert_ne (Ne.symm htype)]
          exact h.heap
      dsimp only
      rw [h.others type htype]
      cases items.lookup type with
      | none => exact hinsert item
      | some old => exact hinsert _

theorem HasMore.foldl {extra : MemoryItem} {items items' : UnorderedMap String MemoryItem}
    (h : HasMore extra items items') (added : List MemoryItem) :
    HasMore extra (added.foldl MemoryInfo.addNativeItem items)
      (added.foldl MemoryInfo.addNativeItem items') := by
  induction added generalizing items items' with
  | nil => exact h
  | cons item rest ih => exact ih (h.addNativeItem item)

/-- The rows of the native heap items. -/
def nativeRows (items : UnorderedMap String MemoryItem) : List MemoryInfo.Row :=
  nativeHeapTag.filterMap fun type => (items.lookup type).map (setNativeDetailRet type)

/-- One kilobyte of heap. -/
def oneHeapItem : MemoryItem := { type := .heap, amounts := { pss := 1 } }

/-- A further item of the native heap shows in the text. -/
private theorem rowsText_nativeRows_ne {items items' : UnorderedMap String MemoryItem}
    (h : HasMore oneHeapItem items items') :
    rowsText (nativeRows items') ≠ rowsText (nativeRows items) := by
  -- The items of the other kinds follow in both texts.
  let others := fun items : UnorderedMap String MemoryItem => rowsText (nativeHeapTag.tail.filterMap
    fun type => (items.lookup type).map (setNativeDetailRet type))
  have hothers : others items' = others items := by
    have hlookup : ∀ type ∈ nativeHeapTag.tail, (items'.lookup type).map (setNativeDetailRet type) =
        (items.lookup type).map (setNativeDetailRet type) := by
      intro type htype
      rw [h.others type (fun heq => absurd (heq ▸ htype) (by decide))]
    exact congrArg rowsText (List.filterMap_congr hlookup)
  have hrows : ∀ items : UnorderedMap String MemoryItem, rowsText (nativeRows items) =
      rowsText ((items.lookup "heap").map (setNativeDetailRet "heap")).toList ++ others items := by
    intro items
    rw [← rowsText_append]
    cases hlookup : items.lookup "heap" <;> simp [nativeRows, nativeHeapTag, hlookup]
  intro heq
  rw [hrows, hrows, hothers, String.append_left_inj] at heq
  obtain ⟨hnone, hextra⟩ | ⟨item, item', hitem, hitem', hamounts⟩ := h.heap
  · rw [hnone, hextra] at heq
    exact absurd heq (by decide +kernel)
  · -- The cells after the first amount are the same.
    let rest := fun amounts : Amounts => rowText ((amountCells amounts).tail ++ zeroCells)
    have hrow : ∀ item, rowText (setNativeDetailRet "heap" item) =
        setWidth ramWidth ' ' false ("heap" ++ ":") ++
          (valueCell (toString item.amounts.pss) ++ rest item.amounts) := fun _ => rfl
    have hrest : rest item'.amounts = rest item.amounts := by
      simp only [rest, hamounts, Amounts.add, oneHeapItem, amountCells, Int.zero_add]
      rfl
    simp only [hitem, hitem', Option.map_some, Option.toList_some, rowsText, String.append_empty]
      at heq
    rw [hrow, hrow, hrest, String.append_right_inj, String.append_left_inj] at heq
    have hpss := valueCell_inj heq
    rw [hamounts] at hpss
    simp only [Amounts.add, oneHeapItem] at hpss
    omega

end NativeHeap

/-! ## Samples that print old members -/

section Stale

variable {readings : SampleReadings} {detail : ProcessMemoryDetail} {timeIndex : Nat}

/-- The record of a sample, given what `UpdateResult` returns. -/
def recordOf (timeIndex : Nat) (readings : SampleReadings) (info : MemoryInfo)
    (result : MemoryInfo × Option MemoryDetail × List MemoryInfo.Row) : String :=
  let heapPart := getNativeHeap result.1 result.2.1
  redirectMemoryInfo timeIndex (insertMemoryTitle info ++ (result.2.2 ++ heapPart.2) ++
    getPurgByPid readings ++ getDma heapPart.1.graphicsMemory.graph ++ getHiaiServerIon readings ++
    getAshmem readings)

/-- The parts of a record, in order. -/
private theorem recordOf_eq (timeIndex : Nat) (readings : SampleReadings) (info : MemoryInfo)
    (result : MemoryInfo × Option MemoryDetail × List MemoryInfo.Row) :
    recordOf timeIndex readings info result =
      ("\ntimes:" ++ toString timeIndex ++ "\n" ++ rowsText (insertMemoryTitle info)) ++
        (rowsText result.2.2 ++ (rowsText (getNativeHeap result.1 result.2.1).2 ++
          (rowsText (getPurgByPid readings) ++
            (rowsText (getDma (getNativeHeap result.1 result.2.1).1.graphicsMemory.graph) ++
              (rowsText (getHiaiServerIon readings) ++ rowsText (getAshmem readings)))))) := by
  simp only [recordOf, redirectMemoryInfo, rowsText_append, String.append_assoc]

/-- Two defined samples from different objects with the same output have the same record. -/
private theorem exists_recordOf_eq (hdetail : readings.processMemoryDetail = some detail)
    (hdefined : Defined readings) {info info' : MemoryInfo}
    (h : (intervalSample info' timeIndex readings).map (·.2) =
      (intervalSample info timeIndex readings).map (·.2)) :
    ∃ width result result',
      updateResult { info with titleWidth := width } detail readings.mallocHeapInfo =
        some result ∧
      updateResult { info' with titleWidth := width } detail readings.mallocHeapInfo =
        some result' ∧
      recordOf timeIndex readings { info' with titleWidth := width } result' =
        recordOf timeIndex readings { info with titleWidth := width } result := by
  obtain ⟨width, hwidth⟩ := foldlM_widenTitle_isSome (hdefined detail hdetail) 0
  -- Whether a sample is defined does not depend on the object.
  have hresult : ∀ info : MemoryInfo, ∃ result, updateResult { info with titleWidth := width }
      detail readings.mallocHeapInfo = some result := by
    intro info
    have hloop := foldlM_step_isSome detail.details { info := { info with titleWidth := width } }
    obtain ⟨done, hdone⟩ := Option.isSome_iff_exists.mp (hloop.trans (hdefined detail hdetail))
    unfold updateResult
    rw [hdone]
    exact ⟨_, rfl⟩
  obtain ⟨result, hrun⟩ := hresult info
  obtain ⟨result', hrun'⟩ := hresult info'
  refine ⟨width, result, result', hrun, hrun', ?_⟩
  unfold intervalSample at h
  rw [getMemoryInfoByPid_eq hdetail, getMemoryInfoByPid_eq hdetail, hwidth, Option.bind_some,
    Option.bind_some, hrun, hrun'] at h
  exact congrArg Prod.fst (Option.some.inj h)

/-- A native heap in the list, or in the record before, leaves a detail. -/
private theorem foldlM_native_isSome {details : List MemoryDetail} {loop done : ResultLoop}
    (hnative : loop.nativeHeapDetail.isSome = true ∨
      ∃ d ∈ details, d.memoryClass = nativeHeapClass)
    (h : details.foldlM ResultLoop.step loop = some done) :
    done.nativeHeapDetail.isSome = true := by
  induction details generalizing loop with
  | nil =>
    simp only [List.foldlM_nil, Option.pure_def, Option.some.injEq] at h
    subst h
    exact hnative.resolve_right fun ⟨d, hd, _⟩ => nomatch hd
  | cons detail rest ih =>
    rw [List.foldlM_cons, Option.bind_eq_bind, Option.bind_eq_some_iff] at h
    obtain ⟨next, hnext, hrest⟩ := h
    have hfacts := stepFacts hnext
    refine ih ?_ hrest
    by_cases hclass : detail.memoryClass = nativeHeapClass
    · left
      rw [hfacts.native hclass]
      rfl
    · obtain hsome | ⟨d, hd, hd'⟩ := hnative
      · left
        rw [hfacts.nativeKept hclass, hsome]
      · right
        refine ⟨d, List.mem_of_ne_of_mem ?_ hd, hd'⟩
        rintro rfl
        exact hclass hd'

/-- The result for an object with older members is the one without them, with these members kept. -/
private theorem updateResult_carry {info info' : MemoryInfo}
    (hwidth : info'.titleWidth = info.titleWidth)
    (hgraphics : info'.graphicsMemory = info.graphicsMemory) (heapInfo : MallHeapInfo) :
    updateResult info' detail heapInfo = (updateResult info detail heapInfo).map fun result =>
      ({ result.1 with memoryItemMap := info'.memoryItemMap }, result.2) := by
  apply updateResult_of_carry
  have hinfo : carry info info' = info' := by
    unfold carry
    rw [← hwidth, ← hgraphics]
  have hstart : ({ info := info' } : ResultLoop) =
      withInfo { info := info } (carry info info') := by
    rw [hinfo]
    rfl
  rw [hstart]
  exact foldlM_carry

/-- With a native heap, an old `heap` item shows in the record. -/
private theorem record_ne_of_native (hdetail : readings.processMemoryDetail = some detail)
    (hdefined : Defined readings) (hnative : ∃ d ∈ detail.details, d.memoryClass = nativeHeapClass)
    {info info' : MemoryInfo} (hgraphics : info'.graphicsMemory = info.graphicsMemory)
    (hmore : HasMore oneHeapItem info.memoryItemMap info'.memoryItemMap) :
    (intervalSample info' timeIndex readings).map (·.2) ≠
      (intervalSample info timeIndex readings).map (·.2) := by
  intro heq
  obtain ⟨width, result, result', hrun, hrun', hrecord⟩ := exists_recordOf_eq hdetail hdefined heq
  let start : MemoryInfo := { info with titleWidth := width }
  have hown := @updateResult_carry detail start start rfl rfl readings.mallocHeapInfo
  have hother := @updateResult_carry detail start { info' with titleWidth := width } rfl hgraphics
    readings.mallocHeapInfo
  rw [hrun, Option.map_some, Option.some.injEq] at hown
  rw [hrun, hrun', Option.map_some, Option.some.injEq] at hother
  obtain ⟨done, hdone, hnone, -⟩ := updateResult_done hrun
  obtain ⟨native, hsome⟩ := Option.isSome_iff_exists.mp
    (hnone ▸ foldlM_native_isSome (.inr hnative) hdone)
  have hitems : result.1.memoryItemMap = info.memoryItemMap := by rw [hown]
  rw [recordOf_eq, recordOf_eq, hother, hsome] at hrecord
  simp only [getNativeHeap, hitems] at hrecord
  -- The texts agree in front of the native heap, so its rows would have to agree.
  have hcancel := String.append_right_inj _ |>.mp hrecord
  have hcancel := String.append_right_inj _ |>.mp hcancel
  rw [String.append_left_inj, rowsText_append, rowsText_append, String.append_right_inj] at hcancel
  exact rowsText_nativeRows_ne (hmore.foldl native.items) hcancel

/-- Without a graph detail the rows show the sum of the old graphics memory only. -/
private theorem updateResult_no_graph (hgraph : ∀ d ∈ detail.details, d.memoryClass ≠ graphClass)
    {info info' : MemoryInfo} (hwidth : info'.titleWidth = info.titleWidth)
    (hsum : info'.graphicsMemory.gl + info'.graphicsMemory.graph =
      info.graphicsMemory.gl + info.graphicsMemory.graph) (heapInfo : MallHeapInfo) :
    updateResult info' detail heapInfo = (updateResult info detail heapInfo).map fun result =>
      ({ info' with currentPss := .ofInt detail.totalAllPss }, result.2) := by
  have hstart : ({ info := info' } : ResultLoop) = withInfo { info := info } info' := rfl
  unfold updateResult
  rw [hstart, foldlM_withInfo hgraph]
  cases hrun : detail.details.foldlM ResultLoop.step { info := info } with
  | none => rfl
  | some done =>
    have hinfo : done.info = info := (foldlM_facts_of_no_graph hgraph hrun).1
    simp only [Option.map_some, Option.bind_eq_bind, Option.bind_some, withInfo, updateTotalDetail,
      setDetailRet, titleCell, hinfo, hwidth, UInt64.add_assoc, hsum]

/-- Without a graph detail, the old Graph memory shows as DMA memory. -/
private theorem record_ne_of_no_graph (hdetail : readings.processMemoryDetail = some detail)
    (hdefined : Defined readings) (hgraph : ∀ d ∈ detail.details, d.memoryClass ≠ graphClass)
    {info info' : MemoryInfo} (hmemory : info.graphicsMemory = ⟨1, 0⟩)
    (hmemory' : info'.graphicsMemory = ⟨0, 1⟩)
    (hitems : info'.memoryItemMap = info.memoryItemMap) :
    (intervalSample info' timeIndex readings).map (·.2) ≠
      (intervalSample info timeIndex readings).map (·.2) := by
  intro heq
  obtain ⟨width, result, result', hrun, hrun', hrecord⟩ := exists_recordOf_eq hdetail hdefined heq
  let start : MemoryInfo := { info with titleWidth := width }
  have hown := @updateResult_no_graph detail hgraph start start rfl rfl readings.mallocHeapInfo
  have hother := @updateResult_no_graph detail hgraph start { info' with titleWidth := width } rfl
    (by simp only [start, hmemory, hmemory']; decide) readings.mallocHeapInfo
  rw [hrun, Option.map_some, Option.some.injEq] at hown
  rw [hrun, hrun', Option.map_some, Option.some.injEq] at hother
  -- The native heap is shown alike, but the graphics memory is still the old one.
  have hnative : (getNativeHeap result'.1 result'.2.1).2 = (getNativeHeap result.1 result.2.1).2 ∧
      (getNativeHeap result'.1 result'.2.1).1.graphicsMemory.graph = 1 ∧
      (getNativeHeap result.1 result.2.1).1.graphicsMemory.graph = 0 := by
    rw [hother, hown]
    cases result.2.1 with
    | none => simp [getNativeHeap, hmemory, hmemory', start]
    | some native => simp [getNativeHeap, hmemory, hmemory', hitems, start]
  have hrows : result'.2.2 = result.2.2 := by rw [hother]
  rw [recordOf_eq, recordOf_eq, hnative.1, hnative.2.1, hnative.2.2, hrows] at hrecord
  have hcancel := String.append_right_inj _ |>.mp hrecord
  rw [String.append_right_inj, String.append_right_inj, String.append_right_inj,
    String.append_left_inj] at hcancel
  exact absurd hcancel (by decide +kernel)

/-- The rows of the first graph detail come first. -/
private theorem foldlM_rows_of_graph {details : List MemoryDetail} {graph : MemoryDetail}
    {info : MemoryInfo} {done : ResultLoop}
    (hfind : details.find? (·.memoryClass = graphClass) = some graph)
    (h : details.foldlM ResultLoop.step { info := info } = some done) :
    ∃ rows, done.rows =
      updateGraphicsMemoryRet info "GL" (graph.items.foldl setGraphicsMemory info.graphicsMemory).gl ::
      updateGraphicsMemoryRet info "Graph"
        (graph.items.foldl setGraphicsMemory info.graphicsMemory).graph :: rows := by
  obtain ⟨hclass, before, after, rfl, hbefore⟩ := List.find?_eq_some_iff_append.mp hfind
  simp only [decide_eq_true_eq] at hclass
  simp only [Bool.not_eq_true', decide_eq_false_iff_not] at hbefore
  rw [List.foldlM_append, Option.bind_eq_bind, Option.bind_eq_some_iff] at h
  obtain ⟨mid, hmid, hrest⟩ := h
  obtain ⟨hinfo, hrows⟩ := foldlM_facts_of_no_graph hbefore hmid
  rw [List.foldlM_cons, Option.bind_eq_bind, Option.bind_eq_some_iff] at hrest
  obtain ⟨next, hnext, hrest⟩ := hrest
  obtain ⟨rows, hrows'⟩ := foldlM_prefixed hrest
  refine ⟨rows, ?_⟩
  rw [hrows', (stepFacts hnext).graph hclass]
  simp only [afterGraph, getGraphicsMemoryByDetail, hinfo, hrows]
  rfl

/-- The text of a row of graphics memory. -/
def graphicsText (titleWidth : Nat) (title : String) (value : UInt64) : String :=
  rowText (updateGraphicsMemoryRet { titleWidth := titleWidth } title value)

/-- The text of a record up to the rows of its details. -/
def recordStart (timeIndex titleWidth : Nat) : String :=
  "\ntimes:" ++ toString timeIndex ++ "\n" ++
    rowsText (insertMemoryTitle { titleWidth := titleWidth })

/-- A record begins with its time and the graphics memory that it shows. -/
private theorem exists_record_start {graph : MemoryDetail} {info : MemoryInfo}
    {heapInfo : MallHeapInfo}
    {result : MemoryInfo × Option MemoryDetail × List MemoryInfo.Row}
    (hfind : detail.details.find? (·.memoryClass = graphClass) = some graph)
    (hrun : updateResult info detail heapInfo = some result) :
    ∃ rest, recordOf timeIndex readings info result =
      recordStart timeIndex info.titleWidth ++
        (graphicsText info.titleWidth "GL"
            (graph.items.foldl setGraphicsMemory info.graphicsMemory).gl ++
          (graphicsText info.titleWidth "Graph"
            (graph.items.foldl setGraphicsMemory info.graphicsMemory).graph ++ rest)) := by
  obtain ⟨done, hdone, -, others, hothers⟩ := updateResult_done hrun
  obtain ⟨rows, hrows⟩ := foldlM_rows_of_graph hfind hdone
  have htitle : insertMemoryTitle info = insertMemoryTitle { titleWidth := info.titleWidth } := rfl
  have hrow : ∀ title value, updateGraphicsMemoryRet info title value =
      updateGraphicsMemoryRet { titleWidth := info.titleWidth } title value := fun _ _ => rfl
  rw [recordOf_eq, hothers, hrows, htitle, hrow, hrow]
  simp only [List.cons_append, rowsText, recordStart, graphicsText, String.append_assoc]
  exact ⟨_, rfl⟩

/-- Rows with different one-digit amounts. -/
private theorem graphicsText_ne (title rest rest' : String) (titleWidth : Nat) :
    graphicsText titleWidth title 0 ++ rest ≠ graphicsText titleWidth title 1 ++ rest' := by
  have hrow : ∀ value : UInt64, ∃ cells, graphicsText titleWidth title value =
      titleCell { titleWidth := titleWidth } title ++
        (valueCell (toString value.toNat) ++ cells) := fun value => ⟨_, rfl⟩
  obtain ⟨cells, hzero⟩ := hrow 0
  obtain ⟨cells', hone⟩ := hrow 1
  rw [hzero, hone, String.append_assoc, String.append_assoc, String.append_assoc,
    String.append_assoc]
  intro heq
  have hword : valueCell (toString (0 : UInt64).toNat) = valueCell (toString (1 : UInt64).toNat) :=
    eq_of_append_eq (by decide +kernel) heq
  exact absurd hword (by decide +kernel)

/-- A first graph detail that lacks an item shows an old amount. -/
private theorem record_ne_of_graph (hdetail : readings.processMemoryDetail = some detail)
    (hdefined : Defined readings) {graph : MemoryDetail}
    (hfind : detail.details.find? (·.memoryClass = graphClass) = some graph)
    (hlacks : ¬ ((∃ item ∈ graph.items, item.type = .graphGl) ∧
      ∃ item ∈ graph.items, item.type = .graphGraphics))
    {info info' : MemoryInfo} (hmemory : info.graphicsMemory = ⟨1, 0⟩)
    (hmemory' : info'.graphicsMemory = ⟨0, 1⟩) :
    (intervalSample info' timeIndex readings).map (·.2) ≠
      (intervalSample info timeIndex readings).map (·.2) := by
  intro heq
  obtain ⟨width, result, result', hrun, hrun', hrecord⟩ := exists_recordOf_eq hdetail hdefined heq
  obtain ⟨rest, hstart⟩ := @exists_record_start readings _ timeIndex _ _ _ _ hfind hrun
  obtain ⟨rest', hstart'⟩ := @exists_record_start readings _ timeIndex _ _ _ _ hfind hrun'
  rw [hstart, hstart', hmemory, hmemory'] at hrecord
  by_cases hgl : ∃ item ∈ graph.items, item.type = .graphGl
  · -- The GL rows are the same, the Graph rows show the old amounts.
    have hgraph : ∀ item ∈ graph.items, item.type ≠ .graphGraphics :=
      fun item hitem htype => hlacks ⟨hgl, item, hitem, htype⟩
    have hsame := @graphicsField_foldl_of_mem ⟨0, 1⟩ ⟨1, 0⟩ graph.items .gl hgl
    have hold := @graphicsField_foldl_of_none ⟨1, 0⟩ graph.items .graph hgraph
    have hold' := @graphicsField_foldl_of_none ⟨0, 1⟩ graph.items .graph hgraph
    simp only [graphicsField] at hsame hold hold'
    rw [hsame, hold, hold', String.append_right_inj, String.append_right_inj] at hrecord
    exact graphicsText_ne _ _ _ _ hrecord.symm
  -- No GL item: already the GL rows show the old amounts.
  · have hnone : ∀ item ∈ graph.items, item.type ≠ .graphGl :=
      fun item hitem htype => hgl ⟨item, hitem, htype⟩
    have hold := @graphicsField_foldl_of_none ⟨1, 0⟩ graph.items .gl hnone
    have hold' := @graphicsField_foldl_of_none ⟨0, 1⟩ graph.items .gl hnone
    simp only [graphicsField] at hold hold'
    rw [hold, hold', String.append_right_inj] at hrecord
    exact graphicsText_ne _ _ _ _ hrecord

end Stale

/-! ## Sessions -/

section Sessions

/-- A sample whose collection fails. -/
def failedSample : SampleReadings := { processMemoryDetail := none }

/-- A sample with nothing but a collected detail. -/
def sampleOf (detail : ProcessMemoryDetail) : SampleReadings := { processMemoryDetail := some detail }

/-- A sample of one kilobyte of PSS. -/
def pssSample : SampleReadings := sampleOf { totalAllPss := 1 }

/-- A sample with one kilobyte of native heap. -/
def heapSample : SampleReadings :=
  sampleOf { details := [{ memoryClass := nativeHeapClass, items := [oneHeapItem] }] }

/-- A sample with these amounts of GL and Graph memory. -/
def graphicsSample (gl graph : Int) : SampleReadings :=
  sampleOf { details := [{ memoryClass := graphClass, items :=
    [{ type := .graphGl, amounts := { pss := gl } },
      { type := .graphGraphics, amounts := { pss := graph } }] }] }

/-- The object after a first sample. -/
def objectAfter (readings : SampleReadings) : MemoryInfo :=
  ((getMemoryInfoByPid {} readings).map (·.1)).getD {}

/-- A first sample leaves the object with the items of its native heap. -/
private theorem intervalSample_objectAfter {readings : SampleReadings} (h : Defined readings)
    (timeIndex : Nat) :
    ∃ output, intervalSample {} timeIndex readings = some (objectAfter readings, output) := by
  obtain ⟨result, hresult⟩ := exists_intervalSample h {} timeIndex
  unfold intervalSample objectAfter at *
  cases hrun : getMemoryInfoByPid {} readings with
  | none => simp [hrun] at hresult
  | some sample => exact ⟨_, rfl⟩

/-- A defined sample that does not refresh everything shows what a sample before it
    has left. -/
theorem exists_different_records {readings : SampleReadings} (hdefined : Defined readings)
    (hnot : ¬ Refreshes readings) :
    ∃ before before', Defined before ∧ Defined before' ∧ ∀ timeIndex,
      (intervalSample (objectAfter before') timeIndex readings).map (·.2) ≠
        (intervalSample (objectAfter before) timeIndex readings).map (·.2) := by
  have hdefinedOf : ∀ detail : ProcessMemoryDetail, definedFrom false detail.details = true →
      Defined (sampleOf detail) := by
    intro detail hdetail other hother
    rw [← Option.some.inj hother]
    exact hdetail
  have hgraphics := fun gl graph => hdefinedOf
    { details := [{ memoryClass := graphClass, items :=
      [{ type := .graphGl, amounts := { pss := gl } },
        { type := .graphGraphics, amounts := { pss := graph } }] }] } rfl
  cases hdetail : readings.processMemoryDetail with
  | none =>
    -- The current PSS is left over.
    refine ⟨sampleOf {}, pssSample, hdefinedOf _ rfl, hdefinedOf _ rfl, fun timeIndex heq => ?_⟩
    have hpss : ∀ info : MemoryInfo, ∃ record, (intervalSample info timeIndex readings).map (·.2) =
        some (record, info.currentPss.toUInt32.toInt32) := by
      intro info
      simp only [intervalSample, getMemoryInfoByPid, collectProcessMemoryDetail, getResult, hdetail]
      exact ⟨_, rfl⟩
    obtain ⟨record, hrecord⟩ := hpss (objectAfter (sampleOf {}))
    obtain ⟨record', hrecord'⟩ := hpss (objectAfter pssSample)
    rw [hrecord, hrecord', Option.some.injEq, Prod.mk.injEq] at heq
    exact absurd heq.2 (by decide +kernel)
  | some detail =>
    by_cases hnative : ∃ d ∈ detail.details, d.memoryClass = nativeHeapClass
    · refine ⟨sampleOf {}, heapSample, hdefinedOf _ rfl, hdefinedOf _ rfl, fun timeIndex => ?_⟩
      refine record_ne_of_native hdetail hdefined hnative rfl ⟨fun type htype => ?_, .inl ⟨rfl, rfl⟩⟩
      exact AList.lookup_insert_ne htype
    refine ⟨graphicsSample 1 0, graphicsSample 0 1, hgraphics 1 0, hgraphics 0 1, fun timeIndex => ?_⟩
    cases hfind : detail.details.find? (·.memoryClass = graphClass) with
    | none =>
      refine record_ne_of_no_graph hdetail hdefined ?_ rfl rfl rfl
      simpa using hfind
    | some graph =>
      refine record_ne_of_graph hdetail hdefined hfind (fun hboth => hnot ?_) rfl rfl
      exact ⟨detail, hdetail, fun d hd hclass => hnative ⟨d, hd, hclass⟩, graph, hfind, hboth⟩

/-- The output of a sample of a session is that of its round, in some state of the
    object; for the first sample it is the new object. -/
private theorem intervalLoop_getElem {info : MemoryInfo} {timeIndex k : Nat}
    {samples : List SampleReadings}
    {outputs : List (String × Int32)} {readings : SampleReadings}
    (hrun : intervalLoop info timeIndex samples = some outputs)
    (hk : samples[k]? = some readings) :
    ∃ before, (k = 0 → before = info) ∧ ∃ result,
      intervalSample before (timeIndex + k) readings = some result ∧
        outputs[k]? = some result.2 := by
  induction samples generalizing info timeIndex k outputs with
  | nil => exact nomatch hk
  | cons first rest ih =>
    simp only [intervalLoop, Option.bind_eq_bind, Option.bind_eq_some_iff, Option.some.injEq]
      at hrun
    obtain ⟨⟨next, output⟩, hfirst, others, hrest, rfl⟩ := hrun
    cases k with
    | zero =>
      simp only [List.getElem?_cons_zero, Option.some.injEq] at hk
      subst hk
      exact ⟨info, fun _ => rfl, _, hfirst, rfl⟩
    | succ k =>
      rw [List.getElem?_cons_succ] at hk
      obtain ⟨before, -, result, hresult, houtput⟩ := ih hrest hk
      refine ⟨before, (fun h => nomatch h), result, ?_, ?_⟩
      · rw [← hresult]
        congr 1
        omega
      · rw [List.getElem?_cons_succ, houtput]

/-- Failed collections at the start of a session leave the object as it is. -/
private theorem intervalLoop_failed (n : Nat) (info : MemoryInfo) (timeIndex : Nat) :
    ∃ outputs : List (String × Int32), outputs.length = n ∧ ∀ samples,
      intervalLoop info timeIndex (List.replicate n failedSample ++ samples) =
        (intervalLoop info (timeIndex + n) samples).map (outputs ++ ·) := by
  induction n generalizing timeIndex with
  | zero => exact ⟨[], rfl, fun samples => by simp⟩
  | succ n ih =>
    have hfailed : ∃ output, intervalSample info timeIndex failedSample = some (info, output) := by
      simp only [intervalSample, getMemoryInfoByPid, collectProcessMemoryDetail, getResult,
        failedSample]
      exact ⟨_, rfl⟩
    obtain ⟨output, hfailed⟩ := hfailed
    obtain ⟨outputs, hlength, hrest⟩ := ih (timeIndex + 1)
    refine ⟨output :: outputs, by rw [List.length_cons, hlength], fun samples => ?_⟩
    rw [List.replicate_succ, List.cons_append, intervalLoop, hfailed]
    simp only [Option.bind_eq_bind, Option.bind_some, hrest]
    rw [show timeIndex + 1 + n = timeIndex + (n + 1) by omega]
    cases intervalLoop info (timeIndex + (n + 1)) samples <;> rfl

/-- A session of failed collections, one sample before the last one, and the last one. -/
private theorem exists_session (n : Nat) {before readings : SampleReadings}
    (hbefore : Defined before)
    (hdefined : Defined readings) :
    ∃ outputs, getMemoryInfoByTimeInterval (List.replicate n failedSample ++ [before, readings]) =
        some outputs ∧
      outputs[n + 1]? = (intervalSample (objectAfter before) (n + 2) readings).map (·.2) := by
  obtain ⟨failed, hlength, hfailed⟩ := intervalLoop_failed n {} 1
  obtain ⟨output, houtput⟩ := intervalSample_objectAfter hbefore (1 + n)
  obtain ⟨result, hresult⟩ := exists_intervalSample hdefined (objectAfter before) (n + 2)
  have hindex : 1 + n + 1 = n + 2 := by omega
  refine ⟨failed ++ [output, result.2], ?_, ?_⟩
  · unfold getMemoryInfoByTimeInterval
    rw [hfailed]
    simp only [intervalLoop, houtput, hindex, hresult, Option.bind_eq_bind, Option.bind_some,
      Option.map_some]
  · rw [hresult, List.getElem?_append_right (by omega), hlength]
    simp

/-- The record and the PSS of the sample at position `k` of a session depend on what is
    collected for that sample only, in all sessions, exactly if it is the first sample
    or it is undefined or it refreshes all members it prints. -/
theorem record_own_iff (k : Nat) (readings : SampleReadings) :
    (∀ samples samples' outputs outputs',
      getMemoryInfoByTimeInterval samples = some outputs →
      getMemoryInfoByTimeInterval samples' = some outputs' →
      samples[k]? = some readings → samples'[k]? = some readings →
      outputs[k]? = outputs'[k]?) ↔
      k = 0 ∨ ¬ Defined readings ∨ Refreshes readings := by
  constructor
  -- Otherwise there are two sessions that only differ in the sample before.
  · intro hown
    by_contra hnot
    simp only [not_or, not_not] at hnot
    obtain ⟨hk, hdefined, hnot⟩ := hnot
    obtain ⟨n, rfl⟩ := Nat.exists_eq_succ_of_ne_zero hk
    obtain ⟨before, before', hbefore, hbefore', hne⟩ := exists_different_records hdefined hnot
    obtain ⟨outputs, hrun, houtput⟩ := exists_session n hbefore hdefined
    obtain ⟨outputs', hrun', houtput'⟩ := exists_session n hbefore' hdefined
    have hlast : ∀ sample : SampleReadings,
        (List.replicate n failedSample ++ [sample, readings])[n + 1]? = some readings := by
      intro sample
      rw [List.getElem?_append_right (by rw [List.length_replicate]; omega), List.length_replicate]
      simp
    have heq := hown _ _ _ _ hrun' hrun (hlast before') (hlast before)
    rw [houtput, houtput'] at heq
    exact hne (n + 2) heq
  -- In each case the output does not depend on the members that are left from before.
  · intro hcase samples samples' outputs outputs' hrun hrun' hk hk'
    obtain ⟨before, hfirst, result, hresult, houtput⟩ := intervalLoop_getElem hrun hk
    obtain ⟨before', hfirst', result', hresult', houtput'⟩ := intervalLoop_getElem hrun' hk'
    rw [houtput, houtput']
    obtain hzero | hundefined | hrefresh := hcase
    · rw [hfirst hzero] at hresult
      rw [hfirst' hzero, hresult] at hresult'
      rw [Option.some.inj hresult']
    · rw [intervalSample_of_not_defined hundefined] at hresult
      exact nomatch hresult
    · have hsame := intervalSample_congr hrefresh before before' (1 + k)
      rw [hresult, hresult', Option.map_some, Option.map_some] at hsame
      exact hsame.symm

/-- After a sample of one kilobyte, a failed collection appends that kilobyte again. -/
theorem failedSample_repeats_pss :
    (getMemoryInfoByTimeInterval [pssSample, failedSample]).map (·.map (·.2)) = some [1, 1] ∧
      (getMemoryInfoByTimeInterval [failedSample, failedSample]).map (·.map (·.2)) =
        some [0, 0] := by
  constructor <;> rfl

end Sessions

end HiDumper.Spec
