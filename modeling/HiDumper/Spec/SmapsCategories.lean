import HiDumper.ForStd.Padding
import HiDumper.Spec.SmapsSummary

/-!
# The categories of merged rows

Without `-v` the regions of a process are merged by name alone. The merged row keeps the
class and the inode of the region that was met first, and its category is made from these.
With `-v` every region has a category of its own. This module says which regions have the
same category in both tables.

## Key results

- `lookup_mergedMap`: a merged row has the class and the inode of one of its regions
- `showsEveryCategory_iff`: when the two tables agree on all categories
-/

namespace HiDumper.Spec

open HiDumper.Native ParseSmapsInfo SmapsMemoryInfo

/-! ## What is collected -/

/-- A region that is not skipped, with the text of its class. -/
abbrev ClassedRegion := String × UCollect.MemoryItem

/-- The regions of a detail. -/
def classedItems (detail : UCollect.MemoryDetail) : List ClassedRegion :=
  match memoryClassStr detail with
  | none => []
  | some cls => detail.items.map fun item => (cls, item)

/-- The regions that `GetSmapsData` does not skip, in the order of the details. -/
def classedRegions (details : List UCollect.MemoryDetail) : List ClassedRegion :=
  details.flatMap classedItems

private theorem classedRegions_cons (detail : UCollect.MemoryDetail)
    (details : List UCollect.MemoryDetail) :
    classedRegions (detail :: details) = classedItems detail ++ classedRegions details := rfl

/-- The data of a region in the detailed table. -/
def regionData (region : ClassedRegion) : MemoryData :=
  setMemoryData
    { permission := region.2.permission
      startAddr := region.2.startAddr
      endAddr := region.2.endAddr } region.2 region.1

/-- What one region does to the merged data. -/
def mergeRegion (merged : UnorderedMap String MemoryData) (region : ClassedRegion) :
    UnorderedMap String MemoryData :=
  merged.upsert region.2.name (setMemoryData {} region.2 region.1) (addMemoryItem region.2)

/-- `countSameNameMemMap` when all details are read. -/
def mergedMap (details : List UCollect.MemoryDetail) : UnorderedMap String MemoryData :=
  (details.foldl (addMemoryDetail false) (∅, [])).1

/-- Without `-v` the regions are merged by name. -/
private theorem foldl_addMemoryDetail_merged (details : List UCollect.MemoryDetail)
    (collected : UnorderedMap String MemoryData × List MemoryData) :
    (details.foldl (addMemoryDetail false) collected).1 =
      (classedRegions details).foldl mergeRegion collected.1 := by
  induction details generalizing collected with
  | nil => rfl
  | cons detail details ih =>
    rw [List.foldl_cons, ih, classedRegions_cons, List.foldl_append]
    congr 1
    cases hclass : memoryClassStr detail with
    | none => simp [addMemoryDetail, classedItems, hclass]
    | some cls =>
      simp [addMemoryDetail, classedItems, hclass, updateCountSameNameMemMap, List.foldl_map,
        mergeRegion]

/-- With `-v` every region is kept. -/
private theorem foldl_addMemoryDetail_detailed (details : List UCollect.MemoryDetail)
    (collected : UnorderedMap String MemoryData × List MemoryData) :
    (details.foldl (addMemoryDetail true) collected).2 =
      collected.2 ++ (classedRegions details).map regionData := by
  induction details generalizing collected with
  | nil => simp [classedRegions]
  | cons detail details ih =>
    rw [List.foldl_cons, ih, classedRegions_cons, List.map_append, ← List.append_assoc]
    congr 1
    cases hclass : memoryClassStr detail with
    | none => simp [addMemoryDetail, classedItems, hclass]
    | some cls =>
      simp [addMemoryDetail, classedItems, hclass, updateShowAddressMemInfoVec, regionData,
        Function.comp_def]

/-- A merged row has the class and the inode of one of its regions. -/
private theorem lookup_foldl_mergeRegion (regions : List ClassedRegion) {name : String}
    {data : MemoryData} (h : (regions.foldl mergeRegion ∅).lookup name = some data) :
    ∃ region ∈ regions, region.2.name = name ∧ data.memoryClass = region.1 ∧
      data.iNode = region.2.iNode := by
  induction regions using List.reverseRecOn generalizing data with
  | nil => exact nomatch h
  | append_singleton regions last ih =>
    rw [List.foldl_append, List.foldl_cons, List.foldl_nil, mergeRegion, AList.lookup_upsert] at h
    by_cases hname : name = last.2.name
    · -- The last region either begins a row or is added to one.
      rw [if_pos hname, Option.some.injEq] at h
      cases hold : (regions.foldl mergeRegion ∅).lookup last.2.name with
      | none =>
        rw [hold] at h
        exact ⟨last, by simp, hname.symm, by rw [← h]; rfl, by rw [← h]; rfl⟩
      | some old =>
        -- Adding a region to a known name leaves the class and the inode.
        obtain ⟨region, hmem, hregion, hclass, hnode⟩ := ih (hname ▸ hold)
        rw [hold] at h
        refine ⟨region, List.mem_append_left _ hmem, hregion, ?_, ?_⟩
        · rw [← h, ← hclass]
          rfl
        · rw [← h, ← hnode]
          rfl
    · rw [if_neg hname] at h
      obtain ⟨region, hmem, hregion⟩ := ih h
      exact ⟨region, List.mem_append_left _ hmem, hregion⟩

/-- The merged names are those of the regions. -/
private theorem mem_foldl_mergeRegion (regions : List ClassedRegion)
    (merged : UnorderedMap String MemoryData) (name : String) :
    name ∈ regions.foldl mergeRegion merged ↔
      name ∈ merged ∨ ∃ region ∈ regions, region.2.name = name := by
  induction regions generalizing merged with
  | nil => simp
  | cons region regions ih =>
    have hone : name ∈ mergeRegion merged region ↔ name ∈ merged ∨ region.2.name = name := by
      rw [← AList.lookup_isSome, mergeRegion, AList.lookup_upsert]
      by_cases hname : name = region.2.name
      · simp [hname]
      · rw [if_neg hname, AList.lookup_isSome]
        simp [eq_comm, hname]
    rw [List.foldl_cons, ih, hone, or_assoc]
    simp

/-! ## Categories -/

/-- The category of a class and an inode. -/
def categoryOf (cls : String) (iNode : UInt64) : String :=
  if cls = "other" then if iNode = 0 then "AnonPage other" else "FilePage other" else cls

/-- The Category cell: the one in front of the name. -/
def categoryCell (row : List String) : Option String := row.dropLast.getLast?

/-- The cell with the category of a row. -/
private theorem categoryCell_setOneRowMemInfo (widths : Widths) (isUserMode isShow isSummary : Bool)
    (data : MemoryData) :
    categoryCell (setOneRowMemInfo widths isUserMode data isShow isSummary) =
      some (setValueForRet (categoryOf data.memoryClass data.iNode)
        widths.categoryColumnWidth.toNat) := by
  have hcell : ∀ (front : List String) category name,
      categoryCell (front ++ [category, name]) = some category := by
    intro front category name
    rw [show front ++ [category, name] = front ++ [category] ++ [name] by simp, categoryCell,
      List.dropLast_concat, List.getLast?_concat]
  exact hcell _ _ _

/-- Cells of texts that do not end in a blank. -/
private theorem setValueForRet_inj {a b : String} {width : Nat} (ha : a.toList.getLast? ≠ some ' ')
    (hb : b.toList.getLast? ≠ some ' ') (heq : setValueForRet a width = setValueForRet b width) :
    a = b := by
  have hstrip : ∀ text : String, text.toList.getLast? ≠ some ' ' →
      (setValueForRet text width).toList.reverse.dropWhile (· = ' ') = text.toList.reverse := by
    intro text htext
    simp only [setValueForRet, setWidth, if_true, String.toList_append, String.toList_ofList,
      List.reverse_append, List.reverse_replicate]
    apply List.dropWhile_replicate_append
    rwa [List.head?_reverse]
  have hlist := hstrip a ha
  rw [heq, hstrip b hb, List.reverse_inj, String.toList_inj] at hlist
  exact hlist.symm

/-- A category tells the class, and for `other` whether the inode is zero. -/
private theorem categoryOf_eq_iff {cls cls' : String} (h : cls ∈ memoryClassVec)
    (h' : cls' ∈ memoryClassVec) (iNode iNode' : UInt64) :
    categoryOf cls iNode = categoryOf cls' iNode' ↔
      cls = cls' ∧ (cls = "other" → (iNode = 0 ↔ iNode' = 0)) := by
  -- No class of the table is called like one of the two that `other` is split into.
  have hpages : ∀ cls ∈ memoryClassVec, cls ≠ "AnonPage other" ∧ cls ≠ "FilePage other" := by
    decide
  obtain ⟨hanon, hfile⟩ := hpages cls h
  obtain ⟨hanon', hfile'⟩ := hpages cls' h'
  have hnames : "AnonPage other" ≠ "FilePage other" := by decide
  unfold categoryOf
  -- Only `other` looks at the inode.
  by_cases hcls : cls = "other"
  · by_cases hcls' : cls' = "other"
    · by_cases hnode : iNode = 0
      · by_cases hnode' : iNode' = 0 <;> simp [hcls, hcls', hnode, hnode']
      · by_cases hnode' : iNode' = 0 <;> simp [hcls, hcls', hnode, hnode']
    · rw [if_pos hcls, if_neg hcls']
      have hne : cls ≠ cls' := fun heq => hcls' (heq ▸ hcls)
      split
      · simp [hne, Ne.symm hanon']
      · simp [hne, Ne.symm hfile']
  · by_cases hcls' : cls' = "other"
    · rw [if_neg hcls, if_pos hcls']
      have hne : cls ≠ cls' := fun heq => hcls (heq ▸ hcls')
      split
      · simp [hne, hanon]
      · simp [hne, hfile]
    · simp [hcls, hcls']

/-- No category ends in a blank, so the padding can be taken off again. -/
private theorem getLast_categoryOf {cls : String} (h : cls ∈ memoryClassVec) (iNode : UInt64) :
    (categoryOf cls iNode).toList.getLast? ≠ some ' ' := by
  unfold categoryOf
  split
  · split
    · decide
    · decide
  · exact (by decide : ∀ cls ∈ memoryClassVec, cls.toList.getLast? ≠ some ' ') cls h

/-! ## The tables -/

/-- A detail whose class is in `MEMORY_CLASS_VEC`. -/
def ValidDetail (detail : UCollect.MemoryDetail) : Prop :=
  0 ≤ detail.memoryClass ∧ detail.memoryClass < memoryClassVec.length

instance (detail : UCollect.MemoryDetail) : Decidable (ValidDetail detail) :=
  inferInstanceAs (Decidable (_ ∧ _))

/-- The classes of valid details are in the table. -/
private theorem mem_memoryClassVec {details : List UCollect.MemoryDetail}
    (hvalid : ∀ d ∈ details, ValidDetail d) {region : ClassedRegion}
    (h : region ∈ classedRegions details) : region.1 ∈ memoryClassVec := by
  rw [classedRegions, List.mem_flatMap] at h
  obtain ⟨detail, hdetail, hregion⟩ := h
  obtain ⟨hlow, hhigh⟩ := hvalid detail hdetail
  have hlt : detail.memoryClass.toNat < memoryClassVec.length := by omega
  unfold classedItems at hregion
  -- A detail whose class the source skips has no regions here.
  cases hclass : memoryClassStr detail with
  | none =>
    rw [hclass] at hregion
    exact nomatch hregion
  | some cls =>
    rw [hclass] at hregion
    obtain ⟨item, -, rfl⟩ := List.mem_map.mp hregion
    simp only [memoryClassStr, List.getD_eq_getElem?_getD, List.getElem?_eq_getElem hlt,
      Option.getD_some] at hclass
    split at hclass
    · exact nomatch hclass
    · split at hclass
      · exact nomatch hclass
      · exact Option.some.inj hclass ▸ List.getElem_mem hlt

/-- The entries of the merged table, in the order of their rows. -/
def mergedEntries (details : List UCollect.MemoryDetail) :
    List (Sigma fun _ : String => MemoryData) :=
  (mergedMap details).entries.mergeSort fun a b => decide (a.1 ≤ b.1)

/-- The name of each row of the merged table. -/
def mergedNames (details : List UCollect.MemoryDetail) : List String :=
  (mergedEntries details).map (·.1)

/-- The category of every merged row is the one that each of its regions has in the detailed
    table. The rows of the merged table are those of `mergedNames`, and the rows of the
    detailed one those of the regions. -/
def ShowsEveryCategory (isUserMode : Bool) (details : List UCollect.MemoryDetail) : Prop :=
  ∃ merged detailed, showMemorySmapsByPid isUserMode (some details) false = some merged ∧
    showMemorySmapsByPid isUserMode (some details) true = some detailed ∧
    (dataRows merged).length = (mergedNames details).length ∧
    (dataRows detailed).length = (classedRegions details).length ∧
    ∀ (i j : Nat) (name : String) (region : ClassedRegion), (mergedNames details)[i]? = some name →
      (classedRegions details)[j]? = some region → region.2.name = name →
      (dataRows merged)[i]?.bind categoryCell = (dataRows detailed)[j]?.bind categoryCell

/-- Regions of one name have one class, and those of class `other` one kind of inode. -/
def OneCategoryPerName (details : List UCollect.MemoryDetail) : Prop :=
  ∀ r ∈ classedRegions details, ∀ r' ∈ classedRegions details, r.2.name = r'.2.name →
    r.1 = r'.1 ∧ (r.1 = "other" → (r.2.iNode = 0 ↔ r'.2.iNode = 0))

/-- The rows of the merged table. -/
private theorem dataRows_merged (isUserMode : Bool) (details : List UCollect.MemoryDetail) :
    ∃ merged, showMemorySmapsByPid isUserMode (some details) false = some merged ∧
      dataRows merged = (mergedEntries details).map fun entry =>
        setOneRowMemInfo (Widths.adapt {}) isUserMode entry.2 false false := by
  refine ⟨_, rfl, ?_⟩
  simp only [Bool.false_eq_true, if_false, updateCountSameNameMemResult, dataRows_append,
    countSameNameMemVec, List.map_map]
  rfl

/-- The rows of the detailed one. -/
private theorem dataRows_detailed (isUserMode : Bool) (details : List UCollect.MemoryDetail) :
    ∃ detailed, showMemorySmapsByPid isUserMode (some details) true = some detailed ∧
      dataRows detailed = (classedRegions details).map fun region =>
        setOneRowMemInfo (Widths.adapt {}) isUserMode (regionData region) true false := by
  refine ⟨_, rfl, ?_⟩
  simp only [if_true, updateShowAddressMemInfoResult, dataRows_append,
    foldl_addMemoryDetail_detailed, List.nil_append, List.map_map]
  rfl

/-- The cell of a merged row and the cell of a region. -/
private theorem categoryCells_eq_iff {isUserMode : Bool} {details : List UCollect.MemoryDetail}
    (hvalid : ∀ d ∈ details, ValidDetail d) {data : MemoryData} {source region : ClassedRegion}
    (hsource : source ∈ classedRegions details) (hregion : region ∈ classedRegions details)
    (hclass : data.memoryClass = source.1) (hnode : data.iNode = source.2.iNode) :
    categoryCell (setOneRowMemInfo (Widths.adapt {}) isUserMode data false false) =
        categoryCell (setOneRowMemInfo (Widths.adapt {}) isUserMode (regionData region) true
          false) ↔
      source.1 = region.1 ∧ (source.1 = "other" → (source.2.iNode = 0 ↔ region.2.iNode = 0)) := by
  have hmemSource := mem_memoryClassVec hvalid hsource
  have hmemRegion := mem_memoryClassVec hvalid hregion
  rw [categoryCell_setOneRowMemInfo, categoryCell_setOneRowMemInfo, Option.some.injEq, hclass,
    hnode, ← categoryOf_eq_iff hmemSource hmemRegion]
  constructor
  · intro heq
    exact setValueForRet_inj (getLast_categoryOf hmemSource _) (getLast_categoryOf hmemRegion _) heq
  · intro heq
    rw [heq]
    rfl

/-- Every region has a row in the merged table. -/
private theorem exists_mergedEntry {details : List UCollect.MemoryDetail} {region : ClassedRegion}
    (h : region ∈ classedRegions details) :
    ∃ entry ∈ mergedEntries details, entry.1 = region.2.name := by
  have hmem : region.2.name ∈ mergedMap details := by
    rw [mergedMap, foldl_addMemoryDetail_merged, mem_foldl_mergeRegion]
    exact .inr ⟨region, h, rfl⟩
  rw [AList.mem_keys, AList.keys, List.keys, List.mem_map] at hmem
  obtain ⟨entry, hentry, hname⟩ := hmem
  exact ⟨entry, (List.mergeSort_perm _ _).mem_iff.mpr hentry, hname⟩

/-- A row of the merged table has the class and the inode of one of its regions. -/
private theorem exists_source {details : List UCollect.MemoryDetail}
    {entry : Sigma fun _ : String => MemoryData} (h : entry ∈ mergedEntries details) :
    ∃ source ∈ classedRegions details, source.2.name = entry.1 ∧
      entry.2.memoryClass = source.1 ∧ entry.2.iNode = source.2.iNode := by
  have hmem : entry ∈ (mergedMap details).entries := (List.mergeSort_perm _ _).mem_iff.mp h
  have hlookup : (mergedMap details).lookup entry.1 = some entry.2 :=
    AList.lookup_eq_some_iff.mpr hmem
  rw [mergedMap, foldl_addMemoryDetail_merged] at hlookup
  exact lookup_foldl_mergeRegion _ hlookup

/-- Both regions of a name have the category of the row they are merged into. -/
private theorem oneCategory_of_shows {isUserMode : Bool} {details : List UCollect.MemoryDetail}
    (hvalid : ∀ d ∈ details, ValidDetail d) (h : ShowsEveryCategory isUserMode details) :
    OneCategoryPerName details := by
  obtain ⟨merged, detailed, hmerged, hdetailed, -, -, hcells⟩ := h
  obtain ⟨merged', hmerged', hmergedRows⟩ := dataRows_merged isUserMode details
  obtain ⟨detailed', hdetailed', hdetailedRows⟩ := dataRows_detailed isUserMode details
  obtain rfl : merged' = merged := Option.some.inj (hmerged'.symm.trans hmerged)
  obtain rfl : detailed' = detailed := Option.some.inj (hdetailed'.symm.trans hdetailed)
  intro r hr r' hr' hname
  obtain ⟨entry, hentry, hentryName⟩ := exists_mergedEntry hr
  obtain ⟨source, hsource, hsourceName, hclass, hnode⟩ := exists_source hentry
  obtain ⟨i, hi⟩ := List.mem_iff_getElem?.mp hentry
  -- The cell of the row against the cell of each of its regions.
  have hsame : ∀ region ∈ classedRegions details, region.2.name = entry.1 →
      source.1 = region.1 ∧
        (source.1 = "other" → (source.2.iNode = 0 ↔ region.2.iNode = 0)) := by
    intro region hregion hregionName
    obtain ⟨j, hj⟩ := List.mem_iff_getElem?.mp hregion
    have hcell := hcells i j entry.1 region (by simp [mergedNames, hi]) hj hregionName
    rw [hmergedRows, hdetailedRows, List.getElem?_map, List.getElem?_map, hi, hj] at hcell
    exact (categoryCells_eq_iff hvalid hsource hregion hclass hnode).mp hcell
  obtain ⟨hclassR, hnodeR⟩ := hsame r hr hentryName.symm
  obtain ⟨hclassR', hnodeR'⟩ := hsame r' hr' (hname.symm.trans hentryName.symm)
  refine ⟨hclassR.symm.trans hclassR', fun hother => ?_⟩
  have hsourceOther := hclassR.trans hother
  rw [← hnodeR hsourceOther, hnodeR' hsourceOther]

/-- The row of a name has the category of one of its regions, and so that of all of them. -/
private theorem shows_of_oneCategory (isUserMode : Bool) {details : List UCollect.MemoryDetail}
    (hvalid : ∀ d ∈ details, ValidDetail d) (h : OneCategoryPerName details) :
    ShowsEveryCategory isUserMode details := by
  obtain ⟨merged, hmerged, hmergedRows⟩ := dataRows_merged isUserMode details
  obtain ⟨detailed, hdetailed, hdetailedRows⟩ := dataRows_detailed isUserMode details
  refine ⟨merged, detailed, hmerged, hdetailed, ?_, ?_, ?_⟩
  · rw [hmergedRows, mergedNames, List.length_map, List.length_map]
  · rw [hdetailedRows, List.length_map]
  · intro i j name region hi hj hname
    rw [mergedNames, List.getElem?_map, Option.map_eq_some_iff] at hi
    obtain ⟨entry, hi, rfl⟩ := hi
    obtain ⟨source, hsource, hsourceName, hclass, hnode⟩ :=
      exists_source (List.mem_of_getElem? hi)
    have hregion := List.mem_of_getElem? hj
    have hsame := h source hsource region hregion (hsourceName.trans hname.symm)
    rw [hmergedRows, hdetailedRows, List.getElem?_map, List.getElem?_map, hi, hj]
    exact (categoryCells_eq_iff hvalid hsource hregion hclass hnode).mpr hsame

/-- The two tables agree on all categories just when regions of one name have one category. -/
theorem showsEveryCategory_iff (isUserMode : Bool) (details : List UCollect.MemoryDetail)
    (hvalid : ∀ d ∈ details, ValidDetail d) :
    ShowsEveryCategory isUserMode details ↔ OneCategoryPerName details :=
  ⟨oneCategory_of_shows hvalid, shows_of_oneCategory isUserMode hvalid⟩

/-- One name in the class `dev` and in the class `other`. -/
def devTwice : List UCollect.MemoryDetail :=
  [{ memoryClass := 4, items := [{ name := "/dev/ashmem" }] },
    { memoryClass := 18, items := [{ name := "/dev/ashmem", iNode := 7 }] }]

/-- One name twice, with one category. -/
theorem showsEveryCategory_iff_devTwice :
    (∀ d ∈ devTwice, ValidDetail d) ∧
      (ShowsEveryCategory false devTwice ↔ OneCategoryPerName devTwice) :=
  ⟨by decide, showsEveryCategory_iff false devTwice (by decide)⟩

/-- One row is shown for the two regions, with one of their two categories. -/
theorem not_showsEveryCategory_devTwice : ¬ShowsEveryCategory false devTwice := by
  intro h
  have hone := oneCategory_of_shows (by decide) h
  have hclasses := hone ("dev", { name := "/dev/ashmem" }) (by decide)
    ("other", { name := "/dev/ashmem", iNode := 7 }) (by decide) rfl
  exact absurd hclasses.1 (by decide)

end HiDumper.Spec
