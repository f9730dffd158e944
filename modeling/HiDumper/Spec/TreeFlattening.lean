import HiDumper.Native.ConfigNodes
import HiDumper.Spec.ConfigExpansion

/-!
# From a tree of objects to a list

`SetSection` and `ConvertTreeToList` walk over a forest of `DumpCfg` objects and change
it while they do. `LaidOut` says that the objects form a given forest; for distinct
objects on at most `NEST_MAX + 1` levels the two functions are described by the forest
alone.

Key results:
* `setSection_eq`: the section is set on the dumpers of the forest and on nothing else
* `convertTreeToList_spec`: the list, the parents and the cleared `childs_`
* `addTree_spec`: both together, as `GetGroup` runs them
* `TreeListed.entries_eq`: they compute what `ConfigUtils` has for the tree as a value
-/

namespace HiDumper.Spec

open HiDumper.Native

/-- The objects of the forest have the objects right below them as their `childs_`. -/
def LaidOut (heap : CfgHeap) : Forest CfgRef → Prop
  | .nil => True
  | .cons item childs rest =>
    (heap item).childs = childs.roots.map some ∧ LaidOut heap childs ∧ LaidOut heap rest

/-- A forest stays laid out while the lists of its nodes do not change. -/
theorem LaidOut.congr {heap heap' : CfgHeap} {forest : Forest CfgRef}
    (h : LaidOut heap forest) (heq : ∀ ref ∈ forest.preorder, (heap' ref).childs = (heap ref).childs) :
    LaidOut heap' forest := by
  induction forest with
  | nil => trivial
  | cons item childs rest ihc ihr =>
    simp only [Forest.preorder_cons, List.mem_cons, List.mem_append] at heq
    obtain ⟨hitem, hchilds, hrest⟩ := h
    refine ⟨(heq item (.inl rfl)).trans hitem, ihc hchilds ?_, ihr hrest ?_⟩
    · exact fun ref href => heq ref (.inr (.inl href))
    · exact fun ref href => heq ref (.inr (.inr href))

@[simp] theorem modify_self (heap : CfgHeap) (ref : CfgRef) (f : CfgNode → CfgNode) :
    heap.modify ref f ref = f (heap ref) :=
  Function.update_self ..

private theorem modify_of_ne {heap : CfgHeap} {ref other : CfgRef} (h : other ≠ ref)
    (f : CfgNode → CfgNode) : heap.modify ref f other = heap other :=
  Function.update_of_ne h ..

/-! ## SetSection -/

/-- A node after `SetSection` came to it. -/
def withSection (sectionName : String) (node : CfgNode) : CfgNode :=
  if node.cfg.isDumper then { node with cfg := { node.cfg with sectionName } } else node

@[simp] theorem withSection_childs (sectionName : String) (node : CfgNode) :
    (withSection sectionName node).childs = node.childs := by
  unfold withSection
  split <;> rfl

@[simp] theorem withSection_parent (sectionName : String) (node : CfgNode) :
    (withSection sectionName node).parent = node.parent := by
  unfold withSection
  split <;> rfl

/-- The objects after `SetSection` came to those of a list. -/
def sectionOn (sectionName : String) (refs : List CfgRef) (heap : CfgHeap) : CfgHeap :=
  fun ref => if ref ∈ refs then withSection sectionName (heap ref) else heap ref

@[simp] theorem sectionOn_childs (sectionName : String) (refs : List CfgRef) (heap : CfgHeap)
    (ref : CfgRef) : (sectionOn sectionName refs heap ref).childs = (heap ref).childs := by
  unfold sectionOn
  split
  · exact withSection_childs _ _
  · rfl

@[simp] theorem sectionOn_nil (sectionName : String) (heap : CfgHeap) :
    sectionOn sectionName [] heap = heap := by
  funext ref
  exact if_neg List.not_mem_nil

/-- Sections that are set on one part and then on another. -/
private theorem sectionOn_append {sectionName : String} {refs refs' : List CfgRef}
    (hdisjoint : refs.Disjoint refs') (heap : CfgHeap) :
    sectionOn sectionName refs' (sectionOn sectionName refs heap) =
      sectionOn sectionName (refs ++ refs') heap := by
  funext ref
  simp only [sectionOn, List.mem_append]
  by_cases hleft : ref ∈ refs
  · have hright : ref ∉ refs' := hdisjoint hleft
    simp [hleft, hright]
  · simp [hleft]

/-- The round for one object, whatever is done for its `childs_`. -/
private theorem setSectionItem_some (below : CfgHeap → List (Option CfgRef) → CfgHeap)
    (sectionName : String) (heap : CfgHeap) (item : CfgRef) :
    heap.setSectionItem below sectionName (some item) =
      if (heap item).childs = [] then sectionOn sectionName [item] heap
      else below (sectionOn sectionName [item] heap) (heap item).childs := by
  have hheap : (if (heap item).cfg.isDumper then
      heap.modify item fun node => { node with cfg := { node.cfg with sectionName } } else heap) =
      sectionOn sectionName [item] heap := by
    funext ref
    by_cases href : ref = item
    · subst href
      simp only [sectionOn, List.mem_singleton, if_true, withSection]
      split
      · exact modify_self ..
      · rfl
    · simp only [sectionOn, List.mem_singleton, href, if_false]
      split
      · exact modify_of_ne href _
      · rfl
  simp only [CfgHeap.setSectionItem, hheap, sectionOn_childs]

/-- The loop sets the section of every node of the forest. -/
private theorem foldl_setSectionItem {sectionName : String} {levels : Nat} {heap : CfgHeap}
    {forest : Forest CfgRef} (hlaid : LaidOut heap forest) (hdistinct : forest.preorder.Nodup)
    (hheight : forest.height ≤ levels + 1) :
    (forest.roots.map some).foldl
        (CfgHeap.setSectionItem (CfgHeap.setSection sectionName levels) sectionName) heap =
      sectionOn sectionName forest.preorder heap := by
  -- Induction on the forest: the object, the forest below it, the forest right of it.
  induction forest generalizing levels heap with
  | nil => simp [Forest.roots]
  | cons item childs rest ihc ihr =>
    obtain ⟨hitem, hchilds, hrest⟩ := hlaid
    simp only [Forest.preorder_cons, List.nodup_cons, List.nodup_append', List.mem_append,
      not_or] at hdistinct
    obtain ⟨⟨hnotChilds, hnotRest⟩, hnodupc, hnodupr, hdisjoint⟩ := hdistinct
    simp only [Forest.height, Nat.max_le] at hheight
    have hbelow : heap.setSectionItem (CfgHeap.setSection sectionName levels) sectionName
        (some item) = sectionOn sectionName (item :: childs.preorder) heap := by
      rw [setSectionItem_some, hitem]
      cases childs with
      | nil => simp [Forest.roots]
      | cons first below right =>
        cases levels with
        | zero => simp [Forest.height] at hheight
        | succ levels =>
          rw [if_neg (by simp [Forest.roots]), CfgHeap.setSection,
            ihc (hchilds.congr fun _ _ => sectionOn_childs ..) hnodupc (by omega),
            sectionOn_append (by simpa using hnotChilds)]
          rfl
    rw [Forest.roots, List.map_cons, List.foldl_cons, hbelow,
      ihr (hrest.congr fun _ _ => sectionOn_childs ..) hnodupr hheight.2,
      sectionOn_append]
    · simp [Forest.preorder]
    · simpa using ⟨hnotRest, hdisjoint⟩

/-- `SetSection` sets the section on the dumpers of the forest and changes nothing else. -/
theorem setSection_eq {sectionName : String} {levels : Nat} {heap : CfgHeap}
    {forest : Forest CfgRef} (hlaid : LaidOut heap forest) (hdistinct : forest.preorder.Nodup)
    (hheight : forest.height ≤ levels) :
    CfgHeap.setSection sectionName levels heap (forest.roots.map some) =
      sectionOn sectionName forest.preorder heap := by
  cases levels with
  | zero =>
    cases forest with
    | nil => simp [CfgHeap.setSection]
    | cons item childs rest => simp [Forest.height] at hheight
  | succ levels => exact foldl_setSectionItem hlaid hdistinct hheight

/-! ## ConvertTreeToList -/

/-- The objects after the forest among them was flattened: it leaves their `parent_` as
    the only trace of its shape. -/
structure Flattened (forest : Forest CfgRef) (heap heap' : CfgHeap) : Prop where
  cfg : ∀ ref, (heap' ref).cfg = (heap ref).cfg
  childs : ∀ ref ∈ forest.preorder, (heap' ref).childs = []
  edge : ∀ upper lower, (upper, lower) ∈ forest.edges → (heap' lower).parent = some upper
  root : ∀ ref ∈ forest.roots, (heap' ref).parent = (heap ref).parent
  other : ∀ ref, ref ∉ forest.preorder → heap' ref = heap ref

/-- The objects after those of a list got `item` as their parent. -/
def adopted (item : CfgRef) (refs : List CfgRef) (heap : CfgHeap) : CfgHeap :=
  fun ref => if ref ∈ refs then { heap ref with parent := some item } else heap ref

/-- The loop makes a node the parent of its children. -/
private theorem foldlM_setParent (item : CfgRef) (refs : List CfgRef) (heap : CfgHeap) :
    (refs.map some).foldlM (CfgHeap.setParent item) heap = some (adopted item refs heap) := by
  induction refs generalizing heap with
  | nil => rfl
  | cons first refs ih =>
    rw [List.map_cons, List.foldlM_cons]
    show (refs.map some).foldlM (CfgHeap.setParent item) _ = _
    rw [ih, Option.some.injEq]
    funext ref
    simp only [adopted, List.mem_cons]
    by_cases href : ref = first
    · subst href
      simp
    · simp [href, modify_of_ne href]

@[simp] theorem adopted_cfg (item : CfgRef) (refs : List CfgRef) (heap : CfgHeap) (ref : CfgRef) :
    (adopted item refs heap ref).cfg = (heap ref).cfg := by
  unfold adopted
  split <;> rfl

@[simp] theorem adopted_childs (item : CfgRef) (refs : List CfgRef) (heap : CfgHeap)
    (ref : CfgRef) : (adopted item refs heap ref).childs = (heap ref).childs := by
  unfold adopted
  split <;> rfl

/-- `item->childs_.clear()`. -/
def cleared (item : CfgRef) (heap : CfgHeap) : CfgHeap :=
  heap.modify item fun node => { node with childs := [] }

/-- Without trees nothing has to be done. -/
theorem Flattened.nil (heap : CfgHeap) : Flattened .nil heap heap where
  cfg _ := rfl
  childs _ h := nomatch h
  edge _ _ h := nomatch h
  root _ h := nomatch h
  other _ _ := rfl

/-- The parts of a forest one after the other: the objects right below the first one get
    it as their parent, what is below it is flattened, its `childs_` are cleared, and what
    is right of it is flattened. -/
theorem Flattened.cons {item : CfgRef} {childs rest : Forest CfgRef} {heap heap₁ heap₂ : CfgHeap}
    (hdistinct : (Forest.cons item childs rest).preorder.Nodup)
    (hbelow : Flattened childs (adopted item childs.roots heap) heap₁)
    (hright : Flattened rest (cleared item heap₁) heap₂) :
    Flattened (.cons item childs rest) heap heap₂ := by
  simp only [Forest.preorder_cons, List.nodup_cons, List.nodup_append', List.mem_append,
    not_or] at hdistinct
  obtain ⟨⟨hnotChilds, hnotRest⟩, -, -, hdisjoint⟩ := hdistinct
  -- What the last part does not touch is as the first three left it, and so on back.
  have hitem : heap₂ item = { heap₁ item with childs := [] } :=
    (hright.other item hnotRest).trans (modify_self ..)
  have hchild : ∀ ref ∈ childs.preorder, heap₂ ref = heap₁ ref := by
    intro ref href
    have hne : ref ≠ item := fun heq => hnotChilds (heq ▸ href)
    exact (hright.other ref (hdisjoint href)).trans (modify_of_ne hne _)
  have houtside : ∀ ref, ref ∉ childs.preorder → heap₁ ref = heap ref := by
    intro ref href
    have hroot : ref ∉ childs.roots := fun h => href (childs.roots_subset_preorder h)
    exact (hbelow.other ref href).trans (if_neg hroot)
  have hcleared : ∀ ref, ref ∉ childs.preorder → ref ≠ item → cleared item heap₁ ref = heap ref :=
    fun ref href hne => (modify_of_ne hne _).trans (houtside ref href)
  constructor
  case cfg =>
    intro ref
    rw [hright.cfg, ← adopted_cfg item childs.roots heap ref, ← hbelow.cfg]
    by_cases href : ref = item
    · subst href
      rw [cleared, modify_self]
    · rw [cleared, modify_of_ne href]
  case childs =>
    intro ref href
    simp only [Forest.preorder_cons, List.mem_cons, List.mem_append] at href
    obtain rfl | href | href := href
    · rw [hitem]
    · rw [hchild ref href]
      exact hbelow.childs ref href
    · exact hright.childs ref href
  case edge =>
    intro upper lower h
    simp only [Forest.edges, List.mem_append, List.mem_map, Prod.mk.injEq] at h
    obtain ⟨root, hroot, rfl, rfl⟩ | h | h := h
    · rw [hchild root (childs.roots_subset_preorder hroot), hbelow.root root hroot]
      exact congrArg CfgNode.parent (if_pos hroot)
    · rw [hchild lower (Forest.mem_preorder_of_edge h).2]
      exact hbelow.edge upper lower h
    · exact hright.edge upper lower h
  case root =>
    intro ref href
    simp only [Forest.roots, List.mem_cons] at href
    obtain rfl | href := href
    · rw [hitem, houtside ref hnotChilds]
    · have hmem := rest.roots_subset_preorder href
      rw [hright.root ref href, hcleared ref (hdisjoint · hmem) fun heq => hnotRest (heq ▸ hmem)]
  case other =>
    intro ref href
    simp only [Forest.preorder_cons, List.mem_cons, List.mem_append, not_or] at href
    obtain ⟨hne, hchilds, hrest⟩ := href
    rw [hright.other ref hrest, hcleared ref hchilds hne]

/-- The loop lists the nodes of the forest in preorder. -/
private theorem foldlM_convertItem {levels : Nat} {heap : CfgHeap} {used : List CfgRef}
    {forest : Forest CfgRef} (hlaid : LaidOut heap forest) (hdistinct : forest.preorder.Nodup)
    (hheight : forest.height ≤ levels + 1) :
    ∃ heap', (forest.roots.map some).foldlM
        (CfgHeap.convertItem (CfgHeap.convertTreeToList levels)) (heap, used) =
          some (heap', used ++ forest.preorder) ∧ Flattened forest heap heap' := by
  induction forest generalizing levels heap used with
  | nil => exact ⟨heap, by simp [Forest.roots], .nil heap⟩
  | cons item childs rest ihc ihr =>
    obtain ⟨hitem, hchilds, hrest⟩ := hlaid
    have hparts := hdistinct
    simp only [Forest.preorder_cons, List.nodup_cons, List.nodup_append', List.mem_append,
      not_or] at hparts
    obtain ⟨⟨hnotChilds, hnotRest⟩, hnodupc, hnodupr, hdisjoint⟩ := hparts
    simp only [Forest.height, Nat.max_le] at hheight
    have hround : ∃ heap₁, CfgHeap.convertItem (CfgHeap.convertTreeToList levels) (heap, used)
        (some item) = some (cleared item heap₁, used ++ item :: childs.preorder) ∧
        Flattened childs (adopted item childs.roots heap) heap₁ := by
      cases childs with
      | nil =>
        -- Nothing is below: the round leaves the objects as they are.
        have hsame : cleared item heap = heap := by
          funext ref
          by_cases href : ref = item
          · subst href
            rw [cleared, modify_self]
            exact congrArg (CfgNode.mk _ _) hitem.symm
          · exact modify_of_ne href _
        refine ⟨heap, ?_, .nil heap⟩
        simp [CfgHeap.convertItem, hitem, Forest.roots, hsame]
      | cons first below right =>
        cases levels with
        | zero => simp [Forest.height] at hheight
        | succ levels =>
          obtain ⟨heap₁, hrun, hflat⟩ := @ihc levels
            (adopted item (Forest.cons first below right).roots heap) []
            (hchilds.congr fun _ _ => adopted_childs ..) hnodupc (by omega)
          refine ⟨heap₁, ?_, hflat⟩
          have hkept : (heap₁ item).childs = (Forest.cons first below right).roots.map some := by
            rw [hflat.other item hnotChilds, adopted_childs, hitem]
          simp only [CfgHeap.convertItem, hitem, foldlM_setParent, CfgHeap.convertTreeToList,
            hrun, Option.bind_eq_bind, Option.bind_some, hkept]
          simp [Forest.roots, cleared]
    obtain ⟨heap₁, hrun₁, hflat₁⟩ := hround
    have hrest₁ : LaidOut (cleared item heap₁) rest := by
      apply hrest.congr
      intro ref href
      have hne : ref ≠ item := fun heq => hnotRest (heq ▸ href)
      rw [cleared, modify_of_ne hne, hflat₁.other ref (hdisjoint · href), adopted_childs]
    obtain ⟨heap₂, hrun₂, hflat₂⟩ := @ihr levels _ (used ++ item :: childs.preorder) hrest₁ hnodupr
      hheight.2
    refine ⟨heap₂, ?_, hflat₁.cons hdistinct hflat₂⟩
    rw [Forest.roots, List.map_cons, List.foldlM_cons, hrun₁]
    show (rest.roots.map some).foldlM _ _ = _
    rw [hrun₂]
    simp

/-- `ConvertTreeToList` appends the forest in pre-order and flattens it. -/
theorem convertTreeToList_spec {levels : Nat} {heap : CfgHeap} {list : List CfgRef}
    {forest : Forest CfgRef} (hlaid : LaidOut heap forest) (hdistinct : forest.preorder.Nodup)
    (hheight : forest.height ≤ levels) :
    ∃ heap', CfgHeap.convertTreeToList levels heap (forest.roots.map some) list =
        some (heap', list ++ forest.preorder) ∧ Flattened forest heap heap' := by
  cases levels with
  | zero =>
    cases forest with
    | nil => exact ⟨heap, by simp [CfgHeap.convertTreeToList], .nil heap⟩
    | cons item childs rest => simp [Forest.height] at hheight
  | succ levels =>
    obtain ⟨heap', hrun, hflat⟩ := @foldlM_convertItem levels heap [] forest hlaid hdistinct hheight
    refine ⟨heap', ?_, hflat⟩
    simp [CfgHeap.convertTreeToList, hrun]

/-! ## Both together -/

/-- What the tree of a group comes to: the objects `heap'` and the list `result'` after
    the forest was added to `result`. -/
structure TreeListed (forest : Forest CfgRef) (sectionName : String) (heap : CfgHeap)
    (result : List CfgRef) (heap' : CfgHeap) (result' : List CfgRef) : Prop where
  /-- The forest in pre-order. -/
  list : result' = result ++ forest.preorder
  /-- The section on every dumper of the forest, and on no other object. -/
  dumper : ∀ ref ∈ forest.preorder, (heap ref).cfg.isDumper →
    (heap' ref).cfg = { (heap ref).cfg with sectionName }
  plain : ∀ ref ∈ forest.preorder, ¬ (heap ref).cfg.isDumper → (heap' ref).cfg = (heap ref).cfg
  /-- The parent of every object below another one, which the list has earlier. -/
  parent : ∀ upper lower, (upper, lower) ∈ forest.edges → (heap' lower).parent = some upper
  earlier : ∀ ref ∈ forest.preorder, ref ∉ forest.roots →
    ∃ upper, (heap' ref).parent = some upper ∧ (upper, ref) ∈ forest.edges ∧
      [upper, ref].Sublist result'
  root : ∀ ref ∈ forest.roots, (heap' ref).parent = (heap ref).parent
  childs : ∀ ref ∈ forest.preorder, (heap' ref).childs = []
  /-- All other objects stay as they are. -/
  other : ∀ ref, ref ∉ forest.preorder → heap' ref = heap ref

/-- For distinct objects on the levels up to `NEST_MAX`. -/
theorem addTree_spec (heap : CfgHeap) (forest : Forest CfgRef) (sectionName : String)
    (result : List CfgRef) (hlaid : LaidOut heap forest) (hdistinct : forest.preorder.Nodup)
    (hdepth : forest.depth ≤ ConfigData.nestMax) :
    ∃ heap' result', heap.addTree sectionName (forest.roots.map some) result =
        some (heap', result') ∧ TreeListed forest sectionName heap result heap' result' := by
  have hheight : forest.height ≤ ConfigData.nestMax + 1 := by
    unfold Forest.depth at hdepth
    omega
  -- The section changes no link, so the forest is still laid out for the second walk.
  have hlaid' : LaidOut (sectionOn sectionName forest.preorder heap) forest :=
    hlaid.congr fun _ _ => sectionOn_childs ..
  obtain ⟨heap', hrun, hflat⟩ := @convertTreeToList_spec _ _ result _ hlaid' hdistinct hheight
  refine ⟨heap', result ++ forest.preorder, ?_, ?_⟩
  · rw [CfgHeap.addTree, setSection_eq hlaid hdistinct hheight]
    exact hrun
  constructor
  case list => rfl
  case dumper =>
    intro ref href hdumper
    rw [hflat.cfg, sectionOn, if_pos href, withSection, if_pos hdumper]
  case plain =>
    intro ref href hplain
    rw [hflat.cfg, sectionOn, if_pos href, withSection, if_neg hplain]
  case parent => exact hflat.edge
  case earlier =>
    intro ref href hroot
    obtain ⟨upper, hedge⟩ := (Forest.root_or_edge href).resolve_left hroot
    have hsub := (Forest.sublist_preorder_of_edge hedge).trans (List.sublist_append_right result _)
    exact ⟨upper, hflat.edge upper ref hedge, hedge, hsub⟩
  case root =>
    intro ref href
    rw [hflat.root ref href, sectionOn, if_pos (forest.roots_subset_preorder href),
      withSection_parent]
  case childs => exact hflat.childs
  case other =>
    intro ref href
    rw [hflat.other ref href, sectionOn, if_neg href]

/-- A group with a dumper, a filter and a minigroup that has a dumper of its own. -/
def nestedHeap : CfgHeap := fun ref =>
  match ref with
  | 0 => { cfg := { cls := .group }, childs := [some 1, some 2, some 3] }
  | 1 => { cfg := { cls := .fileDumper } }
  | 3 => { cfg := { cls := .group }, childs := [some 4] }
  | 4 => { cfg := { cls := .cmdDumper } }
  | _ => {}

/-- The objects of that group. -/
def nestedForest : Forest CfgRef :=
  .cons 0 (.cons 1 .nil (.cons 2 .nil (.cons 3 (.cons 4 .nil .nil) .nil))) .nil

/-- A tree with two levels. -/
theorem addTree_spec_nested :
    ∃ heap' result', nestedHeap.addTree "base" [some 0] [9] = some (heap', result') ∧
      TreeListed nestedForest "base" nestedHeap [9] heap' result' :=
  addTree_spec nestedHeap nestedForest "base" [9]
    ⟨rfl, ⟨rfl, trivial, rfl, trivial, rfl, ⟨rfl, trivial, trivial⟩, trivial⟩, trivial⟩
    (by decide) (by decide)

/-! ## The tree as a value -/

/-- The list of a tree, if every node has its position and that of its parent. -/
private theorem convertTreeToList_map {cfgOf : CfgRef → DumpCfg} {parentOf : CfgRef → Option Nat}
    {pos : CfgRef → Nat} {forest : Forest CfgRef} {nest base : Nat} {parent : Option Nat}
    (hheight : nest + forest.height ≤ ConfigData.nestMax + 1)
    (hpos : forest.preorder.map pos = List.range' base forest.preorder.length)
    (hroot : ∀ ref ∈ forest.roots, parentOf ref = parent)
    (hedge : ∀ upper lower, (upper, lower) ∈ forest.edges → parentOf lower = some (pos upper)) :
    ConfigUtils.convertTreeToList (forest.map cfgOf) nest base parent =
      forest.preorder.map fun ref => ⟨cfgOf ref, parentOf ref⟩ := by
  induction forest generalizing nest base parent with
  | nil => rfl
  | cons item childs rest ihc ihr =>
    simp only [Forest.height] at hheight
    simp only [Forest.preorder_cons, List.map_cons, List.map_append, List.length_cons,
      List.length_append, List.range'_succ, List.cons.injEq, ← List.range'_append_1] at hpos
    obtain ⟨hitem, hrest⟩ := hpos
    -- The positions are those of the node, then of the trees below it, then of the others.
    have hsplit := List.append_inj hrest (by simp)
    simp only [Forest.edges, List.mem_append, List.mem_map, Prod.mk.injEq] at hedge
    have hbelow := @ihc (nest + 1) (base + 1) (some base) (by omega) hsplit.1
      (fun ref href => hitem ▸ hedge item ref (.inl ⟨ref, href, rfl, rfl⟩))
      (fun upper lower h => hedge upper lower (.inr (.inl h)))
    have hright := @ihr nest (base + 1 + childs.preorder.length) parent (by omega) hsplit.2
      (fun ref href => hroot ref (List.mem_cons_of_mem item href))
      (fun upper lower h => hedge upper lower (.inr (.inr h)))
    have hfirst := hroot item List.mem_cons_self
    rw [Forest.map, ConfigUtils.convertTreeToList, if_neg (by omega)]
    simp [hbelow, hright, hfirst]

/-- Behind a list the further elements have the positions that follow. -/
private theorem map_idxOf_append {refs result : List CfgRef} (hnodup : refs.Nodup)
    (hdisjoint : result.Disjoint refs) :
    refs.map (result ++ refs).idxOf = List.range' result.length refs.length := by
  apply List.ext_getElem
  · simp
  · intro i h₁ h₂
    have hi : i < refs.length := by simpa using h₁
    have hnot : refs[i] ∉ result := fun hmem => hdisjoint hmem (List.getElem_mem hi)
    rw [List.getElem_map, List.getElem_range', List.idxOf_append_of_notMem hnot,
      hnodup.idxOf_getElem]
    omega

/-- The objects come to what `ConfigUtils` computes for the tree as a value: the entries
    it lists are those objects, with the positions of their parents. -/
theorem TreeListed.entries_eq {heap heap' : CfgHeap} {forest : Forest CfgRef} {sectionName : String}
    {result result' : List CfgRef} (hlisted : TreeListed forest sectionName heap result heap' result')
    (hdistinct : forest.preorder.Nodup) (hdepth : forest.depth ≤ ConfigData.nestMax)
    (hnew : result.Disjoint forest.preorder)
    (hroot : ∀ ref ∈ forest.roots, (heap ref).parent = none) :
    ConfigUtils.convertTreeToList
        (ConfigUtils.setSection (forest.map fun ref => (heap ref).cfg) sectionName) 0
        result.length none =
      forest.preorder.map fun ref => ⟨(heap' ref).cfg, (heap' ref).parent.map result'.idxOf⟩ := by
  have hheight : forest.height ≤ ConfigData.nestMax + 1 := by
    unfold Forest.depth at hdepth
    omega
  -- Setting the section is the same for the objects and for the values.
  have hcfg : ConfigUtils.setSection (forest.map fun ref => (heap ref).cfg) sectionName =
      forest.map fun ref => (withSection sectionName (heap ref)).cfg := by
    rw [ConfigUtils.setSection, Forest.mapUpTo_map hheight]
    congr 1
    funext ref
    simp only [withSection, Function.comp_apply]
    split <;> rfl
  rw [hcfg, @convertTreeToList_map _ (fun ref => (heap' ref).parent.map result'.idxOf) result'.idxOf]
  · apply List.map_congr_left
    intro ref href
    have hsame : (heap' ref).cfg = (withSection sectionName (heap ref)).cfg := by
      by_cases hdumper : (heap ref).cfg.isDumper
      · rw [hlisted.dumper ref href hdumper, withSection, if_pos hdumper]
      · rw [hlisted.plain ref href hdumper, withSection, if_neg hdumper]
    rw [hsame]
  · omega
  · rw [hlisted.list]
    exact map_idxOf_append hdistinct hnew
  · intro ref href
    rw [hlisted.root ref href, hroot ref href, Option.map_none]
  · intro upper lower h
    rw [hlisted.parent upper lower h, Option.map_some]

end HiDumper.Spec
