import Mathlib.Logic.Function.Basic
import HiDumper.Native.ConfigUtils

/-!
# The DumpCfg objects behind a tree

`ConfigUtils` has the trees of `GetGroup` as values. Here they are what they are in the
source: objects that point to each other. `SetSection` and `ConvertTreeToList` of
`util/config_utils.cpp` walk over them and change them on the way: `section_`,
`parent_` and `childs_`.

A null pointer is `none`. `none` as a result is undefined behaviour: a null child that is
dereferenced, or a vector that is changed while a loop runs over it. Both functions take
the number of levels that are left until `nest` passes `NEST_MAX`, in place of `nest`.
-/

namespace HiDumper.Native

/-- The identity of a `DumpCfg` object. -/
abbrev CfgRef := Nat

/-- A `DumpCfg` object with its links to other ones. -/
structure CfgNode where
  cfg : DumpCfg := {}
  parent : Option CfgRef := none
  childs : List (Option CfgRef) := []

/-- All `DumpCfg` objects. -/
def CfgHeap := CfgRef → CfgNode

namespace CfgHeap

/-- Change one object. -/
def modify (heap : CfgHeap) (ref : CfgRef) (f : CfgNode → CfgNode) : CfgHeap :=
  Function.update heap ref (f (heap ref))

/-- The object behind a pointer of `dumpCfgs` in `SetSection`; `below` is the call for its
    `childs_`. -/
def setSectionItem (below : CfgHeap → List (Option CfgRef) → CfgHeap) (sectionName : String)
    (heap : CfgHeap) : Option CfgRef → CfgHeap
  | none => heap
  | some dumpCfg =>
    let heap :=
      if (heap dumpCfg).cfg.isDumper then
        heap.modify dumpCfg fun node => { node with cfg := { node.cfg with sectionName } }
      else heap
    if (heap dumpCfg).childs = [] then heap else below heap (heap dumpCfg).childs

/-- `ConfigUtils::SetSection`. -/
def setSection (sectionName : String) : Nat → CfgHeap → List (Option CfgRef) → CfgHeap
  | 0, heap, _ => heap
  | levels + 1, heap, dumpCfgs =>
    dumpCfgs.foldl (setSectionItem (setSection sectionName levels) sectionName) heap

/-- `child->parent_ = item`. -/
def setParent (item : CfgRef) (heap : CfgHeap) : Option CfgRef → Option CfgHeap
  | none => none
  | some child => some (heap.modify child fun node => { node with parent := some item })

/-- The round of `ConvertTreeToList` for one pointer of `tree`, on the objects and
    `tmpUsed`; `below` is the call for the `childs_` of the item. -/
def convertItem
    (below : CfgHeap → List (Option CfgRef) → List CfgRef → Option (CfgHeap × List CfgRef)) :
    CfgHeap × List CfgRef → Option CfgRef → Option (CfgHeap × List CfgRef)
  | state, none => some state
  | (heap, tmpUsed), some item => do
    let tmpUsed := tmpUsed ++ [item]
    let childs := (heap item).childs
    if childs = [] then some (heap, tmpUsed)
    else
      let heap ← childs.foldlM (setParent item) heap
      let (heap, tmpUsed) ← below heap childs tmpUsed
      -- The call runs over `childs_` itself.
      if (heap item).childs = childs then
        some (heap.modify item fun node => { node with childs := [] }, tmpUsed)
      else none

/-- `ConfigUtils::ConvertTreeToList`. -/
def convertTreeToList :
    Nat → CfgHeap → List (Option CfgRef) → List CfgRef → Option (CfgHeap × List CfgRef)
  | 0, heap, _, list => some (heap, list)
  | levels + 1, heap, tree, list => do
    let (heap, tmpUsed) ← tree.foldlM (convertItem (convertTreeToList levels)) (heap, [])
    some (heap, list ++ tmpUsed)

/-- What `GetGroup` by name does with the tree of a group that is not nested: "add section
    & add config to result". -/
def addTree (heap : CfgHeap) (sectionName : String) (tree : List (Option CfgRef))
    (result : List CfgRef) : Option (CfgHeap × List CfgRef) :=
  convertTreeToList (ConfigData.nestMax + 1)
    (setSection sectionName (ConfigData.nestMax + 1) heap tree) tree result

end CfgHeap

end HiDumper.Native
