import HiDumper.Native.FdLinks

/-!
# Files that are open and gone

Model of `DumpManagerService::ScanOrphanVnodesForProcess` in
`services/native/src/dump_manager_service.cpp`. What `readlink` and `stat` answer for each
file descriptor is an input; `readlink` failing is the text `unknown`. Counters are
`int32_t`s: a process has far fewer descriptors than these can count. The orders in which
the maps are visited are parameters, as in `FdLinks`.
-/

namespace HiDumper.Native

/-- One entry of `/proc/<pid>/fd/`. -/
structure FdNode where
  /-- `GetFdLink`. -/
  linkDest : FdLink
  /-- `stat` of the link target succeeds. -/
  statOk : Bool

/-- The open choices of one scan. The map of counts is visited twice, before and after the
    totals have been put into it. -/
structure OrphanEnv where
  minHeap : MinHeap
  linkCountsOrder : IterationOrder
  typeTotalOrder : IterationOrder
  rankedOrder : IterationOrder

namespace OrphanVnodes

/-- `ORPHAN_FDLINKPATH_TOP_CNT`. -/
def orphanFdLinkPathTopCnt : Nat := 10

/-- `orphanVnodeCount` and `orphanVnodeLinks`. -/
structure Orphans where
  count : Nat := 0
  links : List String := []
  deriving DecidableEq, Repr

/-- One turn of the loop over the file descriptors. -/
def scanNode (orphans : Orphans) (node : FdNode) : Orphans :=
  if node.linkDest.text = "unknown" then orphans
  else if node.statOk then orphans
  else
    { count := orphans.count + 1
      links :=
        if startWith node.linkDest.text "/data" then orphans.links ++ [node.linkDest.text]
        else orphans.links }

/-- `linkCounts` after the first loop over the orphans. -/
def countLinks (orphanVnodeLinks : List String) : UnorderedMap String Nat :=
  orphanVnodeLinks.foldl (fun linkCounts link => linkCounts.upsert link 1 (· + 1)) ∅

/-- The directory that a path is put under. -/
def typeOf (path : String) : String :=
  prefixOf path (DumpCommonUtils.findFdClusterStartIndex path)

/-- The loop that fills in `typeTotal`. -/
def totalTypes (linkCounts : List FdEntry) : UnorderedMap String Nat :=
  linkCounts.foldl (fun typeTotal entry =>
    if typeOf entry.1 ≠ entry.1 then typeTotal.upsert (typeOf entry.1) entry.2 (· + entry.2)
    else typeTotal) ∅

/-- The loop that puts the totals into `linkCounts`. -/
def mergeTotals (linkCounts : UnorderedMap String Nat) (typeTotal : List FdEntry) :
    UnorderedMap String Nat :=
  typeTotal.foldl (fun linkCounts entry => linkCounts.insert entry.1 entry.2) linkCounts

/-- The counts that `ScanOrphanVnodesForProcess` passes to `TopN`. -/
def rankedCounts (env : OrphanEnv) (orphanVnodeLinks : List String) : UnorderedMap String Nat :=
  let linkCounts := countLinks orphanVnodeLinks
  let typeTotal := totalTypes (env.linkCountsOrder.visit linkCounts)
  mergeTotals linkCounts (env.typeTotalOrder.visit typeTotal)

/-- `DumpManagerService::ScanOrphanVnodesForProcess`: `topLinks`, or `none` for `false`. -/
def scanOrphanVnodesForProcess (env : OrphanEnv) (fdNodes : List FdNode)
    (orphanVnodeThreshold : Int) : Option (List FdEntry) :=
  let orphans := fdNodes.foldl scanNode {}
  if orphans.count ≤ orphanVnodeThreshold then none
  else
    let linkCounts := rankedCounts env orphans.links
    some (FdCounter.topN env.minHeap (env.rankedOrder.visit linkCounts) orphanFdLinkPathTopCnt)

end OrphanVnodes

end HiDumper.Native
