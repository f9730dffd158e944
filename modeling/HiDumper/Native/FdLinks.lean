import HiDumper.ForStd.MapSums
import HiDumper.Native.Common

/-!
# Counting the links of open files, twice

Model of `CountFdNums` in `services/native/src/dump_manager_service.cpp`, of
`FdThreadDumper::DumpFdInfo` in `executor/fd_thread_dumper.cpp`, and of what the two call
to count, group and rank the links. Most of the two classes is the same text: such a
function is written once, and each class has it under its own name. The functions that
find the directory of a path are written apart, as they are in the source.

The link targets are an input. `readlink` gets a buffer of `PATH_MAX` bytes, so a target
is shorter than that; positions count characters, which agrees with bytes as far as
digits are concerned. Counters are `int`s far from their limits. The order in which an
`unordered_map` is visited, and which of several smallest elements a priority queue has on
top, are not specified and are parameters.
-/

namespace HiDumper.Native

/-- `PATH_MAX` and `FD_PATH_MAX`, the size of the buffers for `readlink`. -/
def pathMax : Nat := 4096

/-- A link target as `GetFdLink` returns it. -/
structure FdLink where
  text : String
  length_lt : text.length < pathMax

/-- An entry of a counter. -/
abbrev FdEntry := String × Nat

/-- `FD_TOP_CNT`, the same in both classes. -/
def fdTopCnt : Nat := 10

/-- `NEED_DUMP_FDLINK_NUMS`. -/
def needDumpFdLinkNums : Nat := 1200

/-! ## What the standard library leaves open -/

/-- An order in which maps are visited. -/
structure IterationOrder where
  visit : UnorderedMap String Nat → List FdEntry
  visit_perm : ∀ counter, (visit counter).Perm (counter.entries.map fun e => (e.1, e.2))

/-- `std::priority_queue` on a vector whose front is the top. -/
structure MinHeap where
  push : List FdEntry → FdEntry → List FdEntry
  pop : List FdEntry → List FdEntry
  push_perm : ∀ minHeap entry, (push minHeap entry).Perm (entry :: minHeap)
  pop_perm : ∀ minHeap, (pop minHeap).Perm minHeap.tail

/-- The open choices of one run. Each map has an order of its own. -/
structure FdEnv where
  minHeap : MinHeap
  linkCountsOrder : IterationOrder
  typeTotalOrder : IterationOrder
  /-- The order of `typePaths[type]`. -/
  pathsOrder : String → IterationOrder

/-! ## Counting and ranking, the same in both classes -/

namespace FdCounter

/-- `knownTypes`, a `std::set`, in the order it is visited. -/
def knownTypes : List String :=
  ["ashmem", "dmabuf", "eventfd", "eventpoll", "pipe", "socket", "sync_file"]

def maybeKnownType (link : String) : String :=
  (knownTypes.find? fun type => contains link type).getD "unknown"

def countPaths (links : List String) : UnorderedMap String Nat :=
  links.foldl (fun counter link =>
    let type := maybeKnownType link
    counter.upsert (if type ≠ "unknown" then type else link) 1 (· + 1)) ∅

/-- The comparison of `std::sort` in `TopN`. -/
def ranksBefore (a b : FdEntry) : Bool := (a.2 = b.2 && a.1 < b.1) || a.2 > b.2

/-- One turn of the loop of `TopN`. -/
def offer (heap : MinHeap) (n : Nat) (minHeap : List FdEntry) (kv : FdEntry) : List FdEntry :=
  if minHeap.length < n then heap.push minHeap kv
  else
    match minHeap.head? with
    | some top => if kv.2 > top.2 then heap.push (heap.pop minHeap) kv else minHeap
    | none => minHeap

/-- `while (!minHeap.empty())`, with the number of elements as the number of rounds. -/
def drain (heap : MinHeap) : Nat → List FdEntry → List FdEntry
  | 0, _ => []
  | _, [] => []
  | rounds + 1, top :: rest => top :: drain heap rounds (heap.pop (top :: rest))

/-- `TopN`, where `counter` lists the map in the order it is visited. -/
def topN (heap : MinHeap) (counter : List FdEntry) (n : Nat) : List FdEntry :=
  let minHeap := counter.foldl (offer heap n) []
  (drain heap minHeap.length minHeap).mergeSort fun a b => !ranksBefore b a

def getSummary (topLinks topTypes : List FdEntry) : String :=
  match topLinks, topTypes with
  | [], [] => ""
  | [], topType :: _ => "Leaked dir:" ++ topType.1
  | topLink :: _, [] => "Leaked fd:" ++ topLink.1
  | topLink :: _, topType :: _ =>
    if topType.2 > topLink.2 then "Leaked dir:" ++ topType.1 else "Leaked fd:" ++ topLink.1

def getTopFdInfo (topLinks : List FdEntry) : String :=
  String.join (topLinks.map fun entry => toString entry.2 ++ "\t" ++ entry.1 ++ "\n")

/-- The lines of one directory in `GetTopDirInfo`. -/
def dirLines (env : FdEnv) (typePaths : UnorderedMap String (UnorderedMap String Nat))
    (entry : FdEntry) : List String :=
  (toString entry.2 ++ "\t" ++ entry.1 ++ "\n") ::
    match typePaths.lookup entry.1 with
    | none => []
    | some paths =>
      (topN env.minHeap ((env.pathsOrder entry.1).visit paths) fdTopCnt).map fun path =>
        "0" ++ toString path.2 ++ "\t" ++ path.1 ++ "\n"

def getTopDirInfo (env : FdEnv) (topTypes : List FdEntry)
    (typePaths : UnorderedMap String (UnorderedMap String Nat)) : String :=
  String.join (topTypes.flatMap (dirLines env typePaths))

/-- The loop that fills in `typePaths`; `cluster` is the text up to the index that
    `FindFdClusterStartIndex` returns. -/
def fillTypePaths (cluster : String → String) (linkCounts : List FdEntry) :
    UnorderedMap String (UnorderedMap String Nat) :=
  linkCounts.foldl (fun typePaths entry =>
    let type := cluster entry.1
    if type ≠ entry.1 then
      typePaths.upsert type ((∅ : UnorderedMap String Nat).insert entry.1 entry.2)
        fun paths => paths.insert entry.1 entry.2
    else typePaths) ∅

/-- The loop that fills in `typeTotal`. `typePaths` is a `std::map`, visited in the order
    of its keys. -/
def fillTypeTotal (env : FdEnv) (typePaths : UnorderedMap String (UnorderedMap String Nat)) :
    UnorderedMap String Nat :=
  (typePaths.entries.mergeSort fun a b => decide (a.1 ≤ b.1)).foldl (fun typeTotal entry =>
    typeTotal.insert entry.1
      ((((env.pathsOrder entry.1).visit entry.2).map (·.2)).foldl (· + ·) 0)) ∅

/-- What `CountFdNums` and `DumpFdInfo` compute before they print. -/
structure FdCounts where
  linkCounts : UnorderedMap String Nat
  topLinks : List FdEntry
  typePaths : UnorderedMap String (UnorderedMap String Nat)
  typeTotal : UnorderedMap String Nat
  topTypes : List FdEntry

/-- The common part of `CountFdNums` and `DumpFdInfo`. -/
def fdCounts (env : FdEnv) (cluster : String → String) (links : List String) : FdCounts :=
  let linkCounts := countPaths links
  let visited := env.linkCountsOrder.visit linkCounts
  let typePaths := fillTypePaths cluster visited
  let typeTotal := fillTypeTotal env typePaths
  { linkCounts := linkCounts
    topLinks := topN env.minHeap visited fdTopCnt
    typePaths := typePaths
    typeTotal := typeTotal
    topTypes := topN env.minHeap (env.typeTotalOrder.visit typeTotal) fdTopCnt }

end FdCounter

/-! ## The directory of a path -/

/-- `STORAGE_PATH_PREFIX`, the same in both files. -/
def storagePathPrefix : String := "/data/storage/el"

/-- `STORAGE_PATH_SIZE`. -/
def storagePathSize : Nat := storagePathPrefix.length

/-- `std::isdigit(name[i])`. At the end of the text stands a `'\0'`. -/
def isDigitAt (name : List Char) (i : Nat) : Bool :=
  match name[i]? with
  | some c => c.isDigit
  | none => false

/-- `for (i = start; i < size; i++)` up to the first digit. -/
def findDigit (name : List Char) (start : Nat) : Option Nat :=
  (List.range' start (name.length - start)).find? (isDigitAt name)

/-- `static_cast<int>` of a `size_t`. -/
def toInt32 (i : Nat) : Int := Int.bmod i (2 ^ 32)

/-- `string(path, 0, n)`. The count is a `size_t`, so a negative one is a large one. -/
def prefixOf (path : String) (n : Int) : String :=
  if n < 0 then path else String.ofList (path.toList.take n.toNat)

namespace DumpCommonUtils

/-- `DumpCommonUtils::FindNonSandBoxPathIndex`. -/
def findNonSandBoxPathIndex (fullFileName : String) : Int :=
  match findDigit fullFileName.toList 0 with
  | some i => toInt32 i
  | none => toInt32 fullFileName.length

/-- `DumpCommonUtils::FindFdClusterStartIndex`. -/
def findFdClusterStartIndex (fullFileName : String) : Int :=
  if fullFileName.toList.take storagePathSize ≠ storagePathPrefix.toList ||
      !isDigitAt fullFileName.toList storagePathSize then
    findNonSandBoxPathIndex fullFileName
  else
    match findDigit fullFileName.toList (storagePathSize + 1) with
    | some i => toInt32 i
    | none => toInt32 fullFileName.length

end DumpCommonUtils

namespace FdThreadDumper

/-- `FdThreadDumper::FindFdClusterStartIndex`. -/
def findFdClusterStartIndex (fullFileName : String) : Nat :=
  let fileNameSize := fullFileName.length
  if fullFileName.toList.take storagePathSize ≠ storagePathPrefix.toList ||
      !isDigitAt fullFileName.toList storagePathSize then
    match findDigit fullFileName.toList 0 with
    | some i => i
    | none => fileNameSize
  else
    match findDigit fullFileName.toList (storagePathSize + 1) with
    | some i => i
    | none => fileNameSize

end FdThreadDumper

/-! ## The service -/

/-- What `CountFdNums` returns through its reference parameters. -/
structure FdNums where
  fdNums : Nat
  detailFdInfo : String
  topLeakedTypeList : List String
  deriving DecidableEq, Repr

namespace FdNums

/-- The values that `DumpManagerService::CountFdNums` computes. -/
def counts (env : FdEnv) (links : List FdLink) : FdCounter.FdCounts :=
  FdCounter.fdCounts env
    (fun path => prefixOf path (DumpCommonUtils.findFdClusterStartIndex path)) (links.map (·.text))

/-- The directory listing of `CountFdNums`. -/
def topDirInfo (env : FdEnv) (links : List FdLink) : String :=
  FdCounter.getTopDirInfo env (counts env links).topTypes (counts env links).typePaths

/-- The summary of `CountFdNums`. -/
def summary (env : FdEnv) (links : List FdLink) : String :=
  FdCounter.getSummary (counts env links).topLinks (counts env links).topTypes

/-- `DumpManagerService::CountFdNums` for a caller with the permission, `none` for
    `DUMP_FAIL`. -/
def countFdNums (env : FdEnv) (links : List FdLink) : Option FdNums :=
  if links.isEmpty then none
  else
    let topLinks := (counts env links).topLinks
    some
      { fdNums := links.length
        topLeakedTypeList :=
          (topLinks.head?.map (·.1)).toList ++
            ((topLinks.take fdTopCnt).drop 1 |>.filter (·.2 > needDumpFdLinkNums)).map (·.1)
        detailFdInfo :=
          "Summary:\n" ++ summary env links ++ "\n\nLeaked fd Top 10:\n" ++
            FdCounter.getTopFdInfo topLinks ++ "Top Dir " ++ toString fdTopCnt ++ ":\n" ++
            topDirInfo env links }

end FdNums

/-! ## The command -/

namespace FdThreadDumper

/-- The values that `FdThreadDumper::DumpFdInfo` computes. -/
def counts (env : FdEnv) (links : List FdLink) : FdCounter.FdCounts :=
  FdCounter.fdCounts env (fun path => prefixOf path (findFdClusterStartIndex path))
    (links.map (·.text))

/-- `while (getline(ss, line))`: the lines of a text. After the last line break there is a
    further line only if it is not empty. -/
def getlines (text : String) : List String :=
  let pieces := text.toList.splitOn '\n'
  (if pieces.getLastD [] = [] then pieces.dropLast else pieces).map String.ofList

/-- The summary of `DumpFdInfo`. -/
def summary (env : FdEnv) (links : List FdLink) : String :=
  FdCounter.getSummary (counts env links).topLinks (counts env links).topTypes

/-- `FdThreadDumper::DumpFdSummary`. -/
def dumpFdSummary (env : FdEnv) (links : List FdLink) : List (List String) :=
  [["Summary:"]] ++ (if summary env links ≠ "" then [[summary env links]] else []) ++ [[""]]

/-- `FdThreadDumper::DumpFdTopInfo`. -/
def dumpFdTopInfo (topLinks : List FdEntry) : List (List String) :=
  ["Leaked fd Top " ++ toString fdTopCnt ++ ":"] ::
    (getlines (FdCounter.getTopFdInfo topLinks)).map fun line => [line]

/-- The rows of the directory listing of `DumpFdDirInfo`. -/
def dirInfoRows (env : FdEnv) (links : List FdLink) : List (List String) :=
  (getlines (FdCounter.getTopDirInfo env (counts env links).topTypes
    (counts env links).typePaths)).map fun line => [line]

/-- `FdThreadDumper::DumpFdDirInfo`. -/
def dumpFdDirInfo (env : FdEnv) (links : List FdLink) : List (List String) :=
  ["Top Dir " ++ toString fdTopCnt ++ ":"] :: dirInfoRows env links

/-- `FdThreadDumper::DumpFdLinkCounts`. -/
def dumpFdLinkCounts (env : FdEnv) (isDumpFdThreadAll : Bool) (links : List FdLink) :
    List (List String) :=
  if !isDumpFdThreadAll then []
  else
    ["Fd link counts:"] :: (env.linkCountsOrder.visit (counts env links).linkCounts).map
      fun entry => [entry.1 ++ ":" ++ toString entry.2]

/-- `FdThreadDumper::DumpFdInfo`: the rows it appends, `none` for `false`. -/
def dumpFdInfo (env : FdEnv) (isDumpFdThreadAll : Bool) (links : List FdLink) :
    Option (List (List String)) :=
  if links.isEmpty then none
  else
    some ([["fd num: " ++ toString links.length]] ++ dumpFdSummary env links ++
      dumpFdTopInfo (counts env links).topLinks ++ dumpFdDirInfo env links ++
      dumpFdLinkCounts env isDumpFdThreadAll links)

end FdThreadDumper

end HiDumper.Native
