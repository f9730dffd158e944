import HiDumper.ForStd.MapSums
import HiDumper.ForStd.Scanf
import HiDumper.Native.Common
import Mathlib.Data.UInt

/-!
# Memory groups of the regions in smaps

Model of `ParseSmapsInfo::GetInfo` in `memory/parse/parse_smaps_info.cpp`, with
`MemoryUtil::IsNameLine`, `GetTypeAndValue` and `CalcGroup` of `memory/memory_util.cpp` and
`MemoryFilter` of `memory/memory_filter.cpp`. The file is read by `LoadStringFromProcCb`,
which hands over its lines without their line breaks; the lines are an input. Amounts are
`uint64_t` and wrap around.

The tables of `MemoryFilter` are `std::map`s; they are listed here in the order of their
keys, in which they are searched.
-/

namespace HiDumper.Native

/-- `ValueMap` and `GroupMap`. -/
abbrev ValueMap := UnorderedMap String UInt64

abbrev GroupMap := UnorderedMap String ValueMap

/-- `StringUtils::IsEnd`. -/
def isEnd (content ending : String) : Bool := ending.toList.isSuffixOf content.toList

namespace MemoryFilter

/-- `MemoryFilter::MemoryType`. -/
inductive MemoryType where
  | appointPid
  | notSpecifiedPid
  deriving DecidableEq, Repr

/-- `FILE_PAGE_TAG`. -/
def filePageTag : String := "File-backed Page"

/-- `ANON_PAGE_TAG`. -/
def anonPageTag : String := "Anonymous Page"

/-- `beginMap_`. -/
def beginMap : List (String × String) :=
  [("/data/storage", ".hap"), ("/dev", "dev"), ("/dmabuf", "dmabuf"),
    ("[anon:ArkTS Heap", "ark ts heap"), ("[anon:guard", "guard"),
    ("[anon:libc_malloc", "native heap"), ("[anon:native_heap:", "native heap"),
    ("[anon:signal_stack", "stack"), ("[anon:stack", "stack"), ("[heap]", "native heap"),
    ("[stack]", "stack")]

/-- `heapBeginMap_`. -/
def heapBeginMap : List (String × String) :=
  [("[anon:native_heap:brk", "brk heap"), ("[anon:native_heap:jemalloc meta", "jemalloc meta"),
    ("[anon:native_heap:jemalloc]", "jemalloc heap"), ("[anon:native_heap:meta", "musl heap"),
    ("[anon:native_heap:mmap", "mmap heap"), ("[heap]", "heap")]

/-- `endMap_`. -/
def endMap : List (String × String) :=
  [(".db", ".db"), (".db-shm", ".db"), (".so", ".so"), (".so.1", ".so"), (".ttf", ".ttf")]

/-- `MemoryFilter::GetGroupFromMap`: the text it appends to the group. -/
def getGroupFromMap (name : String) (map : List (String × String))
    (func : String → String → Bool) : Option String :=
  (map.find? fun p => func name p.1).map (·.2)

/-- `MemoryFilter::ParseMemoryGroup`. -/
def parseMemoryGroup (name : String) (iNode : UInt64) : String :=
  (if iNode > 0 then filePageTag else anonPageTag) ++ "#" ++
    ((getGroupFromMap name endMap isEnd).or (getGroupFromMap name beginMap startWith)).getD "other"

/-- `MemoryFilter::ParseNativeHeapMemoryGroup`. -/
def parseNativeHeapMemoryGroup (name : String) : String :=
  (getGroupFromMap name heapBeginMap startWith).getD ""

end MemoryFilter

namespace MemoryUtil

/-- `MemoryUtil::IsNameLine`: the name and the inode, `none` for `false`. The format is
    `%*llx-%*llx %*s %*llx %*s %llu%n`. -/
def isNameLine (str : String) : Option (String × UInt64) := do
  let s ← Scanf.skipHex str.toList
  let s ← Scanf.char '-' s
  let s ← Scanf.skipHex s
  let (_, s) ← Scanf.word s
  let s ← Scanf.skipHex s
  let (_, s) ← Scanf.word s
  let (iNode, s) ← Scanf.unsigned s
  let name := s.dropWhile (· = ' ')
  some (if name = [] then "[anon]" else String.ofList name, iNode)

/-- `MemoryUtil::GetTypeAndValue`. -/
def getTypeAndValue (str : String) : Option (String × UInt64) :=
  match str.toList.dropWhile (· ≠ ':') with
  | [] => none
  | _ :: valueStr =>
    -- `strtoull` is 0 where there is no number.
    some (String.ofList (str.toList.takeWhile (· ≠ ':')),
      ((Scanf.unsigned valueStr).map (·.1)).getD 0)

/-- `MemoryUtil::CalcGroup`. -/
def calcGroup (group type : String) (value : UInt64) (infos : GroupMap) : GroupMap :=
  infos.upsert group ((∅ : ValueMap).insert type value)
    fun values => values.upsert type value (· + value)

end MemoryUtil

namespace ParseSmapsInfo

/-- `ParseSmapsInfo::GetHasPidValue`. -/
def getHasPidValue (str : String) : Option (String × UInt64) :=
  if startWith str "R" then (MemoryUtil.getTypeAndValue str).filter (·.1 = "Rss")
  else if startWith str "P" then
    (MemoryUtil.getTypeAndValue str).filter fun entry =>
      entry.1 ∈ ["Pss", "Private_Clean", "Private_Dirty"]
  else if startWith str "S" then
    (MemoryUtil.getTypeAndValue str).filter fun entry =>
      entry.1 ∈ ["Shared_Clean", "Shared_Dirty", "Swap", "SwapPss", "Size"]
  else none

/-- `ParseSmapsInfo::GetNoPidValue`. -/
def getNoPidValue (str : String) : Option (String × UInt64) :=
  if startWith str "Pss" || startWith str "SwapPss" then MemoryUtil.getTypeAndValue str else none

/-- `ParseSmapsInfo::GetValue`. -/
def getValue (memType : MemoryFilter.MemoryType) (str : String) : Option (String × UInt64) :=
  if memType = .appointPid then getHasPidValue str else getNoPidValue str

/-- The members that carry the group from line to line, and the two results. -/
structure SmapsParse where
  memGroup : String := ""
  nativeMemGroup : String := ""
  nativeMap : GroupMap := ∅
  result : GroupMap := ∅

/-- What `GetInfo` does with one line. -/
def parseLine (memType : MemoryFilter.MemoryType) (parse : SmapsParse) (line : String) :
    SmapsParse :=
  if isEnd line "B" then
    match getValue memType line with
    | none => parse
    | some (type, value) =>
      { parse with
        result := MemoryUtil.calcGroup parse.memGroup type value parse.result
        nativeMap := MemoryUtil.calcGroup parse.nativeMemGroup type value parse.nativeMap }
  else
    match MemoryUtil.isNameLine line with
    | none => parse
    | some (name, iNode) =>
      { parse with
        memGroup := MemoryFilter.parseMemoryGroup name iNode
        nativeMemGroup := MemoryFilter.parseNativeHeapMemoryGroup name }

/-- `ParseSmapsInfo::GetInfo` of a new object, on maps that are empty: what it has read when
    the lines end. -/
def getInfo (memType : MemoryFilter.MemoryType) (lines : List String) : SmapsParse :=
  lines.foldl (parseLine memType) {}

end ParseSmapsInfo

end HiDumper.Native
