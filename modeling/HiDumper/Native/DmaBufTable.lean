import HiDumper.Native.ProcStatus

/-!
# The DMA buffers of a process as a table

Model of `ParseDmaBufInfo` in `memory/parse/parse_dmabuf_info.cpp` and of the functions of
`MemoryInfo` that print DMA buffers: `GetDmaBuf`, `GetDmaBufByProc`, `DisposeDmaBufInfo` and
`FillResultForDmaBuf`. What `MemInfo::GetDmaInfo` returns and the lines of
`/proc/<pid>/mm_dmabuf_info` are inputs. A character stands for a byte of a `std::string`.
-/

namespace HiDumper.Native

/-- `while (stream >> word)`. -/
def streamWords (line : String) : List String :=
  (line.toList.fields Scanf.isSpace).map String.ofList

/-- `std::left << std::setw(width) << value << "  "`. -/
def setwLeft (width : Nat) (value : String) : List Char :=
  value.toList.rightpad width ' ' ++ [' ', ' ']

/-- The members of `ParseDmaBufInfo`. -/
structure ParseDmaBufInfo where
  headerMapTmp : UnorderedMap String Nat := ∅
  columnWidthsTmp : List Nat := []
  titlesTmp : List String := []
  detailTitle : String := ""
  inDetailSection : Bool := false
  details : List String := []

/-- What `GetDmaBufInfo` fills in. -/
structure DmaBufInfo where
  result : List String := []
  headerMap : UnorderedMap String Nat := ∅
  columnWidths : List Nat := []
  titles : List String := []

namespace ParseDmaBufInfo

/-- `ParseDmaBufInfo::ParseHeaderLine`. -/
def parseHeaderLine (parse : ParseDmaBufInfo) (line : String) : ParseDmaBufInfo :=
  let headers := streamWords line
  { parse with
    headerMapTmp := headers.zipIdx.foldl (fun map header => map.insert header.1 header.2) ∅
    columnWidthsTmp := headers.map (·.toList.length)
    titlesTmp := headers
    detailTitle := line
    inDetailSection := true }

/-- The loop of `ParseDataLine` over the words of a line. -/
def widenColumns : List Nat → List String → List Nat
  | widths, [] => widths
  | [], item :: row => item.toList.length :: widenColumns [] row
  | width :: widths, item :: row =>
    (if item.toList.length > width then item.toList.length else width) :: widenColumns widths row

/-- `ParseDmaBufInfo::ParseDataLine`. -/
def parseDataLine (parse : ParseDmaBufInfo) (line : String) : ParseDmaBufInfo :=
  { parse with
    columnWidthsTmp := widenColumns parse.columnWidthsTmp (streamWords line)
    details := parse.details ++ [line] }

/-- What `GetDmaBufInfo` does with a line. -/
def parseLine (parse : ParseDmaBufInfo) (line : String) : ParseDmaBufInfo :=
  if !parse.inDetailSection && contains line "Process" then parse.parseHeaderLine line
  else if parse.inDetailSection then parse.parseDataLine line
  else parse

/-- `ParseDmaBufInfo::GetDmaBufInfo` on the lines of the file, `none` if it does not open. -/
def getDmaBufInfo (lines : Option (List String)) : Option DmaBufInfo :=
  lines.map fun lines =>
    let parse := lines.foldl parseLine {}
    if parse.details.isEmpty then {}
    else
      { result := parse.detailTitle :: parse.details
        headerMap := parse.headerMapTmp
        columnWidths := parse.columnWidthsTmp
        titles := parse.titlesTmp }

end ParseDmaBufInfo

namespace MemoryInfo

/-- `LINE_SPACING`. -/
def lineSpacing : Nat := 6

/-- `DMABUF_MAX_WIDTH`. -/
def dmabufMaxWidth : Nat := 33

/-- `showTitles`. -/
def showTitles : List String :=
  ["Process", "pid", "fd", "size_bytes", "ino", "exp_pid", "exp_task_comm", "buf_name",
    "exp_name", "buf_type", "leak_type"]

/-- The loop over the titles for one line: the titles with the words the stream still has. -/
def titleValues : List String → List String → List (String × String)
  | [], _ => []
  | title :: titles, words => (title, words.head?.getD "NULL") :: titleValues titles words.tail

/-- `width + LINE_SPACING` for a title of `GetDmaBufByProc`. -/
def dmaBufTitleWidth (info : DmaBufInfo) (title : String) : Nat :=
  let column := (info.headerMap.lookup title).getD 0
  min (info.columnWidths[column]?.getD 0) dmabufMaxWidth + lineSpacing

/-- The text that `GetDmaBufByProc` prints for a line. -/
def dmaBufText (info : DmaBufInfo) (dmabuf : String) : String :=
  let values := titleValues info.titles (streamWords dmabuf)
  String.ofList ((values.filter fun value => showTitles.contains value.1).flatMap fun value =>
    setwLeft (dmaBufTitleWidth info value.1) value.2)

/-- `GetDmaBufByProc` behind the check of the uid, on the lines of the file. -/
def dmaBufRows (lines : Option (List String)) : Option (List (List String)) :=
  (ParseDmaBufInfo.getDmaBufInfo lines).map fun info =>
    info.result.map fun dmabuf => [dmaBufText info dmabuf]

/-- `MemInfo::DmaNodeInfoWrapper`. -/
structure DmaNodeInfoWrapper where
  process : String
  pid : Int
  fd : Int
  sizeBytes : Int
  ino : Int
  expPid : Int
  expTaskComm : String
  bufName : String
  expName : String
  bufType : String
  leakType : String

/-- `safeStr`. -/
def safeStr (s : String) : String := if s.isEmpty then "NULL" else s

/-- `ConvertDmaBufInfoToStrings`. -/
def convertDmaBufInfoToStrings (info : DmaNodeInfoWrapper) : List String :=
  [safeStr info.process, toString info.pid, toString info.fd, toString info.sizeBytes,
    toString info.ino, toString info.expPid, safeStr info.expTaskComm, safeStr info.bufName,
    safeStr info.expName, safeStr info.bufType, safeStr info.leakType]

/-- `MemoryInfo::FillResultForDmaBuf`: the rows. -/
def fillResultForDmaBuf (dmaBufResults : List (List String)) (columnWidths : List Nat) :
    List (List String) :=
  dmaBufResults.map fun row =>
    [String.ofList ((columnWidths.zip row).flatMap fun cell =>
      setwLeft (min cell.1 dmabufMaxWidth + lineSpacing) cell.2)]

/-- `MemoryInfo::DisposeDmaBufInfo`: the rows. -/
def disposeDmaBufInfo (dmaBufInfos : List DmaNodeInfoWrapper) : List (List String) :=
  let results := dmaBufInfos.map convertDmaBufInfoToStrings
  let columnWidths := results.foldl
    (fun widths row => List.zipWith (fun width value => max width value.toList.length) widths row)
    (showTitles.map (·.toList.length))
  fillResultForDmaBuf (showTitles :: results) columnWidths

/-- `MemoryInfo::GetDmaBuf`: the rows, `none` for `false`. -/
def getDmaBuf (sys : System) (dmaBufInfos : Int → List DmaNodeInfoWrapper)
    (lines : Int → Option (List String)) (pid : Int) (showDmaBuf : Bool) :
    Option (List (List String)) :=
  if !showDmaBuf then none
  else if (dmaBufInfos pid).isEmpty then
    getDmaBufByProc sys (fun pid => dmaBufRows (lines pid)) pid
  else some (disposeDmaBufInfo (dmaBufInfos pid))

end MemoryInfo

end HiDumper.Native
