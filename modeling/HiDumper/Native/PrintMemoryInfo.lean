import HiDumper.ForStd.LineBreaks
import HiDumper.Native.MemoryUtil

/-!
# The picture of a memory session

Model of `MemoryInfo::PrintMemoryInfo` and of what it calls, in
`executor/memory/memory_info.cpp`, and of `GetDateAndTime` in
`services/native/src/dump_common_utils.cpp`: after each sample of a session the block of
lines that shows the samples is erased and written again.

Samples are `int`s that are not negative, so that differences stay in range, and there are
fewer than an `int` can count. The share of a sample between the smallest and the largest
one is a `double` in the source and a rational number here. `lastMaxIndex` is written and
never read, and is left out. `none` is undefined behaviour: the largest of no samples.
-/

namespace HiDumper.Native

/-- `struct tm`, as far as `GetDateAndTime` reads it. -/
structure LocalTime where
  year : Int
  mon : Int
  mday : Int
  hour : Int
  min : Int
  sec : Int
  deriving DecidableEq, Repr

/-- A number below 10 gets a zero in front. -/
def twoDigits (n : Int) : String := (if n < 10 then "0" else "") ++ toString n

/-- `DumpCommonUtils::GetDateAndTime`. -/
def getDateAndTime (timeData : LocalTime) : String :=
  toString (1900 + timeData.year) ++ "-" ++ twoDigits (1 + timeData.mon) ++ "-" ++
    twoDigits timeData.mday ++ " " ++ twoDigits timeData.hour ++ ":" ++ twoDigits timeData.min ++
    ":" ++ twoDigits timeData.sec

/-- Two digits have no line break. -/
private theorem lineBreaks_twoDigits (n : Int) : (twoDigits n).lineBreaks = 0 := by
  unfold twoDigits
  rw [String.lineBreaks_append, String.lineBreaks_intToString]
  split
  · rfl
  · rfl

/-- A date and time is on one line. -/
theorem lineBreaks_getDateAndTime (timeData : LocalTime) :
    (getDateAndTime timeData).lineBreaks = 0 := by
  simp only [getDateAndTime, String.lineBreaks_append, lineBreaks_twoDigits,
    String.lineBreaks_intToString]
  rfl

/-- Filling up with blanks adds no line break. -/
theorem lineBreaks_setWidth (width : Nat) (left : Bool) (str : String) :
    (setWidth width ' ' left str).lineBreaks = str.lineBreaks := by
  unfold setWidth
  cases left with
  | true =>
    rw [if_pos rfl, String.lineBreaks_append, String.lineBreaks_ofList_replicate _ (by decide),
      Nat.add_zero]
  | false =>
    rw [if_neg (by decide), String.lineBreaks_append,
      String.lineBreaks_ofList_replicate _ (by decide), Nat.zero_add]

/-- `startTime_`: empty, or what `GetDateAndTime` gave, filled up with blanks by earlier
    blocks. -/
structure StartTime where
  text : String := ""
  lineBreaks_eq : text.lineBreaks = 0 := by rfl

/-- `startTime_` at the begin of a session. -/
def StartTime.of (timeData : LocalTime) : StartTime :=
  ⟨getDateAndTime timeData, lineBreaks_getDateAndTime timeData⟩

/-- `SetWidth` of `startTime_`. -/
def StartTime.setWidth (startTime : StartTime) (width : Nat) : StartTime :=
  ⟨Native.setWidth width ' ' true startTime.text, by
    rw [lineBreaks_setWidth, startTime.lineBreaks_eq]⟩

namespace PrintMemoryInfo

/-- `MAX_STARS_NUM`. -/
def maxStarsNum : Int := 20

/-- `ONE_STAR`. -/
def oneStar : Int := 1

/-- `NAME_WIDTH_` of `MemoryInfo`. -/
def nameWidth : Nat := 20

/-- `static_cast<int>` of a `double`. -/
def toInt (value : Rat) : Int := value.num.tdiv value.den

/-- `MemoryInfo::CalculateStars`. -/
def calculateStars (pssValues : List Int) (currentPSS : Int) : Int :=
  match pssValues.min?, pssValues.max? with
  | some minPSS, some maxPSS =>
    if maxPSS = minPSS then maxStarsNum
    else
      let stdValue : Rat := ((currentPSS - minPSS : Int) : Rat) / ((maxPSS - minPSS : Int) : Rat)
      toInt (stdValue * ((maxStarsNum - oneStar : Int) : Rat) + (oneStar : Rat))
  | _, _ => maxStarsNum

/-- `MemoryInfo::ClearPreviousLines`: the texts it writes. -/
def clearPreviousLines (lineCount : Int) : List String :=
  (List.range lineCount.toNat).flatMap fun _ => ["\x1b[F", "\x1b[2K"]

/-- `MemoryInfo::GenerateLine`. -/
def generateLine (pssValues : List Int) (index : Nat) : String :=
  let stars := calculateStars pssValues (pssValues.getD index 0)
  String.ofList (List.replicate stars.toNat '*') ++
    String.ofList (List.replicate (26 - stars).toNat ' ') ++
    "times" ++ toString (index + 1) ++ ": PSS=" ++ toString (pssValues.getD index 0) ++ "kB\n"

/-- `MemoryInfo::GenerateTimestamps`: the text, and `startTime_` from then on. -/
def generateTimestamps (startTime : StartTime) (now : LocalTime) (pssValues : List Int) :
    Option (String × StartTime) := do
  let maxMem ← pssValues.max?
  let changePss :=
    if pssValues.length > 1 then
      pssValues.getD (pssValues.length - 1) 0 - pssValues.getD 0 0
    else 0
  let startTime := startTime.setWidth nameWidth
  let endTime := setWidth nameWidth ' ' true (getDateAndTime now)
  let count := setWidth nameWidth ' ' true (toString pssValues.length)
  let maxMemStr := setWidth nameWidth ' ' true (toString maxMem ++ "kB")
  let changePssStr := setWidth nameWidth ' ' true (toString changePss ++ "kB")
  some ("StartTime           EndTime              Count                MaxMem              Change\n" ++
    startTime.text ++ endTime ++ " " ++ count ++ " " ++ maxMemStr ++ " " ++ changePssStr ++ "\n",
    startTime)

/-- `minIndex` and `lastLines`. -/
def minIndex : Nat := 5

def lastLines : Nat := 5

/-- `thresholdLines`. -/
def thresholdLines : Nat := 6

/-- `maxPssValues`. -/
def maxPssValues : Nat := 10

/-- `numHeaderLines`. -/
def numHeaderLines : Nat := 2

/-- `MemoryInfo::CalculateMaxIdex`: `*maxIndex` afterwards. -/
def calculateMaxIdex (pssValues : List Int) (maxIndex : Nat) : Nat :=
  (List.range' minIndex (pssValues.length - lastLines - minIndex)).foldl
    (fun maxIndex i => if pssValues.getD i 0 > pssValues.getD maxIndex 0 then i else maxIndex)
    maxIndex

/-- `output` and `currentLineCount`. -/
structure Block where
  output : String
  currentLineCount : Nat

/-- `output += line; currentLineCount++`. -/
def Block.addLine (block : Block) (line : String) : Block :=
  ⟨block.output ++ line, block.currentLineCount + 1⟩

/-- The lines of at most `maxPssValues` samples. -/
def Block.addAll (block : Block) (pssValues : List Int) : Block :=
  (List.range pssValues.length).foldl
    (fun block i => { block with output := block.output ++ generateLine pssValues i })
    { block with currentLineCount := block.currentLineCount + pssValues.length }

/-- The lines of more samples: the first ones, the largest in between, the last ones. -/
def Block.addSome (block : Block) (pssValues : List Int) : Block :=
  let size := pssValues.length
  let maxIndex := calculateMaxIdex pssValues 0
  let block := (List.range minIndex).foldl
    (fun block i => block.addLine (generateLine pssValues i)) block
  let block :=
    if maxIndex ≥ minIndex && maxIndex < size - lastLines then
      let block := if maxIndex > minIndex then block.addLine "...\n" else block
      let block := block.addLine (generateLine pssValues maxIndex)
      if maxIndex < size - thresholdLines then block.addLine "...\n" else block
    else block.addLine "...\n"
  (List.range' (size - lastLines) lastLines).foldl
    (fun block i => block.addLine (generateLine pssValues i)) block

/-- What a call of `PrintMemoryInfo` does: the texts it writes, `*prevLineCount` and
    `startTime_` afterwards. -/
structure Printed where
  writes : List String
  prevLineCount : Int
  startTime : StartTime

/-- `MemoryInfo::PrintMemoryInfo`. -/
def printMemoryInfo (startTime : StartTime) (now : LocalTime) (pssValues : List Int)
    (prevLineCount : Int) : Option Printed := do
  let (timestamps, startTime) ← generateTimestamps startTime now pssValues
  let block : Block := ⟨timestamps, numHeaderLines⟩
  let block :=
    if pssValues.length ≤ maxPssValues then block.addAll pssValues else block.addSome pssValues
  some
    { writes :=
        (if prevLineCount > 0 then clearPreviousLines prevLineCount else []) ++ [block.output]
      prevLineCount := block.currentLineCount
      startTime := startTime }

end PrintMemoryInfo

end HiDumper.Native
