import HiDumper.Native.Executors

/-!
# The texts of the outputs

What `executor/fd_output.cpp` writes to the client and `executor/zipfolder_output.cpp`
appends to `log.txt` for a `StringMatrix`. Both end a row with a line break where they
find that it has none; they look for it in different places. The client's fd is open and
writing has no errors.
-/

namespace HiDumper.Native

/-- A string as far as `strlen` counts it. -/
def cStr (str : List Char) : List Char := str.takeWhile (· ≠ '\x00')

namespace FDOutput

/-- `FDOutput::NewLineMethod`. -/
def newLineMethod (str : List Char) : List Char := if '\n' ∉ str then str ++ ['\n'] else str

/-- What `FDOutput::WriteToFd` writes to the client. -/
def writeToFd (str : List Char) : List Char := cStr str

/-- The inner loop of `FDOutput::OutMethod`: only the last cell may get a line break. -/
def outLine : Row → List Char
  | [] => []
  | [str] => writeToFd (newLineMethod str.toList)
  | str :: line => writeToFd str.toList ++ outLine line

/-- `FDOutput::OutMethod`. -/
def outMethod (dumpDatas : List Row) : List Char := dumpDatas.flatMap outLine

end FDOutput

namespace ZipFolderOutput

/-- The cells of a row in one string. -/
def appendItems (lineItems : Row) : List Char := lineItems.flatMap String.toList

/-- One round of the loop of `ZipFolderOutput::Execute`. -/
def outLine (lineItems : Row) : List Char :=
  let line := appendItems lineItems
  if line = [] ∨ line.getLast? ≠ some '\n' then line ++ ['\n'] else line

/-- The text that `ZipFolderOutput::Execute` appends. -/
def execute (dumpDatas : List Row) : List Char := dumpDatas.flatMap outLine

end ZipFolderOutput

end HiDumper.Native
