import HiDumper.Native.Common

/-!
# Cleaning up the zip files

Model of `ZipFileCleaner` in `util/zip_file_cleaner.cpp`. What the listing of the folder and
the functions on paths (`GetDirFiles`, `ExtractFilePath`, `ExtractFileName`,
`ExtractFileExt`), `stat` and `RemoveFile` answer is an input. Sizes are `int64_t`s in the
source; what a file system holds stays far from their limit, so they are integers here.

The files of a folder have different names, so `std::sort` by name leaves no choice.
-/

namespace HiDumper.Native

/-- One path of `GetDirFiles`, with what the functions on paths and `stat` say of it. -/
structure DirFile where
  str : String
  /-- `IncludeTrailingPathDelimiter(ExtractFilePath(str))`. -/
  filePath : String
  fileName : String
  fileExt : String
  /-- `st_size`, `none` if `stat` fails. -/
  statSize : Option Int
  deriving DecidableEq, Repr

/-- `FileInfo`. -/
structure FileInfo where
  path : String
  size : Int
  name : String
  deriving DecidableEq, Repr

namespace ZipFileCleaner

/-- `LOGFILE_MAX`. -/
def logfileMax : Int := 20

/-- `ZIP_MAX_SIZE`. -/
def zipMaxSize : Int := 100 * 1024 * 1024

/-- `ZIP_TARGET_SIZE`. -/
def zipTargetSize : Int := 80 * 1024 * 1024

/-- `ZIP_FILEEXT`. -/
def zipFileExt : String := "zip"

/-- One turn of the loop of `GetDirTotalSize`, on `totalSize` and `files`. -/
def addFile (dirPath : String) (acc : Int × List FileInfo) (file : DirFile) :
    Int × List FileInfo :=
  if file.filePath ≠ dirPath || file.fileExt ≠ zipFileExt then acc
  else
    match file.statSize with
    | none => acc
    | some size =>
      (acc.1 + size, acc.2 ++ [{ path := file.str, size := size, name := file.fileName }])

/-- `ZipFileCleaner::GetDirTotalSize`, where `dir` lists the folder, `none` if there is none. -/
def getDirTotalSize (dirPath : String) (dir : Option (List DirFile)) : Int × List FileInfo :=
  match dir with
  | none => (0, [])
  | some allFiles => allFiles.foldl (addFile dirPath) (0, [])

/-- The variables of the loop in `DeleteOldestFiles`. -/
structure DeleteLoop where
  currentSize : Int
  fileCount : Int
  deletedCount : Nat := 0
  /-- The calls of `RemoveFile` so far, with their answers. -/
  removals : List (FileInfo × Bool) := []
  deriving DecidableEq, Repr

/-- The condition to leave the loop. -/
def DeleteLoop.isDone (loop : DeleteLoop) : Bool :=
  loop.currentSize ≤ zipTargetSize && loop.fileCount ≤ logfileMax

/-- The rest of a turn. -/
def DeleteLoop.attempt (removeFile : String → Bool) (loop : DeleteLoop) (file : FileInfo) :
    DeleteLoop :=
  if removeFile file.path then
    { currentSize := loop.currentSize - file.size
      fileCount := loop.fileCount - 1
      deletedCount := loop.deletedCount + 1
      removals := loop.removals ++ [(file, true)] }
  else { loop with removals := loop.removals ++ [(file, false)] }

/-- The loop in `DeleteOldestFiles`. -/
def deleteLoop (removeFile : String → Bool) : DeleteLoop → List FileInfo → DeleteLoop
  | loop, [] => loop
  | loop, file :: files =>
    if loop.isDone then loop else deleteLoop removeFile (loop.attempt removeFile file) files

/-- `std::sort` in `DeleteOldestFiles`. -/
def sortByName (files : List FileInfo) : List FileInfo :=
  files.mergeSort fun a b => decide (a.name ≤ b.name)

/-- The variables before the loop. -/
def startLoop (totalSize : Int) (files : List FileInfo) : DeleteLoop :=
  { currentSize := totalSize, fileCount := files.length }

/-- `ZipFileCleaner::DeleteOldestFiles`: the calls of `RemoveFile`. It returns true. -/
def deleteOldestFiles (removeFile : String → Bool) (totalSize : Int) (files : List FileInfo) :
    List (FileInfo × Bool) :=
  if files.isEmpty then []
  else (deleteLoop removeFile (startLoop totalSize files) (sortByName files)).removals

/-- `ZipFileCleaner::CleanOldFiles`: the calls of `RemoveFile`. It returns true. -/
def cleanOldFiles (removeFile : String → Bool) (dirPath : String) (dir : Option (List DirFile)) :
    List (FileInfo × Bool) :=
  let (totalSize, files) := getDirTotalSize dirPath dir
  if totalSize ≤ zipMaxSize && files.length ≤ logfileMax then []
  else deleteOldestFiles removeFile totalSize files

end ZipFileCleaner

end HiDumper.Native
