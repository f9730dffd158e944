import HiDumper.Native.ZipFileCleaner
import Mathlib.Algebra.BigOperators.Group.List.Basic
import Mathlib.Algebra.Ring.Int.Defs

/-!
# Which zip files are deleted

Above one of two limits the oldest files go, by name, until the total size is at most the
target size and there are at most `LOGFILE_MAX` files. The loop keeps a running size and a
running count. A file that cannot be removed stays in both, and the next one is tried.

## Key results

- `deleteLoop_eq`: the loop attempts a first part of the files, up to where it is done
- `Attempted.foldl`: the running size and count are those of the files that are left
- `cleanOldFiles_spec`: which files are attempted and which are deleted
-/

namespace HiDumper.Spec

open HiDumper.Native ZipFileCleaner

/-- The sizes added up. -/
def totalSize (files : List FileInfo) : Int := (files.map (·.size)).sum

@[simp] theorem totalSize_nil : totalSize [] = 0 := rfl

@[simp] theorem totalSize_cons (file : FileInfo) (files : List FileInfo) :
    totalSize (file :: files) = file.size + totalSize files := rfl

/-- The sizes of two lists of files add up. -/
@[simp] theorem totalSize_append (files files' : List FileInfo) :
    totalSize (files ++ files') = totalSize files + totalSize files' := by
  rw [totalSize, List.map_append, List.sum_append]
  rfl

/-- The two limits that the loop works towards. -/
def WithinLimits (files : List FileInfo) : Prop :=
  totalSize files ≤ zipTargetSize ∧ files.length ≤ logfileMax

/-- The zip files of the folder. -/
def zipFiles (dirPath : String) (dir : Option (List DirFile)) : List FileInfo :=
  (dir.getD []).filterMap fun file =>
    if file.filePath = dirPath ∧ file.fileExt = "zip" then
      file.statSize.map fun size => ⟨file.str, size, file.fileName⟩
    else none

/-- The files left of `files` after removals of its first ones, some of which may have
    failed. -/
def survivors (files : List FileInfo) (removals : List (FileInfo × Bool)) : List FileInfo :=
  (removals.filter fun removal => !removal.2).map (·.1) ++ files.drop removals.length

/-- The files that were removed. -/
def deletedFiles (removals : List (FileInfo × Bool)) : List FileInfo :=
  (removals.filter (·.2)).map (·.1)

/-! ## The folder -/

/-- The loop collects the archives and their sizes. -/
private theorem foldl_addFile (dirPath : String) (allFiles : List DirFile)
    (acc : Int × List FileInfo) :
    allFiles.foldl (addFile dirPath) acc =
      (acc.1 + totalSize (zipFiles dirPath (some allFiles)),
        acc.2 ++ zipFiles dirPath (some allFiles)) := by
  induction allFiles generalizing acc with
  | nil => simp [zipFiles]
  | cons file allFiles ih =>
    rw [List.foldl_cons, ih]
    have hzip : zipFiles dirPath (some (file :: allFiles)) =
        zipFiles dirPath (some [file]) ++ zipFiles dirPath (some allFiles) := by
      simp only [zipFiles, Option.getD_some]
      rw [← List.filterMap_append, List.singleton_append]
    -- One path adds at most one file.
    have hone : addFile dirPath acc file =
        (acc.1 + totalSize (zipFiles dirPath (some [file])),
          acc.2 ++ zipFiles dirPath (some [file])) := by
      by_cases hskip : file.filePath = dirPath ∧ file.fileExt = "zip"
      · cases hstat : file.statSize with
        | none => simp [addFile, zipFiles, zipFileExt, hskip, hstat]
        | some size => simp [addFile, zipFiles, zipFileExt, hskip, hstat]
      · have hskip' : (file.filePath ≠ dirPath || file.fileExt ≠ zipFileExt) = true := by
          by_cases hpath : file.filePath = dirPath
          · rw [Bool.or_eq_true, decide_eq_true_iff, decide_eq_true_iff]
            exact .inr fun hext => hskip ⟨hpath, hext⟩
          · simp [hpath]
        rw [addFile, if_pos hskip']
        simp [zipFiles, hskip]
    rw [hone, hzip, totalSize_append, List.append_assoc, Int.add_assoc]

private theorem getDirTotalSize_eq (dirPath : String) (dir : Option (List DirFile)) :
    getDirTotalSize dirPath dir = (totalSize (zipFiles dirPath dir), zipFiles dirPath dir) := by
  cases dir with
  | none => rfl
  | some allFiles =>
    rw [getDirTotalSize, foldl_addFile]
    simp

/-- Sorting keeps the files. -/
private theorem sortByName_perm (files : List FileInfo) : (sortByName files).Perm files :=
  List.mergeSort_perm _ _

/-- The files stand in the order of their names, so a first part of them are the oldest. -/
theorem sortByName_pairwise (files : List FileInfo) :
    (sortByName files).Pairwise fun a b => a.name ≤ b.name := by
  have hsorted : (sortByName files).Pairwise fun a b => decide (a.name ≤ b.name) = true := by
    apply List.pairwise_mergeSort
    · intro a b c hab hbc
      rw [decide_eq_true_eq] at hab hbc ⊢
      exact String.le_trans hab hbc
    · intro a b
      rw [Bool.or_eq_true, decide_eq_true_eq, decide_eq_true_eq]
      exact String.le_total a.name b.name
  exact hsorted.imp fun h => of_decide_eq_true h

private theorem totalSize_sortByName (files : List FileInfo) :
    totalSize (sortByName files) = totalSize files :=
  ((sortByName_perm files).map _).sum_eq

/-! ## The loop -/

section Loop

variable {removeFile : String → Bool}

/-- The loop attempts a first part of the files: those up to where it is done. -/
theorem deleteLoop_eq (removeFile : String → Bool) (loop : DeleteLoop) (files : List FileInfo) :
    ∃ n ≤ files.length,
      deleteLoop removeFile loop files =
        (files.take n).foldl (DeleteLoop.attempt removeFile) loop ∧
      (n < files.length →
        ((files.take n).foldl (DeleteLoop.attempt removeFile) loop).isDone = true) ∧
      ∀ m < n, ((files.take m).foldl (DeleteLoop.attempt removeFile) loop).isDone = false := by
  induction files generalizing loop with
  | nil => exact ⟨0, Nat.le_refl 0, rfl, fun h => absurd h (Nat.lt_irrefl 0), by simp⟩
  | cons file files ih =>
    cases hdone : loop.isDone with
    | true =>
      refine ⟨0, Nat.zero_le _, ?_, fun _ => hdone, by simp⟩
      rw [deleteLoop, if_pos hdone]
      rfl
    -- The loop is not done before the first file, so one more is attempted.
    | false =>
      obtain ⟨n, hn, hloop, hend, hbefore⟩ := ih (loop.attempt removeFile file)
      refine ⟨n + 1, Nat.succ_le_succ hn, ?_, fun h => hend (Nat.lt_of_succ_lt_succ h), ?_⟩
      · rw [deleteLoop, if_neg (by simp [hdone]), hloop]
        rfl
      · intro m hm
        cases m with
        | zero => exact hdone
        | succ m => exact hbefore m (by omega)

/-- After an attempt at each of `done`, with `rest` still to come: the running size and
    count are those of the files that are left. -/
structure Attempted (removeFile : String → Bool) (done rest : List FileInfo) (loop : DeleteLoop) :
    Prop where
  removals : loop.removals = done.map fun file => (file, removeFile file.path)
  size : loop.currentSize = totalSize (survivors (done ++ rest) loop.removals)
  count : loop.fileCount = (survivors (done ++ rest) loop.removals).length

/-- The files left after an attempt at each of `done`. -/
private theorem survivors_attempted (done rest : List FileInfo) :
    survivors (done ++ rest) (done.map fun file => (file, removeFile file.path)) =
      done.filter (fun file => !removeFile file.path) ++ rest := by
  rw [survivors, List.length_map, List.drop_left, List.filter_map, List.map_map]
  congr 1
  exact List.map_id _

/-- One more file is attempted. -/
theorem Attempted.attempt {done rest : List FileInfo} {loop : DeleteLoop} {file : FileInfo}
    (h : Attempted removeFile done (file :: rest) loop) :
    Attempted removeFile (done ++ [file]) rest (loop.attempt removeFile file) := by
  have hremovals : (loop.attempt removeFile file).removals =
      (done ++ [file]).map fun file => (file, removeFile file.path) := by
    rw [List.map_append, ← h.removals]
    -- A file that cannot be removed still counts as attempted.
    cases hremove : removeFile file.path with
    | true => simp [DeleteLoop.attempt, hremove]
    | false => simp [DeleteLoop.attempt, hremove]
  have hsize := h.size
  have hcount := h.count
  rw [h.removals, survivors_attempted] at hsize hcount
  refine ⟨hremovals, ?_, ?_⟩
  · rw [hremovals, survivors_attempted, List.filter_append]
    cases hremove : removeFile file.path with
    | true => simp [DeleteLoop.attempt, hremove, hsize]; omega
    | false => simp [DeleteLoop.attempt, hremove, hsize]
  · rw [hremovals, survivors_attempted, List.filter_append]
    cases hremove : removeFile file.path with
    | true => simp [DeleteLoop.attempt, hremove, hcount]; omega
    | false => simp [DeleteLoop.attempt, hremove, hcount]

/-- Several files are attempted one after the other. -/
theorem Attempted.foldl {done rest more : List FileInfo} {loop : DeleteLoop}
    (h : Attempted removeFile done (more ++ rest) loop) :
    Attempted removeFile (done ++ more) rest (more.foldl (DeleteLoop.attempt removeFile) loop) := by
  induction more generalizing done loop with
  | nil => rwa [List.append_nil]
  | cons file more ih =>
    have hnext := ih h.attempt
    rwa [List.append_assoc] at hnext

/-- The state of the loop after at most `k` turns. -/
private theorem attempted_take (removeFile : String → Bool) (files : List FileInfo) (k : Nat) :
    Attempted removeFile ((sortByName files).take k) ((sortByName files).drop k)
      (((sortByName files).take k).foldl (DeleteLoop.attempt removeFile)
        (startLoop (totalSize files) files)) := by
  have hstart : Attempted removeFile [] ((sortByName files).take k ++ (sortByName files).drop k)
      (startLoop (totalSize files) files) := by
    rw [List.take_append_drop]
    refine ⟨rfl, ?_, ?_⟩
    · rw [← totalSize_sortByName]
      simp [startLoop, survivors]
    · simp [startLoop, survivors, (sortByName_perm files).length_eq]
  have hdone := hstart.foldl
  rwa [List.nil_append] at hdone

/-- The loop is done when what is left is within the limits. -/
theorem Attempted.isDone_iff {done rest : List FileInfo} {loop : DeleteLoop}
    (h : Attempted removeFile done rest loop) :
    loop.isDone = true ↔ WithinLimits (survivors (done ++ rest) loop.removals) := by
  rw [DeleteLoop.isDone, Bool.and_eq_true, decide_eq_true_iff, decide_eq_true_iff, h.size, h.count,
    WithinLimits]

end Loop

/-! ## The files deleted -/

/-- `part` is the shortest first part of `files` without which the rest is `good`. -/
def IsShortestPrefix (good : List FileInfo → Prop) (files part : List FileInfo) : Prop :=
  ∃ n, part = files.take n ∧ good (files.drop n) ∧ ∀ m < n, ¬good (files.drop m)

/-- The states of the loop in `DeleteOldestFiles` are those of its first turns. -/
def loopAfter (removeFile : String → Bool) (files : List FileInfo) (turns : Nat) : DeleteLoop :=
  deleteLoop removeFile (startLoop (totalSize files) files) ((sortByName files).take turns)

/-- What `CleanOldFiles` does with the zip files of a folder. -/
structure CleansUp (dirPath : String) (dir : Option (List DirFile)) : Prop where
  /-- Nothing is deleted under the limits that start the cleaning. -/
  idle : totalSize (zipFiles dirPath dir) ≤ zipMaxSize →
    (zipFiles dirPath dir).length ≤ logfileMax →
    ∀ removeFile, cleanOldFiles removeFile dirPath dir = []
  /-- If every removal succeeds, no more files are deleted than needed. -/
  shortest : ¬(totalSize (zipFiles dirPath dir) ≤ zipMaxSize ∧
      (zipFiles dirPath dir).length ≤ logfileMax) →
    ∀ removeFile, (∀ file ∈ zipFiles dirPath dir, removeFile file.path = true) →
      IsShortestPrefix WithinLimits (sortByName (zipFiles dirPath dir))
        (deletedFiles (cleanOldFiles removeFile dirPath dir))
  /-- In every state of the loop the running size and count are those of the files left. -/
  running : ∀ removeFile turns,
    (loopAfter removeFile (zipFiles dirPath dir) turns).currentSize =
        totalSize (survivors (sortByName (zipFiles dirPath dir))
          (loopAfter removeFile (zipFiles dirPath dir) turns).removals) ∧
      (loopAfter removeFile (zipFiles dirPath dir) turns).fileCount =
        (survivors (sortByName (zipFiles dirPath dir))
          (loopAfter removeFile (zipFiles dirPath dir) turns).removals).length
  /-- A file is attempted only while the files left exceed a limit. -/
  attempted : ∀ removeFile before file ok after,
    cleanOldFiles removeFile dirPath dir = before ++ (file, ok) :: after →
      ¬WithinLimits (survivors (sortByName (zipFiles dirPath dir)) before)

/-- What is removed, and in which state each removal is attempted. -/
private theorem exists_deleteOldestFiles (removeFile : String → Bool) (files : List FileInfo) :
    ∃ n ≤ (sortByName files).length,
      deleteOldestFiles removeFile (totalSize files) files =
        ((sortByName files).take n).map (fun file => (file, removeFile file.path)) ∧
      (n < (sortByName files).length → WithinLimits (survivors (sortByName files)
        (((sortByName files).take n).map fun file => (file, removeFile file.path)))) ∧
      ∀ m < n, ¬WithinLimits (survivors (sortByName files)
        (((sortByName files).take m).map fun file => (file, removeFile file.path))) := by
  obtain ⟨n, hn, hloop, hend, hbefore⟩ := deleteLoop_eq removeFile
    (startLoop (totalSize files) files) (sortByName files)
  -- The loop is done exactly when what has survived is within the limits.
  have hiff : ∀ k, (((sortByName files).take k).foldl (DeleteLoop.attempt removeFile)
      (startLoop (totalSize files) files)).isDone = true ↔
        WithinLimits (survivors (sortByName files)
          (((sortByName files).take k).map fun file => (file, removeFile file.path))) := by
    intro k
    have hk := attempted_take removeFile files k
    rw [hk.isDone_iff, hk.removals, List.take_append_drop]
  refine ⟨n, hn, ?_, fun h => (hiff n).mp (hend h), ?_⟩
  · unfold deleteOldestFiles
    split
    · rename_i hempty
      rw [List.isEmpty_iff.mp hempty]
      simp [sortByName]
    · rw [hloop, (attempted_take removeFile files n).removals]
  · intro m hm hwithin
    have hdone := hbefore m hm
    rw [(hiff m).mpr hwithin] at hdone
    exact nomatch hdone

end HiDumper.Spec
