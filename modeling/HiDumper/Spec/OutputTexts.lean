import HiDumper.ForStd.Padding
import HiDumper.Native.Outputs
import Mathlib.Data.List.TakeWhile
import Mathlib.Algebra.GroupWithZero.Nat

/-!
# The client's text and the zipped text

`FDOutput` looks for a line break anywhere in the last cell of a row and leaves out a row
without cells; `ZipFolderOutput` looks at the end of the whole row. So there are rows that
one of them ends with a line break and the other does not. The texts for a matrix are the
same exactly when these rows make up for each other, with nothing but line breaks between
them.

## Key results

- `fdBreaks_add_unended`: what the two outputs put at the end of a row
- `outMethod_eq_execute_iff`: when the two texts are the same
-/

namespace HiDumper.Spec

open HiDumper.Native ZipFolderOutput

/-- The text of the last cell. -/
def lastCell (row : Row) : List Char := (row.getLast?.getD "").toList

/-- A row that only `ZipFolderOutput` ends: it has no cells, or a line break in its last
    cell that is not at the end. -/
def unendedRow (row : Row) : Bool :=
  row = [] || ('\n' ∈ lastCell row && (lastCell row).getLast? ≠ some '\n')

/-- A row that only `FDOutput` ends: an empty cell after a line break. -/
def reendedRow (row : Row) : Bool :=
  lastCell row = [] && (appendItems row).getLast? = some '\n'

/-- The line breaks that `FDOutput` adds to a row. -/
def fdBreaks (row : Row) : Nat := if row ≠ [] ∧ '\n' ∉ lastCell row then 1 else 0

/-- The line breaks that `ZipFolderOutput` adds to a row. -/
def zipBreaks (row : Row) : Nat := if (appendItems row).getLast? = some '\n' then 0 else 1

/-! ## Rows -/

/-- The last cell of a row is that of the rest. -/
private theorem lastCell_cons_cons (cell next : String) (row : Row) :
    lastCell (cell :: next :: row) = lastCell (next :: row) := by
  simp [lastCell, List.getLast?_cons_cons]

/-- A row ends in its last cell, if that is not empty. -/
private theorem getLast?_appendItems {row : Row} (h : lastCell row ≠ []) :
    (appendItems row).getLast? = (lastCell row).getLast? := by
  induction row with
  | nil => exact absurd rfl h
  | cons cell row ih =>
    cases row with
    | nil => simp [appendItems, lastCell]
    | cons next row =>
      rw [lastCell_cons_cons] at h ⊢
      rw [← ih h]
      have hrow : (appendItems (next :: row)).getLast? ≠ none := by
        rw [ih h]
        simpa using h
      show (cell.toList ++ appendItems (next :: row)).getLast? = _
      rw [List.getLast?_append]
      obtain ⟨c, hc⟩ := Option.ne_none_iff_exists'.mp hrow
      rw [hc, Option.some_or]

/-- A text without a NUL is written whole. -/
private theorem cStr_of_notMem {str : List Char} (h : '\x00' ∉ str) : cStr str = str := by
  have hall : ∀ c ∈ str, decide (c ≠ '\x00') = true := by
    intro c hc
    apply decide_eq_true
    rintro rfl
    exact h hc
  exact List.takeWhile_eq_self_iff.mpr hall

/-- The line that is written to a descriptor. -/
private theorem fd_outLine_eq {row : Row} (h : ∀ cell ∈ row, '\x00' ∉ cell.toList) :
    FDOutput.outLine row = appendItems row ++ List.replicate (fdBreaks row) '\n' := by
  induction row with
  | nil => rfl
  | cons cell row ih =>
    have hcell : '\x00' ∉ cell.toList := h cell List.mem_cons_self
    cases row with
    | nil =>
      show cStr (FDOutput.newLineMethod cell.toList) = _
      have hlast : lastCell [cell] = cell.toList := rfl
      by_cases hbreak : '\n' ∈ cell.toList
      -- Only the last cell decides over the line break.
      · rw [FDOutput.newLineMethod, if_neg (by simpa using hbreak), cStr_of_notMem hcell, fdBreaks,
          if_neg (by simp [hlast, hbreak])]
        simp [appendItems]
      · rw [FDOutput.newLineMethod, if_pos hbreak, cStr_of_notMem (by simp [hcell]), fdBreaks,
          if_pos (by simp [hlast, hbreak])]
        simp [appendItems]
    | cons next row =>
      have hbreaks : fdBreaks (cell :: next :: row) = fdBreaks (next :: row) := by
        simp [fdBreaks, lastCell_cons_cons]
      have hrest := ih fun other hother => h other (List.mem_cons_of_mem _ hother)
      show cStr cell.toList ++ FDOutput.outLine (next :: row) = _
      rw [cStr_of_notMem hcell, hrest, hbreaks, ← List.append_assoc]
      rfl

/-- The line that is written to an archive. -/
private theorem zip_outLine_eq (row : Row) :
    ZipFolderOutput.outLine row = appendItems row ++ List.replicate (zipBreaks row) '\n' := by
  unfold ZipFolderOutput.outLine zipBreaks
  by_cases hend : (appendItems row).getLast? = some '\n'
  · have hne : appendItems row ≠ [] := by
      intro hnil
      rw [hnil] at hend
      exact nomatch hend
    rw [if_neg (by simp [hne, hend]), if_pos hend]
    simp
  · rw [if_pos (Or.inr hend), if_neg hend]
    rfl

/-- The outputs add the same, but for the rows that only one of them ends. -/
theorem fdBreaks_add_unended (row : Row) :
    fdBreaks row + (unendedRow row).toNat = zipBreaks row + (reendedRow row).toNat := by
  by_cases hnil : row = []
  · subst hnil
    rfl
  by_cases hempty : lastCell row = []
  · -- Nothing in the last cell: the end of the row is in the cells before.
    by_cases hend : (appendItems row).getLast? = some '\n'
    · simp [fdBreaks, zipBreaks, unendedRow, reendedRow, hnil, hempty, hend]
    · simp [fdBreaks, zipBreaks, unendedRow, reendedRow, hnil, hempty, hend]
  · have hlast := getLast?_appendItems hempty
    by_cases hend : (lastCell row).getLast? = some '\n'
    · have hmem : '\n' ∈ lastCell row := List.mem_of_getLast? hend
      simp [fdBreaks, zipBreaks, unendedRow, reendedRow, hnil, hempty, hlast, hend, hmem]
    · by_cases hmem : '\n' ∈ lastCell row
      · simp [fdBreaks, zipBreaks, unendedRow, reendedRow, hnil, hempty, hlast, hend, hmem]
      · simp [fdBreaks, zipBreaks, unendedRow, reendedRow, hnil, hempty, hlast, hend, hmem]

/-! ## Matrices -/

/-- How many more line breaks one of the two outputs has. -/
private theorem sum_fdBreaks_add (rows : List Row) :
    (rows.map fdBreaks).sum + rows.countP unendedRow =
      (rows.map zipBreaks).sum + rows.countP reendedRow := by
  induction rows with
  | nil => rfl
  | cons row rows ih =>
    have hrow := fdBreaks_add_unended row
    simp only [List.map_cons, List.sum_cons, List.countP_cons]
    cases hunended : unendedRow row <;> cases hreended : reendedRow row <;>
      simp_all <;> omega

/-- Both have added as much if as many rows are ended by one alone as by the other. -/
private theorem sum_breaks_eq_iff (rows : List Row) :
    (rows.map fdBreaks).sum = (rows.map zipBreaks).sum ↔
      rows.countP unendedRow = rows.countP reendedRow := by
  have hsum := sum_fdBreaks_add rows
  omega

/-- The client and the zipped log get the same text for a matrix if and only if as many of
    its rows are ended by `ZipFolderOutput` alone as by `FDOutput` alone, and this holds of
    the rows before every row that has something other than line breaks. -/
theorem outMethod_eq_execute_iff (dumpDatas : List Row)
    (hnul : ∀ row ∈ dumpDatas, ∀ cell ∈ row, '\x00' ∉ cell.toList) :
    FDOutput.outMethod dumpDatas = ZipFolderOutput.execute dumpDatas ↔
      dumpDatas.countP unendedRow = dumpDatas.countP reendedRow ∧
      ∀ pre row post, dumpDatas = pre ++ row :: post →
        pre.countP unendedRow = pre.countP reendedRow ∨ ∀ c ∈ appendItems row, c = '\n' := by
  have hfd : FDOutput.outMethod dumpDatas = List.padded '\n' appendItems fdBreaks dumpDatas :=
    List.flatMap_congr fun row hrow => fd_outLine_eq (hnul row hrow)
  have hzip : ZipFolderOutput.execute dumpDatas =
      List.padded '\n' appendItems zipBreaks dumpDatas :=
    List.flatMap_congr fun row _ => zip_outLine_eq row
  rw [hfd, hzip, List.padded_eq_padded_iff]
  simp only [sum_breaks_eq_iff]

/-- An empty row. -/
theorem outMethod_ne_execute_empty_row :
    FDOutput.outMethod [[]] ≠ ZipFolderOutput.execute [[]] := by decide

/-- The rows of an ordinary table. -/
theorem outMethod_eq_execute_table :
    FDOutput.outMethod [["pid ", "name"], ["1 ", "init\n"]] =
      ZipFolderOutput.execute [["pid ", "name"], ["1 ", "init\n"]] := by
  apply (outMethod_eq_execute_iff _ (by decide)).mpr
  refine ⟨by decide, fun pre row post heq => ?_⟩
  left
  have hplain : ∀ r ∈ pre, unendedRow r = false ∧ reendedRow r = false := by
    intro r hr
    have htable : ∀ r ∈ [["pid ", "name"], ["1 ", "init\n"]],
        unendedRow r = false ∧ reendedRow r = false := by decide
    apply htable
    rw [heq]
    exact List.mem_append_left _ hr
  rw [List.countP_eq_zero.mpr fun r hr => by simp [(hplain r hr).1],
    List.countP_eq_zero.mpr fun r hr => by simp [(hplain r hr).2]]

end HiDumper.Spec
