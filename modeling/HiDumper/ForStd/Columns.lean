import Mathlib
import HiDumper.ForStd.Fields

/-!
# Tables of texts in columns

A row of a table puts its texts one after the other, each filled up to the width of its
column and followed by a gap. If the texts fit their columns, a column begins at the same
position in all rows that have the same widths, and holds the text filled up. Texts without
separators can be read back as fields, whether they fit or not.

## Key results

- `column_row`: what a column of a row holds
- `fields_row`: the fields of a row
- `covers_foldl_widen`: widths that are the largest lengths fit all rows
-/

namespace Columns

open List

variable {α : Type*} {pad : α} {gap : Nat} {widths : List Nat} {texts : List (List α)}

/-- A row: each text filled up to its width, and a gap behind it. -/
def row (pad : α) (gap : Nat) (widths : List Nat) (texts : List (List α)) : List α :=
  (widths.zip texts).flatMap fun cell => cell.2.rightpad cell.1 pad ++ replicate gap pad

/-- Where column `i` begins. -/
def start (gap : Nat) (widths : List Nat) (i : Nat) : Nat :=
  ((widths.take i).map (· + gap)).sum

/-- What column `i` of a line holds. -/
def column (gap : Nat) (widths : List Nat) (i : Nat) (line : List α) : List α :=
  (line.drop (start gap widths i)).take (widths[i]?.getD 0)

/-- One text for each column, none longer than the width. -/
def Fits (widths : List Nat) (texts : List (List α)) : Prop :=
  Forall₂ (fun width text => text.length ≤ width) widths texts

/-- The first cell of a row is filled up to its width, and the gap is behind it. -/
theorem row_cons (width : Nat) (widths : List Nat) (text : List α) (texts : List (List α)) :
    row pad gap (width :: widths) (text :: texts) =
      text.rightpad width pad ++ (replicate gap pad ++ row pad gap widths texts) := by
  simp only [row, zip_cons_cons, flatMap_cons, append_assoc]

/-- A later column starts behind the first one and the gap. -/
theorem start_succ (width : Nat) (widths : List Nat) (i : Nat) :
    start gap (width :: widths) (i + 1) = width + gap + start gap widths i := by
  simp [start]

/-- If the texts fit, every column holds its own text. -/
theorem column_row (h : Fits widths texts) {i : Nat} {text : List α} (hi : texts[i]? = some text) :
    column gap widths i (row pad gap widths texts) = text.rightpad (widths[i]?.getD 0) pad := by
  induction h generalizing i with
  | nil => exact nomatch hi
  | @cons width first widths texts hfirst hrest ih =>
    rw [row_cons]
    have hlength : (first.rightpad width pad).length = width := by
      rw [length_rightpad, Nat.max_eq_left hfirst]
    cases i with
    | zero =>
      obtain rfl : first = text := Option.some.inj hi
      rw [column, start, take_zero, map_nil, sum_nil, drop_zero, getElem?_cons_zero,
        Option.getD_some]
      exact take_left' hlength
    | succ i =>
      -- The start of a later column skips the first, whose text fits its width.
      have hskip : (first.rightpad width pad ++ replicate gap pad).length = width + gap := by
        rw [length_append, hlength, length_replicate]
      have hcolumn := ih (i := i) hi
      rw [column] at hcolumn
      rw [column, start_succ, ← append_assoc, ← drop_drop, drop_left' hskip, getElem?_cons_succ,
        hcolumn]

/-- Texts that are not empty and hold no separators are the fields of their row. -/
theorem fields_row {isSep : α → Bool} (hpad : isSep pad = true) (hgap : gap ≠ 0)
    (hlength : widths.length = texts.length)
    (htexts : ∀ text ∈ texts, text ≠ [] ∧ ∀ c ∈ text, isSep c = false) :
    (row pad gap widths texts).fields isSep = texts := by
  have hpads : ∀ n, ∀ c ∈ replicate n pad, isSep c = true := by
    intro n c hc
    rw [eq_of_mem_replicate hc]
    exact hpad
  induction texts generalizing widths with
  | nil =>
    rw [length_nil, length_eq_zero_iff] at hlength
    rw [hlength]
    rfl
  | cons text texts ih =>
    cases widths with
    | nil => exact nomatch hlength
    | cons width widths =>
      obtain ⟨hne, hsep⟩ := htexts text mem_cons_self
      have hrest := ih (Nat.succ.inj hlength) fun t ht => htexts t (mem_cons_of_mem text ht)
      rw [row_cons, rightpad, append_assoc, ← append_assoc (replicate _ pad), ← replicate_add,
        fields_part_append hne hsep, fields_seps_append (hpads _), hrest]
      -- What follows the text begins with padding.
      intro c hc
      obtain ⟨n, hn⟩ : ∃ n, width - text.length + gap = n + 1 :=
        ⟨width - text.length + gap - 1, by omega⟩
      rw [hn, replicate_succ, cons_append, head?_cons, Option.some.injEq] at hc
      exact hc ▸ hpad

/-! ## Widths -/

/-- Make the columns wide enough for one more row; a longer row adds columns. -/
def widen : List Nat → List (List α) → List Nat
  | widths, [] => widths
  | [], text :: texts => text.length :: widen [] texts
  | width :: widths, text :: texts => max width text.length :: widen widths texts

/-- Every text of the row has a column that is wide enough. -/
def Covers (widths : List Nat) (texts : List (List α)) : Prop :=
  ∀ (i : Nat) (text : List α), texts[i]? = some text →
    ∃ width, widths[i]? = some width ∧ text.length ≤ width

/-- A column of the result is the old one and the text of the row, as far as they exist. -/
theorem getElem?_widen (widths : List Nat) (texts : List (List α)) (i : Nat) :
    (widen widths texts)[i]? = (widths[i]?).merge max ((texts[i]?).map length) := by
  fun_induction widen widths texts generalizing i with
  | case1 widths => simp
  | case2 text texts ih => cases i <;> simp [ih]
  | case3 width widths text texts ih => cases i <;> simp [ih]

/-- Widened columns cover the row they were widened for. -/
theorem covers_widen (widths : List Nat) (texts : List (List α)) :
    Covers (widen widths texts) texts := by
  intro i text hi
  rw [getElem?_widen, hi]
  cases widths[i]? with
  | none => exact ⟨_, rfl, le_refl _⟩
  | some width => exact ⟨_, rfl, le_max_right _ _⟩

/-- Wider columns still cover the cells they covered. -/
theorem Covers.widen {texts : List (List α)} (h : Covers widths texts)
    (other : List (List α)) : Covers (widen widths other) texts := by
  intro i text hi
  obtain ⟨width, hwidth, hle⟩ := h i text hi
  rw [getElem?_widen, hwidth]
  cases other[i]? with
  | none => exact ⟨width, rfl, hle⟩
  | some text' => exact ⟨_, rfl, hle.trans (le_max_left _ _)⟩

/-- Cells that are covered stay covered, however many rows are looked at. -/
theorem Covers.foldl_widen {texts : List (List α)} (h : Covers widths texts)
    (rows : List (List (List α))) : Covers (rows.foldl Columns.widen widths) texts := by
  induction rows generalizing widths with
  | nil => exact h
  | cons first rows ih => exact ih (h.widen first)

/-- The widths after all rows are wide enough for each of them. -/
theorem covers_foldl_widen (widths : List Nat) (rows : List (List (List α))) :
    ∀ texts ∈ rows, Covers (rows.foldl widen widths) texts := by
  induction rows generalizing widths with
  | nil => exact fun texts htexts => absurd htexts not_mem_nil
  | cons first rows ih =>
    intro texts htexts
    rcases mem_cons.mp htexts with rfl | htexts
    · exact (covers_widen widths texts).foldl_widen rows
    · exact ih (Columns.widen widths first) texts htexts

/-- Widening keeps the number of columns. -/
theorem length_foldl_widen {n : Nat} (rows : List (List (List α))) (widths : List Nat)
    (hwidths : widths.length = n) (hrows : ∀ texts ∈ rows, texts.length = n) :
    (rows.foldl widen widths).length = n := by
  have hwiden : ∀ (widths : List Nat) (texts : List (List α)), texts.length = widths.length →
      (widen widths texts).length = widths.length := by
    intro widths texts hlength
    fun_induction widen widths texts with
    | case1 widths => rfl
    | case2 text texts ih => exact nomatch hlength
    | case3 width widths text texts ih => rw [length_cons, length_cons, ih (Nat.succ.inj hlength)]
  induction rows generalizing widths with
  | nil => exact hwidths
  | cons texts rows ih =>
    refine ih _ ?_ fun other hother => hrows other (mem_cons_of_mem texts hother)
    rw [hwiden widths texts (by rw [hwidths, hrows texts mem_cons_self]), hwidths]

/-- Widths that cover a row, changed in a way that keeps room for its texts. -/
theorem Covers.fits_map {texts : List (List α)} (h : Covers widths texts)
    (hlength : widths.length = texts.length) {f : Nat → Nat}
    (hf : ∀ width, ∀ text ∈ texts, text.length ≤ width → text.length ≤ f width) :
    Fits (widths.map f) texts := by
  refine forall₂_iff_get.mpr ⟨by rw [length_map, hlength], fun i hwidth htext => ?_⟩
  obtain ⟨width, hget, hle⟩ := h i texts[i] (getElem?_eq_getElem htext)
  simp only [get_eq_getElem, getElem_map, (List.getElem?_eq_some_iff.mp hget).2]
  exact hf width texts[i] (getElem_mem htext) hle

end Columns
