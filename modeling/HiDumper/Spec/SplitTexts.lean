import HiDumper.ForStd.Fields
import HiDumper.Native.DumpUtils
import HiDumper.Native.FdLinks

/-!
# Texts that are split

What `StringUtils::StringSplit` relies on: it calls `SplitStr` so that empty parts are left
out and the others are not trimmed. And what `getline` makes of a text that was put together
from lines.
-/

namespace HiDumper.Spec

open HiDumper.Native

/-- `SplitStr(str, sep, strs, false, false)` for a separator of one character. -/
structure SplitsParts (strings : StringEx) : Prop where
  splitStr_eq : ∀ (str : String) (sep : Char),
    strings.splitStr str (String.singleton sep) false false =
      (str.toList.fields (· == sep)).map String.ofList

/-- The simple library splits at every separator. -/
theorem simple_splitsParts : SplitsParts StringEx.simple where
  splitStr_eq str sep := by
    have hsep : (fun c : Char => decide (c = sep)) = (· == sep) := by
      funext c
      rw [beq_eq_decide]
    have hpart : (fun part : List Char => !decide (part = [])) = (!·.isEmpty) := by
      funext part
      cases part <;> rfl
    unfold StringEx.simple List.fields
    simp [hsep, hpart]

/-- The second part of a text is what its first two separators have between them. -/
theorem SplitsParts.second {strings : StringEx} (hstrings : SplitsParts strings) {sep : Char}
    {front back : List Char} (hne : front ≠ []) (hfront : sep ∉ front)
    (hback : back.takeWhile (· ≠ sep) ≠ []) :
    (strings.splitStr (String.ofList (front ++ sep :: back)) (String.singleton sep) false false)[1]? =
      some (String.ofList (back.takeWhile (· ≠ sep))) := by
  have hfirst : ∀ c ∈ front, (c == sep) = false := by
    intro c hc
    rw [beq_eq_false_iff_ne]
    exact ne_of_mem_of_not_mem hc hfront
  have hpart : ∀ c ∈ back.takeWhile (· ≠ sep), (c == sep) = false := by
    intro c hc
    simpa using List.mem_takeWhile_imp hc
  have hrest : ∀ c, (back.dropWhile (· ≠ sep)).head? = some c → (c == sep) = true := by
    intro c hc
    have hnot := List.head?_dropWhile_not (· ≠ sep) back
    rw [hc] at hnot
    simpa using hnot
  -- What follows the second part starts with a separator or is empty.
  have hfields := List.fields_part_append hback hpart hrest
  rw [List.takeWhile_append_dropWhile] at hfields
  rw [hstrings.splitStr_eq, String.toList_ofList, List.fields_part_append hne hfirst (by simp),
    List.fields_cons_sep (by simp), hfields]
  rfl

/-! ## Lines -/

/-- Lines with a line break each are found again, with an empty text behind them. -/
private theorem splitOn_flatMap {lines : List (List Char)} (h : ∀ line ∈ lines, '\n' ∉ line) :
    (lines.flatMap fun line => line ++ ['\n']).splitOn '\n' = lines ++ [[]] := by
  induction lines with
  | nil => rfl
  | cons line lines ih =>
    rw [List.flatMap_cons, List.append_assoc, List.singleton_append,
      List.splitOn_append_cons_self_of_not_mem (h line List.mem_cons_self),
      ih fun l hl => h l (List.mem_cons_of_mem line hl), List.cons_append]

/-- Lines that are all ended are read one by one. -/
theorem getlines_flatMap {lines : List (List Char)} (h : ∀ line ∈ lines, '\n' ∉ line) :
    FdThreadDumper.getlines (String.ofList (lines.flatMap fun line => line ++ ['\n'])) =
      lines.map String.ofList := by
  unfold FdThreadDumper.getlines
  dsimp only
  rw [String.toList_ofList, splitOn_flatMap h, if_pos (by simp), List.dropLast_concat]

end HiDumper.Spec
