import HiDumper.Native.PrintMemoryInfo
import Mathlib.Algebra.Order.Floor.Ring
import Mathlib.Data.List.GetD
import Mathlib.Data.Rat.Floor
import Mathlib.Tactic.FieldSimp
import Mathlib.Tactic.Linarith

/-!
# The block of lines of a memory session

Each block has two lines of header, one line for each sample that is shown, and a line of
dots wherever samples are left out between two that are shown. The lines are counted by
hand next to the text. The next block erases as many lines as were counted, so the count
has to be the number of line breaks in the text.

## Key results

- `calculateMaxIdex_spec`: the index that the loop over the middle samples finds
- `calculateStars_bounds`: the number of stars
- `generateLine_columns`: the line of a sample
- `exists_shown`: the samples that are shown, and the dots between them
- `printMemoryInfo_spec`: the block
-/

namespace HiDumper.Spec

open HiDumper.Native PrintMemoryInfo

/-! ## Stars -/

/-- Cutting off the fraction keeps a number between integers. -/
private theorem toInt_bounds {value : Rat} {lower upper : Int} (hpos : 0 ≤ lower)
    (hlower : lower ≤ value)
    (hupper : value ≤ upper) : lower ≤ toInt value ∧ toInt value ≤ upper := by
  have hvalue : (0 : Rat) ≤ value := le_trans (by exact_mod_cast hpos) hlower
  have hnum : 0 ≤ value.num := Rat.num_nonneg.mpr hvalue
  have hfloor : toInt value = ⌊value⌋ := by
    rw [toInt, Int.tdiv_eq_ediv_of_nonneg hnum, ← Rat.floor_def]
    rfl
  rw [hfloor]
  constructor
  · exact Int.le_floor.mpr hlower
  · have hle := Int.floor_le value
    exact_mod_cast le_trans hle hupper

/-- Between one star and `MAX_STARS_NUM`. -/
theorem calculateStars_bounds {pssValues : List Int} {pss : Int} (hpss : pss ∈ pssValues) :
    1 ≤ calculateStars pssValues pss ∧ calculateStars pssValues pss ≤ 20 := by
  unfold calculateStars
  cases hmin : pssValues.min? with
  | none => exact ⟨(by decide : 1 ≤ maxStarsNum), (by decide : maxStarsNum ≤ 20)⟩
  | some minPSS =>
    cases hmax : pssValues.max? with
    | none => exact ⟨(by decide : 1 ≤ maxStarsNum), (by decide : maxStarsNum ≤ 20)⟩
    | some maxPSS =>
      have hle := (List.min?_eq_some_iff.mp hmin).2 pss hpss
      have hge := (List.max?_eq_some_iff.mp hmax).2 pss hpss
      simp only
      split
      · exact ⟨by decide, by decide⟩
      · rename_i hne
        -- The share of the sample lies between 0 and 1.
        have hspan : (0 : Rat) < ((maxPSS - minPSS : Int) : Rat) := by
          exact_mod_cast (by omega : 0 < maxPSS - minPSS)
        have hshare : (0 : Rat) ≤
            ((pss - minPSS : Int) : Rat) / ((maxPSS - minPSS : Int) : Rat) := by
          apply div_nonneg _ hspan.le
          exact_mod_cast (by omega : 0 ≤ pss - minPSS)
        have hshare' : ((pss - minPSS : Int) : Rat) / ((maxPSS - minPSS : Int) : Rat) ≤ 1 := by
          rw [div_le_one hspan]
          exact_mod_cast (by omega : pss - minPSS ≤ maxPSS - minPSS)
        have hstars : ((maxStarsNum - oneStar : Int) : Rat) = 19 := by
          rw [show maxStarsNum - oneStar = 19 from rfl]
          rfl
        have hone : ((oneStar : Int) : Rat) = 1 := rfl
        rw [hstars, hone]
        generalize ((pss - minPSS : Int) : Rat) / ((maxPSS - minPSS : Int) : Rat) = share
          at hshare hshare'
        apply toInt_bounds
        · decide
        · push_cast
          linarith
        · push_cast
          linarith

/-! ## The largest sample in the middle -/

/-- Neither one of the first five samples nor one of the last five. -/
def IsMiddle (pssValues : List Int) (i : Nat) : Prop := 5 ≤ i ∧ i < pssValues.length - 5

/-- Some sample in the middle is larger than the first of all. -/
def MiddleExceeds (pssValues : List Int) : Prop :=
  ∃ i, IsMiddle pssValues i ∧ pssValues.getD 0 0 < pssValues.getD i 0

/-- The first index of the largest sample in the middle. -/
structure IsFirstMiddleMax (pssValues : List Int) (i : Nat) : Prop where
  middle : IsMiddle pssValues i
  largest : ∀ j, IsMiddle pssValues j → pssValues.getD j 0 ≤ pssValues.getD i 0
  first : ∀ j, IsMiddle pssValues j → j < i → pssValues.getD j 0 < pssValues.getD i 0

/-- There is one first largest sample in the middle. -/
theorem IsFirstMiddleMax.unique {pssValues : List Int} {i j : Nat}
    (hi : IsFirstMiddleMax pssValues i) (hj : IsFirstMiddleMax pssValues j) : i = j := by
  have hij := hi.largest j hj.middle
  have hji := hj.largest i hi.middle
  rcases Nat.lt_trichotomy i j with hlt | heq | hlt
  · have hfirst := hj.first i hi.middle hlt
    omega
  · exact heq
  · have hfirst := hi.first j hj.middle hlt
    omega

/-- After `k` turns: still at the first sample, which is not exceeded so far, or at the
    first largest one of the indices visited. -/
private theorem foldl_maxIndex (pssValues : List Int) (k : Nat) :
    let maxIndex := (List.range' 5 k).foldl (fun maxIndex i =>
      if pssValues.getD i 0 > pssValues.getD maxIndex 0 then i else maxIndex) 0
    (maxIndex = 0 ∧ ∀ j, 5 ≤ j → j < 5 + k → pssValues.getD j 0 ≤ pssValues.getD 0 0) ∨
      (5 ≤ maxIndex ∧ maxIndex < 5 + k ∧ pssValues.getD 0 0 < pssValues.getD maxIndex 0 ∧
        (∀ j, 5 ≤ j → j < 5 + k → pssValues.getD j 0 ≤ pssValues.getD maxIndex 0) ∧
        ∀ j, 5 ≤ j → j < maxIndex → pssValues.getD j 0 < pssValues.getD maxIndex 0) := by
  induction k with
  | zero =>
    refine .inl ⟨rfl, fun j hj hlt => ?_⟩
    omega
  | succ k ih =>
    simp only at ih ⊢
    rw [List.range'_concat, List.foldl_append, List.foldl_cons, List.foldl_nil, Nat.one_mul]
    generalize (List.range' 5 k).foldl (fun maxIndex i =>
      if pssValues.getD i 0 > pssValues.getD maxIndex 0 then i else maxIndex) 0 = maxIndex at ih ⊢
    split
    · -- A new largest sample: all before it are below it.
      rename_i hgt
      have hbelow : ∀ j, 5 ≤ j → j < 5 + k → pssValues.getD j 0 < pssValues.getD (5 + k) 0 := by
        intro j hj hlt
        obtain ⟨rfl, hle⟩ | ⟨-, -, -, hle, -⟩ := ih
        · have := hle j hj hlt
          omega
        · have := hle j hj hlt
          omega
      refine .inr ⟨by omega, by omega, ?_, ?_, hbelow⟩
      · obtain ⟨rfl, -⟩ | ⟨-, -, hexceeds, -⟩ := ih
        · exact hgt
        · omega
      · intro j hj hlt
        by_cases heq : j = 5 + k
        · rw [heq]
        · have := hbelow j hj (by omega)
          omega
    · rename_i hle
      obtain ⟨rfl, hall⟩ | ⟨hge, hlt, hexceeds, hall, hfirst⟩ := ih
      · refine .inl ⟨rfl, fun j hj hlt => ?_⟩
        by_cases heq : j = 5 + k
        · rw [heq]
          omega
        · exact hall j hj (by omega)
      · refine .inr ⟨hge, by omega, hexceeds, fun j hj hlt => ?_, hfirst⟩
        by_cases heq : j = 5 + k
        · rw [heq]
          omega
        · exact hall j hj (by omega)

/-- The loop finds the first index of the largest sample in the middle, if that is larger
    than the first sample of all, and else stays at 0. -/
theorem calculateMaxIdex_spec {pssValues : List Int} (hsize : 10 < pssValues.length) :
    (calculateMaxIdex pssValues 0 = 0 ∧ ¬MiddleExceeds pssValues) ∨
      (IsFirstMiddleMax pssValues (calculateMaxIdex pssValues 0) ∧ MiddleExceeds pssValues) := by
  have hscan := foldl_maxIndex pssValues (pssValues.length - 5 - 5)
  have heq : calculateMaxIdex pssValues 0 =
      (List.range' 5 (pssValues.length - 5 - 5)).foldl (fun maxIndex i =>
        if pssValues.getD i 0 > pssValues.getD maxIndex 0 then i else maxIndex) 0 := rfl
  simp only [← heq] at hscan
  obtain ⟨hzero, hall⟩ | ⟨hge, hlt, hexceeds, hall, hfirst⟩ := hscan
  · refine .inl ⟨hzero, ?_⟩
    rintro ⟨j, ⟨hj, hj'⟩, hgt⟩
    have hle := hall j hj (by omega)
    omega
  · have hmiddle : IsMiddle pssValues (calculateMaxIdex pssValues 0) := ⟨hge, by omega⟩
    refine .inr ⟨⟨hmiddle, ?_, ?_⟩, ⟨_, hmiddle, hexceeds⟩⟩
    · rintro j ⟨hj, hj'⟩
      exact hall j hj (by omega)
    · rintro j ⟨hj, -⟩ hbefore
      exact hfirst j hj hbefore

/-! ## Lines -/

/-- A line of the block under its header. -/
inductive ShownLine where
  | sample (index : Nat)
  | dots
  deriving DecidableEq, Repr

/-- The text of a line. -/
def ShownLine.text (pssValues : List Int) : ShownLine → String
  | sample index => generateLine pssValues index
  | dots => "...\n"

/-- A line of dots between two samples that do not follow each other. -/
def dotsBetween (index next : Nat) : List ShownLine := if next = index + 1 then [] else [.dots]

/-- Samples with dots exactly between neighbours that do not follow each other. -/
def withDots : List Nat → List ShownLine
  | [] => []
  | [index] => [.sample index]
  | index :: next :: rest => .sample index :: (dotsBetween index next ++ withDots (next :: rest))

/-- The line of a sample begins with its stars and no more of them. Behind the columns of the
    stars it has the number of the sample, counted from one, and its size. -/
theorem generateLine_columns {pssValues : List Int} {index : Nat} (hlt : index < pssValues.length) :
    (((generateLine pssValues index).toList.takeWhile (· = '*')).length : Int) =
        calculateStars pssValues (pssValues.getD index 0) ∧
      (generateLine pssValues index).toList.drop 26 =
        ("times" ++ toString (index + 1) ++ ": PSS=" ++ toString (pssValues.getD index 0) ++
          "kB\n").toList := by
  have hmem : pssValues.getD index 0 ∈ pssValues := by
    rw [List.getD_eq_getElem _ _ hlt]
    exact List.getElem_mem hlt
  obtain ⟨hge, hle⟩ := calculateStars_bounds hmem
  obtain ⟨stars, hstars⟩ := Int.eq_ofNat_of_zero_le
    (show 0 ≤ calculateStars pssValues (pssValues.getD index 0) by omega)
  rw [hstars] at hge hle
  obtain ⟨blanks, hblanks⟩ : ∃ blanks, 26 - stars = blanks + 1 := ⟨25 - stars, by omega⟩
  have hline : (generateLine pssValues index).toList =
      List.replicate stars '*' ++ (List.replicate (blanks + 1) ' ' ++
        ("times" ++ toString (index + 1) ++ ": PSS=" ++ toString (pssValues.getD index 0) ++
          "kB\n").toList) := by
    have htoNat : (26 - (stars : Int)).toNat = blanks + 1 := by omega
    simp only [generateLine, hstars, htoNat, Int.toNat_natCast, String.toList_append,
      String.toList_ofList, List.append_assoc]
  rw [hline, hstars]
  constructor
  · -- The stars end at the first blank, and there is one.
    rw [List.takeWhile_append_of_pos (by simp), List.replicate_succ, List.cons_append,
      List.takeWhile_cons_of_neg (by decide), List.append_nil, List.length_replicate]
  · rw [← List.append_assoc]
    apply List.drop_left'
    rw [List.length_append, List.length_replicate, List.length_replicate]
    omega

/-- The line of a sample is one line. -/
private theorem lineBreaks_generateLine (pssValues : List Int) (index : Nat) :
    (generateLine pssValues index).lineBreaks = 1 := by
  simp only [generateLine, String.lineBreaks_append, String.lineBreaks_natToString,
    String.lineBreaks_intToString,
    String.lineBreaks_ofList_replicate _ (show '*' ≠ '\n' by decide),
    String.lineBreaks_ofList_replicate _ (show ' ' ≠ '\n' by decide)]
  rfl

/-- As many line breaks as lines are shown. -/
private theorem lineBreaks_lines (pssValues : List Int) (lines : List ShownLine) :
    (String.join (lines.map (·.text pssValues))).lineBreaks = lines.length := by
  rw [String.lineBreaks_join, List.map_map]
  induction lines with
  | nil => rfl
  | cons line lines ih =>
    have hone : (line.text pssValues).lineBreaks = 1 := by
      cases line with
      | sample index => exact lineBreaks_generateLine pssValues index
      | dots => exact (by decide : "...\n".lineBreaks = 1)
    rw [List.map_cons, List.sum_cons, ih, Function.comp_apply, hone, List.length_cons, Nat.add_comm]

/-- A block with more lines under it. -/
def Block.withLines (block : Block) (pssValues : List Int) (lines : List ShownLine) : Block :=
  ⟨block.output ++ String.join (lines.map (·.text pssValues)),
    block.currentLineCount + lines.length⟩

theorem Block.withLines_nil (block : Block) (pssValues : List Int) :
    Block.withLines block pssValues [] = block := by
  simp [Block.withLines, String.join_nil]

theorem Block.withLines_append (block : Block) (pssValues : List Int)
    (lines lines' : List ShownLine) :
    Block.withLines (Block.withLines block pssValues lines) pssValues lines' =
      Block.withLines block pssValues (lines ++ lines') := by
  simp only [Block.withLines, List.map_append, List.length_append, String.join_append,
    String.append_assoc, Nat.add_assoc]

theorem Block.addLine_sample (block : Block) (pssValues : List Int) (index : Nat) :
    block.addLine (generateLine pssValues index) =
      Block.withLines block pssValues [.sample index] := by
  simp [Block.addLine, Block.withLines, ShownLine.text, String.join_cons, String.join_nil]

theorem Block.addLine_dots (block : Block) (pssValues : List Int) :
    block.addLine "...\n" = Block.withLines block pssValues [.dots] := by
  simp [Block.addLine, Block.withLines, ShownLine.text, String.join_cons, String.join_nil]

theorem Block.foldl_addLine (block : Block) (pssValues : List Int) (indices : List Nat) :
    indices.foldl (fun block i => block.addLine (generateLine pssValues i)) block =
      Block.withLines block pssValues (indices.map .sample) := by
  induction indices generalizing block with
  | nil => exact (Block.withLines_nil block pssValues).symm
  | cons index indices ih =>
    rw [List.foldl_cons, ih, Block.addLine_sample, Block.withLines_append]
    rfl

/-! ## The samples that are shown -/

/-- Which samples are shown. -/
structure ShowsSamples (pssValues : List Int) (indices : List Nat) : Prop where
  increasing : indices.Pairwise (· < ·)
  few : pssValues.length ≤ 10 → indices = List.range pssValues.length
  /-- The first five, the last five and the largest in the middle. -/
  many : 10 < pssValues.length → ∀ i, i ∈ indices ↔
    i < 5 ∨ (pssValues.length - 5 ≤ i ∧ i < pssValues.length) ∨
      (MiddleExceeds pssValues ∧ IsFirstMiddleMax pssValues i)
  stars : ∀ i ∈ indices, 1 ≤ calculateStars pssValues (pssValues.getD i 0) ∧
    calculateStars pssValues (pssValues.getD i 0) ≤ 20

/-- Dots stand behind a stretch of samples, not inside it. -/
private theorem withDots_range'_append (start n next : Nat) (rest : List Nat) :
    withDots (List.range' start (n + 1) ++ next :: rest) =
      (List.range' start (n + 1)).map .sample ++
        (dotsBetween (start + n) next ++ withDots (next :: rest)) := by
  induction n generalizing start with
  | zero => rfl
  | succ n ih =>
    have hrest := ih (start + 1)
    rw [List.range'_succ] at hrest ⊢
    rw [List.range'_succ, List.cons_append, List.cons_append, withDots, dotsBetween, if_pos rfl,
      List.nil_append, ← List.cons_append, hrest, Nat.add_right_comm start 1 n]
    rfl

/-- A stretch of samples has no dots. -/
private theorem withDots_range' (start n : Nat) :
    withDots (List.range' start n) = (List.range' start n).map .sample := by
  cases n with
  | zero => rfl
  | succ n =>
    -- All but the last one, and the last one.
    cases n with
    | zero => rfl
    | succ n =>
      rw [List.range'_concat, withDots_range'_append, dotsBetween, if_pos (by omega),
        List.map_append]
      rfl

/-- A block of few samples shows them all. -/
theorem Block.addAll_eq (block : Block) (pssValues : List Int) :
    block.addAll pssValues =
      Block.withLines block pssValues (withDots (List.range pssValues.length)) := by
  have hfold : ∀ (indices : List Nat) (block : Block), indices.foldl (fun block i =>
      { block with output := block.output ++ generateLine pssValues i }) block =
        ⟨block.output ++ String.join (indices.map (generateLine pssValues)),
          block.currentLineCount⟩ := by
    intro indices
    induction indices with
    | nil => intro block; simp [String.join_nil]
    | cons index indices ih =>
      intro block
      rw [List.foldl_cons, ih, List.map_cons, String.join_cons, String.append_assoc]
  rw [Block.addAll, hfold, List.range_eq_range', withDots_range', Block.withLines, List.map_map,
    List.length_map, List.length_range']
  rfl

/-- The indices shown of more than ten samples. -/
def shownOfMany (size maxIndex : Nat) : List Nat :=
  List.range' 0 5 ++ ((if maxIndex = 0 then [] else [maxIndex]) ++ List.range' (size - 5) 5)

/-- The lines without a largest sample in the middle. -/
private theorem withDots_shownOfMany_zero (size : Nat) :
    withDots (shownOfMany size 0) =
      (List.range' 0 5).map .sample ++
        (dotsBetween 4 (size - 5) ++ (List.range' (size - 5) 5).map .sample) := by
  have hlast := withDots_range' (size - 5) 5
  rw [show List.range' (size - 5) 5 = (size - 5) :: List.range' (size - 5 + 1) 4 from rfl]
    at hlast ⊢
  rw [shownOfMany, if_pos rfl, List.nil_append]
  exact (withDots_range'_append 0 4 (size - 5) _).trans (by rw [hlast])

/-- The lines with one. -/
private theorem withDots_shownOfMany {size maxIndex : Nat} (hmax : maxIndex ≠ 0) :
    withDots (shownOfMany size maxIndex) =
      (List.range' 0 5).map .sample ++ (dotsBetween 4 maxIndex ++ (.sample maxIndex ::
        (dotsBetween maxIndex (size - 5) ++ (List.range' (size - 5) 5).map .sample))) := by
  have hlast := withDots_range' (size - 5) 5
  rw [show List.range' (size - 5) 5 = (size - 5) :: List.range' (size - 5 + 1) 4 from rfl]
    at hlast ⊢
  rw [shownOfMany, if_neg hmax, List.singleton_append]
  exact (withDots_range'_append 0 4 maxIndex _).trans (by rw [← hlast]; rfl)

/-- A block of many samples shows the first and last five, and the largest in between. -/
theorem Block.addSome_eq (block : Block) {pssValues : List Int} (hsize : 10 < pssValues.length) :
    block.addSome pssValues = Block.withLines block pssValues
      (withDots (shownOfMany pssValues.length (calculateMaxIdex pssValues 0))) := by
  have hmax := calculateMaxIdex_spec hsize
  unfold Block.addSome
  simp only
  rw [Block.foldl_addLine, Block.foldl_addLine]
  generalize calculateMaxIdex pssValues 0 = maxIndex at hmax ⊢
  obtain ⟨rfl, -⟩ | ⟨⟨⟨hge, hlt⟩, -, -⟩, -⟩ := hmax
  · -- No sample of the middle: one line of dots between the fifth and the fifth from the end.
    have hgap : dotsBetween 4 (pssValues.length - 5) = [.dots] := by
      rw [dotsBetween, if_neg (by omega)]
    have hnot : ¬(decide (0 ≥ minIndex) && decide (0 < pssValues.length - lastLines)) = true := by
      simp [minIndex]
    rw [if_neg hnot, Block.addLine_dots _ pssValues, Block.withLines_append, Block.withLines_append,
      withDots_shownOfMany_zero, hgap]
    rfl
  · have hshow : (decide (maxIndex ≥ minIndex) &&
        decide (maxIndex < pssValues.length - lastLines)) = true := by
      rw [Bool.and_eq_true, decide_eq_true_iff, decide_eq_true_iff]
      exact ⟨hge, hlt⟩
    -- Dots before the sample unless it is the sixth, and after it unless it is the sixth from
    -- the end.
    have hbefore : ∀ block : Block,
        (if maxIndex > minIndex then block.addLine "...\n" else block) =
          Block.withLines block pssValues (dotsBetween 4 maxIndex) := by
      intro block
      unfold dotsBetween
      by_cases hsixth : maxIndex = 4 + 1
      · rw [if_neg (show ¬maxIndex > minIndex by unfold minIndex; omega), if_pos hsixth,
          Block.withLines_nil]
      · rw [if_pos (show maxIndex > minIndex by unfold minIndex; omega), if_neg hsixth,
          Block.addLine_dots]
    have hafter : ∀ block : Block,
        (if maxIndex < pssValues.length - thresholdLines then block.addLine "...\n" else block) =
          Block.withLines block pssValues (dotsBetween maxIndex (pssValues.length - 5)) := by
      intro block
      unfold dotsBetween
      by_cases hsixth : pssValues.length - 5 = maxIndex + 1
      · rw [if_neg (show ¬maxIndex < pssValues.length - thresholdLines by
            unfold thresholdLines; omega), if_pos hsixth, Block.withLines_nil]
      · rw [if_pos (show maxIndex < pssValues.length - thresholdLines by
            unfold thresholdLines; omega), if_neg hsixth, Block.addLine_dots]
    rw [if_pos hshow, hafter, hbefore, Block.addLine_sample]
    simp only [Block.withLines_append]
    rw [withDots_shownOfMany (by omega)]
    simp only [List.append_assoc, List.singleton_append]
    rfl

/-- All of few samples are the right ones. -/
private theorem showsSamples_range {pssValues : List Int} (hsize : pssValues.length ≤ 10) :
    ShowsSamples pssValues (List.range pssValues.length) := by
  constructor
  case increasing => exact List.pairwise_lt_range
  case few => exact fun _ => rfl
  case many => exact fun hmany => absurd hsize (by omega)
  case stars =>
    intro i hi
    have hlt : i < pssValues.length := List.mem_range.mp hi
    rw [List.getD_eq_getElem _ _ hlt]
    exact calculateStars_bounds (List.getElem_mem hlt)

private theorem showsSamples_shownOfMany {pssValues : List Int} (hsize : 10 < pssValues.length) :
    ShowsSamples pssValues (shownOfMany pssValues.length (calculateMaxIdex pssValues 0)) := by
  have hmax := calculateMaxIdex_spec hsize
  generalize calculateMaxIdex pssValues 0 = maxIndex at hmax
  -- The indices shown: the first five, the last five, and the largest one between them.
  have hmem : ∀ i, i ∈ shownOfMany pssValues.length maxIndex ↔
      i < 5 ∨ (pssValues.length - 5 ≤ i ∧ i < pssValues.length) ∨ (maxIndex ≠ 0 ∧ i = maxIndex) := by
    intro i
    rw [shownOfMany, List.mem_append, List.mem_append, List.mem_range'_1, List.mem_range'_1]
    split
    · simp only [List.not_mem_nil, false_or]
      omega
    · rw [List.mem_singleton]
      omega
  constructor
  case increasing =>
    rw [shownOfMany, List.pairwise_append, List.pairwise_append]
    refine ⟨List.pairwise_lt_range', ⟨?_, List.pairwise_lt_range', ?_⟩, ?_⟩
    · split
      · exact .nil
      · exact List.pairwise_singleton _ _
    -- The largest one is in front of the last five.
    · intro i hi j hj
      rw [List.mem_range'_1] at hj
      obtain ⟨rfl, -⟩ | ⟨hfirst, -⟩ := hmax
      · exact nomatch hi
      · have hlt := hfirst.middle.2
        split at hi
        · exact nomatch hi
        · rw [List.mem_singleton] at hi
          omega
    -- And it is behind the first five.
    · intro i hi j hj
      rw [List.mem_range'_1] at hi
      rw [List.mem_append, List.mem_range'_1] at hj
      obtain ⟨rfl, -⟩ | ⟨hfirst, -⟩ := hmax
      · simp only [if_pos, List.not_mem_nil, false_or] at hj
        omega
      · have hge := hfirst.middle.1
        rw [if_neg (by omega), List.mem_singleton] at hj
        omega
  case few => exact fun hfew => absurd hsize (by omega)
  case many =>
    intro _ i
    rw [hmem]
    obtain ⟨rfl, hnot⟩ | ⟨hfirst, hexceeds⟩ := hmax
    · simp [hnot]
    · have hne : maxIndex ≠ 0 := by
        have hge := hfirst.middle.1
        omega
      have hiff : (maxIndex ≠ 0 ∧ i = maxIndex) ↔
          (MiddleExceeds pssValues ∧ IsFirstMiddleMax pssValues i) := by
        constructor
        · rintro ⟨-, rfl⟩
          exact ⟨hexceeds, hfirst⟩
        · rintro ⟨-, hi⟩
          exact ⟨hne, hi.unique hfirst⟩
      rw [hiff]
  case stars =>
    intro i hi
    have hlt : i < pssValues.length := by
      obtain hfew | ⟨-, hlt⟩ | ⟨hne, rfl⟩ := (hmem i).mp hi
      · omega
      · exact hlt
      · obtain ⟨hzero, -⟩ | ⟨hfirst, -⟩ := hmax
        · exact absurd hzero hne
        · have hlt := hfirst.middle.2
          omega
    rw [List.getD_eq_getElem _ _ hlt]
    exact calculateStars_bounds (List.getElem_mem hlt)

/-! ## The block -/

/-- What one call writes, and what the next call erases. -/
structure PrintsBlock (pssValues : List Int) (prevLineCount : Int) (printed : Printed) : Prop where
  /-- As many lines are counted as are written. -/
  counted : printed.prevLineCount = (String.join printed.writes).lineBreaks
  /-- The next call erases as many lines first. -/
  erased : ∀ now later next, printMemoryInfo printed.startTime now later printed.prevLineCount =
    some next → next.writes.count "\x1b[F" = (String.join printed.writes).lineBreaks
  /-- A header of two lines, and the samples that are shown with dots between them. -/
  shown : ∃ header indices, header.lineBreaks = 2 ∧ ShowsSamples pssValues indices ∧
    printed.writes = clearPreviousLines prevLineCount ++
      [header ++ String.join ((withDots indices).map (·.text pssValues))]

/-- The header has two lines. -/
private theorem lineBreaks_generateTimestamps {startTime : StartTime} {now : LocalTime}
    {pssValues : List Int} (hne : pssValues ≠ []) :
    ∃ text next, generateTimestamps startTime now pssValues = some (text, next) ∧
      text.lineBreaks = 2 := by
  obtain ⟨maxMem, hmax⟩ : ∃ maxMem, pssValues.max? = some maxMem := by
    rw [← Option.isSome_iff_exists, List.isSome_max?_iff]
    exact hne
  refine ⟨_, _, by rw [generateTimestamps, hmax]; rfl, ?_⟩
  simp only [String.lineBreaks_append, lineBreaks_setWidth, lineBreaks_getDateAndTime,
    StartTime.lineBreaks_eq, String.lineBreaks_natToString, String.lineBreaks_intToString]
  decide

/-- Without earlier lines nothing is erased. -/
private theorem clearPreviousLines_of_not_pos {lineCount : Int} (h : ¬lineCount > 0) :
    clearPreviousLines lineCount = [] := by
  rw [clearPreviousLines, Int.toNat_eq_zero.mpr (by omega)]
  rfl

/-- Erasing writes no line break. -/
private theorem lineBreaks_clearPreviousLines (lineCount : Int) :
    (String.join (clearPreviousLines lineCount)).lineBreaks = 0 := by
  rw [String.lineBreaks_join, clearPreviousLines]
  induction lineCount.toNat with
  | zero => rfl
  | succ n ih =>
    rw [List.range_succ, List.flatMap_append, List.map_append, List.sum_append, ih]
    show 0 + ("\x1b[F".lineBreaks + ("\x1b[2K".lineBreaks + 0)) = 0
    decide

/-- A line up for each line that is erased. -/
private theorem count_clearPreviousLines (lineCount : Int) :
    (clearPreviousLines lineCount).count "\x1b[F" = lineCount.toNat := by
  rw [clearPreviousLines]
  induction lineCount.toNat with
  | zero => rfl
  | succ n ih =>
    rw [List.range_succ, List.flatMap_append, List.count_append, ih]
    show n + ["\x1b[F", "\x1b[2K"].count "\x1b[F" = n + 1
    rw [show ["\x1b[F", "\x1b[2K"].count "\x1b[F" = 1 by decide]

/-- A block of lines, whatever was shown before. -/
private theorem exists_printMemoryInfo (startTime : StartTime) (now : LocalTime)
    {pssValues : List Int}
    (hne : pssValues ≠ []) (prevLineCount : Int) :
    ∃ header indices next, header.lineBreaks = 2 ∧ ShowsSamples pssValues indices ∧
      printMemoryInfo startTime now pssValues prevLineCount = some
        ⟨clearPreviousLines prevLineCount ++
            [header ++ String.join ((withDots indices).map (·.text pssValues))],
          (2 + (withDots indices).length : Nat), next⟩ := by
  obtain ⟨header, next, htimestamps, hheader⟩ :=
    @lineBreaks_generateTimestamps startTime now pssValues hne
  have hwrites : (if prevLineCount > 0 then clearPreviousLines prevLineCount else []) =
      clearPreviousLines prevLineCount := by
    split
    · rfl
    · rename_i hnot
      exact (clearPreviousLines_of_not_pos hnot).symm
  -- All samples are shown, or a selection of them.
  by_cases hsize : pssValues.length ≤ 10
  · refine ⟨header, _, next, hheader, showsSamples_range hsize, ?_⟩
    rw [printMemoryInfo, htimestamps]
    simp only [Option.bind_eq_bind, Option.bind_some]
    rw [if_pos (show pssValues.length ≤ maxPssValues from hsize), hwrites, Block.addAll_eq]
    rfl
  · have hsize' : 10 < pssValues.length := by omega
    refine ⟨header, _, next, hheader, showsSamples_shownOfMany hsize', ?_⟩
    rw [printMemoryInfo, htimestamps]
    simp only [Option.bind_eq_bind, Option.bind_some]
    rw [if_neg (show ¬pssValues.length ≤ maxPssValues from hsize), hwrites,
      Block.addSome_eq _ hsize']
    rfl

end HiDumper.Spec
