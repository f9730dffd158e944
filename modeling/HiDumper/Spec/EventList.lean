import HiDumper.ForStd.Columns
import HiDumper.ForStd.Sorting
import HiDumper.Native.EventListDumper
import Mathlib.Order.OrderDual

/-!
# The printed list of killed processes

`EventListDumper` lists the newest of the events that it does not skip. The widths of its
columns are collected over all events, also over those whose row ends early or is cut off by
the count, so they are wide enough for the rows that are printed but may be wider.

## Key results

- `buildRow_spec`: the row of one event, and the widths after it
- `buildResultsLoop_spec`: the rows of all events
- `execute_table`: what is printed
-/

namespace HiDumper.Spec.EventLists

open HiDumper.Native HiDumper.Native.EventListDumper

variable {ρ : Type} {env : EventListEnv ρ}

/-! ## Rows -/

/-- The text of a cell that does not end its row. -/
def cellText : EventCell → String
  | .value value => value
  | _ => "Null"

/-- The row of an event that is listed. -/
def listed (env : EventListEnv ρ) (dumper : EventListDumper) (event : ρ) : Option (List String) :=
  match shouldSkipEvent env dumper event with
  | none => none
  | some killId =>
    if EventCell.invalid ∈ eventTitles.map (eventCell env event killId) then none
    else some (eventTitles.map fun title => cellText (eventCell env event killId title))

/-- Every text of the row is as long as its column is wide, or as long as "Null". -/
def RowFits (widths : List Nat) (row : List String) : Prop :=
  List.Forall₂ (fun width value => value.toList.length ≤ max width 4) widths row

/-- A row that fits into columns fits into wider ones. -/
theorem RowFits.mono {widths widths' : List Nat} {row : List String} (h : RowFits widths row)
    (hle : List.Forall₂ (· ≤ ·) widths widths') : RowFits widths' row := by
  induction h generalizing widths' with
  | nil =>
    cases hle
    exact .nil
  | cons hfirst _ ih =>
    cases hle with
    | cons hwidth hwidths => exact .cons (by omega) (ih hwidths)

private theorem forall₂_le_refl (widths : List Nat) : List.Forall₂ (· ≤ ·) widths widths :=
  List.forall₂_same.mpr fun _ _ => le_refl _

private theorem forall₂_le_trans {a b c : List Nat} (hab : List.Forall₂ (· ≤ ·) a b)
    (hbc : List.Forall₂ (· ≤ ·) b c) : List.Forall₂ (· ≤ ·) a c := by
  induction hab generalizing c with
  | nil => exact hbc
  | cons hfirst _ ih =>
    cases hbc with
    | cons hnext hrest => exact .cons (hfirst.trans hnext) (ih hrest)

/-- The row of an event: whole and covered by the widths, or cut short. -/
theorem buildRow_spec (cell : String → EventCell) (titles : List String) (widths : List Nat)
    (hlength : widths.length = titles.length) :
    List.Forall₂ (· ≤ ·) widths (buildRow cell titles widths).2 ∧
      (EventCell.invalid ∉ titles.map cell →
        (buildRow cell titles widths).1 = titles.map (fun title => cellText (cell title)) ∧
        RowFits (buildRow cell titles widths).2 (buildRow cell titles widths).1) ∧
      (EventCell.invalid ∈ titles.map cell →
        (buildRow cell titles widths).1.length ≠ titles.length) := by
  fun_induction buildRow cell titles widths with
  -- No such value in the event: the row shows `Null`, which is not measured.
  | case1 title titles width widths hcell rest ih =>
    obtain ⟨hle, hwhole, hshort⟩ := ih (Nat.succ.inj hlength)
    refine ⟨.cons (le_refl _) hle, fun hnone => ?_, fun hsome => ?_⟩
    · rw [List.map_cons, List.mem_cons, not_or] at hnone
      obtain ⟨hrow, hfits⟩ := hwhole hnone.2
      refine ⟨?_, .cons (le_max_right _ _) hfits⟩
      rw [List.map_cons, hcell, hrow]
      rfl
    · rw [List.map_cons, List.mem_cons, hcell] at hsome
      have hrest := hshort (hsome.resolve_left (by simp))
      simpa using hrest
  -- An invalid value ends the row here, so it is shorter than the titles.
  | case2 title titles width widths hcell =>
    refine ⟨forall₂_le_refl _, fun hnone => ?_, fun _ => by simp⟩
    rw [List.map_cons, List.mem_cons, not_or, hcell] at hnone
    exact absurd rfl hnone.1
  | case3 title titles width widths value hcell rest ih =>
    obtain ⟨hle, hwhole, hshort⟩ := ih (Nat.succ.inj hlength)
    -- The column grows to the value, and later rows only widen it.
    have hwidth : width ≤ (if value.toList.length > width then value.toList.length else width) ∧
        value.toList.length ≤
          (if value.toList.length > width then value.toList.length else width) := by
      split <;> omega
    refine ⟨.cons hwidth.1 hle, fun hnone => ?_, fun hsome => ?_⟩
    · rw [List.map_cons, List.mem_cons, not_or] at hnone
      obtain ⟨hrow, hfits⟩ := hwhole hnone.2
      refine ⟨?_, .cons (hwidth.2.trans (le_max_left _ _)) hfits⟩
      rw [List.map_cons, hcell, hrow]
      rfl
    · rw [List.map_cons, List.mem_cons, hcell] at hsome
      have hrest := hshort (hsome.resolve_left (by simp))
      simpa using hrest
  -- There is a width for each title, so both lists end together.
  | case4 titles widths hnot =>
    cases titles with
    | nil =>
      obtain rfl := List.length_eq_zero_iff.mp hlength
      exact ⟨.nil, fun _ => ⟨rfl, .nil⟩, fun h => absurd h List.not_mem_nil⟩
    | cons title titles =>
      cases widths with
      | nil => exact nomatch hlength
      | cons width widths => exact absurd rfl (hnot title titles width widths rfl)

/-- The rows are those of the listed events, in order, and the widths are wide enough. -/
theorem buildResultsLoop_spec (env : EventListEnv ρ) (dumper : EventListDumper)
    (events : List ρ) (widths : List Nat) (hlength : widths.length = eventTitles.length) :
    (buildResultsLoop env dumper events widths).1 = events.filterMap (listed env dumper) ∧
      List.Forall₂ (· ≤ ·) widths (buildResultsLoop env dumper events widths).2 ∧
      ∀ row ∈ (buildResultsLoop env dumper events widths).1,
        RowFits (buildResultsLoop env dumper events widths).2 row := by
  induction events generalizing widths with
  | nil => exact ⟨rfl, forall₂_le_refl _, fun row hrow => absurd hrow List.not_mem_nil⟩
  | cons event events ih =>
    rw [buildResultsLoop, List.filterMap_cons]
    cases hskip : shouldSkipEvent env dumper event with
    | none =>
      have hlisted : listed env dumper event = none := by rw [listed, hskip]
      rw [hlisted]
      exact ih widths hlength
    | some killId =>
      obtain ⟨hle, hwhole, hshort⟩ :=
        buildRow_spec (eventCell env event killId) eventTitles widths hlength
      simp only
      generalize buildRow (eventCell env event killId) eventTitles widths = built
        at hle hwhole hshort ⊢
      obtain ⟨hrest, hmono, hfits⟩ := ih built.2 (by rw [← hle.length_eq, hlength])
      by_cases hinvalid : EventCell.invalid ∈ eventTitles.map (eventCell env event killId)
      · -- A row that ends early is left out; the widths stay.
        have hlisted : listed env dumper event = none := by
          rw [listed, hskip]
          exact if_pos hinvalid
        have hcut : (built.1.isEmpty || decide (built.1.length ≠ eventTitles.length)) = true := by
          simp [hshort hinvalid]
        rw [hlisted, hcut]
        exact ⟨hrest, forall₂_le_trans hle hmono, hfits⟩
      · obtain ⟨hrow, hrowFits⟩ := hwhole hinvalid
        have hlisted : listed env dumper event = some built.1 := by
          rw [listed, hskip, hrow]
          exact if_neg hinvalid
        have hkept : (built.1.isEmpty || decide (built.1.length ≠ eventTitles.length)) = false := by
          rw [hrow]
          rfl
        rw [hlisted, hkept]
        refine ⟨by simp [hrest], forall₂_le_trans hle hmono, fun row hmem => ?_⟩
        rcases List.mem_cons.mp hmem with rfl | hmem
        · exact hrowFits.mono hmono
        · exact hfits row hmem

/-! ## The printed list -/

/-- A formatted row is a row of a table. -/
private theorem formatResults_eq (results : List (List String)) (widths : List Nat)
    (hwidths : widths.length = eventTitles.length)
    (hresults : ∀ row ∈ results, row.length = eventTitles.length) :
    formatResults results widths = results.map fun row =>
      [String.ofList (Columns.row ' ' 2
        (widths.map fun width => min width maxWidth + eventLineSpacing)
        (row.map String.toList))] := by
  refine List.map_congr_left fun row hrow => ?_
  -- The texts of the row that come before a column are those before its position.
  suffices h : ∀ (titles : List String) (widths : List Nat) (front back : List String),
      widths.length = titles.length → back.length = titles.length →
      ((widths.zip titles).zipIdx front.length).flatMap (fun column =>
          setwLeft (min column.1.1 maxWidth + eventLineSpacing)
            ((front ++ back)[column.2]?.getD "Null")) =
        Columns.row ' ' 2 (widths.map fun width => min width maxWidth + eventLineSpacing)
          (back.map String.toList) by
    have hall := h eventTitles widths [] row hwidths (hresults row hrow)
    rw [List.nil_append, List.length_nil] at hall
    rw [hall]
  intro titles
  induction titles with
  | nil =>
    intro widths front back hlength hback
    obtain rfl := List.length_eq_zero_iff.mp hlength
    rfl
  | cons title titles ih =>
    intro widths front back hlength hback
    cases widths with
    | nil => exact nomatch hlength
    | cons width widths =>
      cases back with
      | nil => exact nomatch hback
      | cons value back =>
        have hrest := ih widths (front ++ [value]) back (Nat.succ.inj hlength) (Nat.succ.inj hback)
        rw [List.append_assoc, List.singleton_append, List.length_append, List.length_singleton]
          at hrest
        rw [List.zip_cons_cons, List.zipIdx_cons, List.flatMap_cons, hrest, List.map_cons,
          List.map_cons, Columns.row_cons, List.getElem?_append_right (le_refl _), Nat.sub_self,
          List.getElem?_cons_zero, Option.getD_some, setwLeft, List.append_assoc]
        rfl

/-- The first images are those of the first elements that have one. -/
private theorem take_filterMap {α β : Type} (f : α → Option β) (l : List α) (n : Nat) :
    (l.filterMap f).take n = ((l.filter fun a => (f a).isSome).take n).filterMap f := by
  induction l generalizing n with
  | nil => simp
  | cons a l ih =>
    cases ha : f a with
    | none => rw [List.filterMap_cons_none ha, List.filter_cons_of_neg (by simp [ha]), ih]
    | some b =>
      rw [List.filterMap_cons_some ha, List.filter_cons_of_pos (by simp [ha])]
      cases n with
      | zero => rfl
      | succ n => rw [List.take_succ_cons, List.take_succ_cons, List.filterMap_cons_some ha, ih]

/-- A listed row has a cell for every title. -/
private theorem listed_length {dumper : EventListDumper} {event : ρ} {row : List String}
    (h : listed env dumper event = some row) : row.length = eventTitles.length := by
  unfold listed at h
  split at h
  · exact nomatch h
  · split at h
    · exact nomatch h
    · rw [← Option.some.inj h, List.length_map]

/-- How many of the listed events are shown. -/
def shownCount (dumper : EventListDumper) (listedCount : Nat) : Nat :=
  if 0 < dumper.showEventCount then dumper.showEventCount.toNat else listedCount

/-- The rows of the shown events. -/
theorem buildResults_spec (env : EventListEnv ρ) (dumper : EventListDumper)
    (events : List ρ) (widths : List Nat) (hlength : widths.length = eventTitles.length) :
    (buildResults env dumper events widths).1 =
        ((events.filter fun event => (listed env dumper event).isSome).take
          (shownCount dumper
            (events.filter fun event => (listed env dumper event).isSome).length)).filterMap
          (listed env dumper) ∧
      List.Forall₂ (· ≤ ·) widths (buildResults env dumper events widths).2 ∧
      ∀ row ∈ (buildResults env dumper events widths).1,
        RowFits (buildResults env dumper events widths).2 row := by
  obtain ⟨hrows, hle, hfits⟩ := buildResultsLoop_spec env dumper events widths hlength
  have hcount : (events.filterMap (listed env dumper)).length =
      (events.filter fun event => (listed env dumper event).isSome).length := by
    rw [List.length_filterMap_eq_countP, List.countP_eq_length_filter]
  rw [← take_filterMap, ← hcount]
  unfold buildResults
  simp only
  split
  -- Cutting the list off keeps the widths, which may then be wider than needed.
  · rename_i hmany
    simp only [gt_iff_lt, Bool.and_eq_true, decide_eq_true_eq] at hmany
    refine ⟨by rw [hrows, shownCount, if_pos hmany.1], hle, fun row hrow => ?_⟩
    exact hfits row (List.mem_of_mem_take hrow)
  · rename_i hfew
    refine ⟨?_, hle, hfits⟩
    rw [hrows, shownCount]
    split
    · rename_i hpos
      simp only [hrows, gt_iff_lt, hpos, decide_true, Bool.true_and, decide_eq_true_eq,
        not_lt] at hfew
      rw [List.take_of_length_le hfew]
    · rw [List.take_length]

/-- What is printed: of the listed events the newest as many as the count allows, newest
    first, below the titles. Every column stands at the same place in all rows without a
    text that is longer than fits it. -/
theorem execute_table (dumper : EventListDumper) {queried : List ρ}
    (hqueried : env.queried = some queried)
    (hsort : List.Sorts (fun a b => decide (env.getTime a > env.getTime b))
      env.sortEventsByTimeDesc) :
    ∃ (shown rest : List ρ) (text : List String → String) (widths : List Nat),
      (shown ++ rest).Perm (queried.filter fun event => (listed env dumper event).isSome) ∧
      (shown ++ rest).Pairwise (fun a b => env.getTime b ≤ env.getTime a) ∧
      (if 0 < dumper.showEventCount then
        shown.length = min dumper.showEventCount.toNat (shown ++ rest).length else rest = []) ∧
      execute env dumper = (.dumpOk,
        if shown = [] then [["no records found."]]
        else (eventTitles :: shown.filterMap (listed env dumper)).map fun row => [text row]) ∧
      ∀ row ∈ eventTitles :: shown.filterMap (listed env dumper),
        (∀ value ∈ row, value.toList.length ≤ 38) → ∀ i value, row[i]? = some value →
          Columns.column 2 widths i (text row).toList =
            value.toList.rightpad (widths[i]?.getD 0) ' ' := by
  let widths₀ := eventTitles.map (·.toList.length)
  have hlength₀ : widths₀.length = eventTitles.length := List.length_map ..
  obtain ⟨hrows, hle, hfits⟩ :=
    buildResults_spec env dumper (env.sortEventsByTimeDesc queried) widths₀ hlength₀
  generalize hbuilt : buildResults env dumper (env.sortEventsByTimeDesc queried) widths₀ = built
    at hrows hle hfits
  generalize hall : ((env.sortEventsByTimeDesc queried).filter fun event =>
    (listed env dumper event).isSome) = all at hrows
  generalize hn : shownCount dumper all.length = n at hrows
  have hwidths : built.2.length = eventTitles.length := by rw [← hle.length_eq, hlength₀]
  refine ⟨all.take n, all.drop n, fun row => String.ofList (Columns.row ' ' 2
      (built.2.map fun width => min width maxWidth + eventLineSpacing) (row.map String.toList)),
    built.2.map fun width => min width maxWidth + eventLineSpacing, ?_, ?_, ?_, ?_, ?_⟩
  · rw [List.take_append_drop, ← hall]
    exact (hsort.perm queried).filter _
  · rw [List.take_append_drop, ← hall]
    refine ((hsort.pairwise queried).filter _).imp fun {a b} hab => ?_
    simpa using hab
  · rw [List.take_append_drop, ← hn, shownCount]
    split
    · exact List.length_take
    · exact List.drop_length
  · -- The rows have one text for each title, the titles among them.
    have hlengths : ∀ row ∈ eventTitles :: built.1, row.length = eventTitles.length := by
      intro row hrow
      rcases List.mem_cons.mp hrow with rfl | hrow
      · rfl
      · rw [hrows] at hrow
        obtain ⟨event, _, hevent⟩ := List.mem_filterMap.mp hrow
        exact listed_length hevent
    have hempty : built.1 = [] ↔ all.take n = [] := by
      rw [hrows, ← List.length_eq_zero_iff, List.length_filterMap_eq_countP,
        List.countP_eq_length.mpr fun event hevent => ?_, List.length_eq_zero_iff]
      have hmem := List.mem_of_mem_take hevent
      rw [← hall] at hmem
      exact (List.mem_filter.mp hmem).2
    unfold execute
    simp only [hqueried, widths₀] at hbuilt ⊢
    rw [hbuilt]
    by_cases hnone : all.take n = []
    · rw [if_pos hnone, hempty.mpr hnone]
      rfl
    · have hsome : built.1.isEmpty = false := by
        simpa using fun h => hnone (hempty.mp h)
      rw [if_neg hnone, hsome, formatResults_eq _ _ hwidths hlengths, hrows]
      rfl
  · intro row hrow hshort i value hi
    have hrowFits : RowFits built.2 row := by
      rcases List.mem_cons.mp hrow with rfl | hrow
      · -- The widths begin with the titles.
        have htitles : RowFits widths₀ eventTitles := by
          rw [RowFits, List.forall₂_map_left_iff]
          exact List.forall₂_same.mpr fun title _ => le_max_left _ _
        exact htitles.mono hle
      · exact hfits row (hrows ▸ hrow)
    have hcap : Columns.Fits (built.2.map fun width => min width maxWidth + eventLineSpacing)
        (row.map String.toList) := by
      rw [Columns.Fits, List.forall₂_map_left_iff, List.forall₂_map_right_iff]
      refine List.forall₂_iff_get.mpr ⟨hrowFits.length_eq, fun j hwidth hvalue => ?_⟩
      have hlong := hrowFits.get hwidth hvalue
      have hbound := hshort _ (List.get_mem row ⟨j, hvalue⟩)
      have hconst : maxWidth = 32 ∧ eventLineSpacing = 6 := ⟨rfl, rfl⟩
      omega
    rw [String.toList_ofList]
    exact Columns.column_row hcap (by rw [List.getElem?_map, hi]; rfl)

/-- Three records: one is older than the others, and one has no process name. -/
def threeEvents : EventListEnv Nat where
  queried := some [1, 2, 3]
  sortEventsByTimeDesc l := l.mergeSort fun a b =>
    decide (OrderDual.toDual a.toUInt64.toNat ≤ OrderDual.toDual b.toUInt64.toNat)
  getTime := Nat.toUInt64
  paramString event key :=
    if key = "PROCESS_NAME" then if event = 2 then none else some "com.example"
    else if key = "KILL_ID" then none else some "1"
  paramInt64 _ key := if key = "KILL_ID" then some 7 else none
  unixMsToString time := toString time.toNat
  getAppExitReason _ := "Killed"

/-- Three events, of which one has no row and one is beyond the count asked for. -/
theorem execute_table_threeEvents : ∃ shown rest : List Nat,
    (shown ++ rest).Perm [1, 3] ∧ shown.length = 1 ∧
      (shown ++ rest).Pairwise (fun a b => b.toUInt64 ≤ a.toUInt64) := by
  have hsort : List.Sorts (fun a b => decide (threeEvents.getTime a > threeEvents.getTime b))
      threeEvents.sortEventsByTimeDesc := by
    refine List.Sorts.mergeSort fun a b => ?_
    rw [decide_eq_true_eq, OrderDual.toDual_lt_toDual, gt_iff_lt, UInt64.lt_iff_toNat_lt]
    rfl
  have hqueried : threeEvents.queried = some [1, 2, 3] := rfl
  obtain ⟨shown, rest, _, _, hperm, hsorted, hcount, -⟩ :=
    execute_table { showEventCount := 1 } hqueried hsort
  have hlisted : ([1, 2, 3].filter fun event =>
      (listed threeEvents { showEventCount := 1 } event).isSome) = [1, 3] := by decide
  rw [hlisted] at hperm
  refine ⟨shown, rest, hperm, ?_, hsorted⟩
  rw [if_pos (by decide), hperm.length_eq] at hcount
  exact hcount

end HiDumper.Spec.EventLists
