import HiDumper.ForStd.Columns
import HiDumper.Native.DmaBufTable

/-!
# The printed tables of DMA buffers

`GetDmaBufByProc` prints the lines of the file from its header on, reduced to the columns
that are shown. Read as words again a printed row has the words of its line in these columns,
with "NULL" for each that the line does not have. The width of a column follows the largest
word in it up to 33 characters and is 6 more, so the columns stand one below the other as
long as no word is longer than 39.

## Key results

- `parse_lines`: what `GetDmaBufInfo` has read
- `dmaBufRows_table`: the printed rows
- `disposeDmaBufInfo_columns`: the columns of the rows for `DmaNodeInfoWrapper`
-/

namespace HiDumper.Spec.DmaBufTables

open HiDumper.Native HiDumper.Native.MemoryInfo

/-! ## What is read -/

/-- The lines that are printed: those from the header on, if there is one behind it. -/
def printedLines (lines : List String) : List String :=
  match lines.dropWhile fun line => !contains line "Process" with
  | header :: detail :: details => header :: detail :: details
  | _ => []

/-- The words of a line in the columns whose titles are shown. -/
def shownValues (header line : String) : List String :=
  ((streamWords header).zipIdx.filter fun title => showTitles.contains title.1).map fun title =>
    (streamWords line)[title.2]?.getD "NULL"

/-- The widths after a row, in terms of the library. -/
private theorem widenColumns_eq (widths : List Nat) (row : List String) :
    ParseDmaBufInfo.widenColumns widths row = Columns.widen widths (row.map String.toList) := by
  fun_induction ParseDmaBufInfo.widenColumns widths row with
  | case1 widths => cases widths <;> rfl
  | case2 item row ih => rw [List.map_cons, Columns.widen, ih]
  | case3 width widths item row ih =>
    rw [List.map_cons, Columns.widen, ih]
    congr 1
    split <;> omega

/-- The widths after a header and the lines behind it. -/
def columnWidths (header : String) (details : List String) : List Nat :=
  (details.map fun line => (streamWords line).map String.toList).foldl Columns.widen
    ((streamWords header).map (·.toList.length))

/-- What is parsed behind the header. -/
private theorem parse_details (details : List String) {parse : ParseDmaBufInfo}
    (hin : parse.inDetailSection = true) :
    details.foldl ParseDmaBufInfo.parseLine parse =
      { parse with
        columnWidthsTmp := (details.map fun line => (streamWords line).map String.toList).foldl
          Columns.widen parse.columnWidthsTmp
        details := parse.details ++ details } := by
  induction details generalizing parse with
  | nil => simp
  | cons line details ih =>
    have hline : parse.parseLine line = parse.parseDataLine line := by
      simp [ParseDmaBufInfo.parseLine, hin]
    have hnext : (parse.parseDataLine line).inDetailSection = true := hin
    rw [List.foldl_cons, hline, ih hnext]
    simp [ParseDmaBufInfo.parseDataLine, widenColumns_eq]

/-- What `GetDmaBufInfo` has read in the end. -/
theorem parse_lines (lines : List String) :
    lines.foldl ParseDmaBufInfo.parseLine {} =
      match lines.dropWhile fun line => !contains line "Process" with
      | [] => {}
      | header :: details =>
        { (ParseDmaBufInfo.parseHeaderLine {} header) with
          columnWidthsTmp := columnWidths header details
          details := details } := by
  induction lines with
  | nil => rfl
  | cons line lines ih =>
    cases hline : contains line "Process" with
    | false =>
      have hskip : ParseDmaBufInfo.parseLine {} line = {} := by
        simp [ParseDmaBufInfo.parseLine, hline]
      rw [List.foldl_cons, hskip, ih, List.dropWhile_cons_of_pos (by simp [hline])]
    | true =>
      have hheader : ParseDmaBufInfo.parseLine {} line =
          ParseDmaBufInfo.parseHeaderLine {} line := by
        simp [ParseDmaBufInfo.parseLine, hline]
      rw [List.foldl_cons, hheader, parse_details lines rfl,
        List.dropWhile_cons_of_neg (by simp [hline])]
      simp [ParseDmaBufInfo.parseHeaderLine, columnWidths]

/-- What `GetDmaBufInfo` fills in. -/
private theorem getDmaBufInfo_eq (lines : List String) :
    ParseDmaBufInfo.getDmaBufInfo (some lines) =
      match printedLines lines with
      | [] => some {}
      | header :: details => some
        { result := header :: details
          headerMap := (ParseDmaBufInfo.parseHeaderLine {} header).headerMapTmp
          columnWidths := columnWidths header details
          titles := streamWords header } := by
  unfold ParseDmaBufInfo.getDmaBufInfo printedLines
  rw [Option.map_some, parse_lines]
  rcases lines.dropWhile fun line => !contains line "Process" with _ | ⟨header, _ | ⟨d, ds⟩⟩ <;> rfl

/-! ## What is printed -/

/-- Every title with the word in its place. -/
private theorem titleValues_eq (titles words : List String) :
    titleValues titles words =
      titles.zipIdx.map fun title => (title.1, words[title.2]?.getD "NULL") := by
  -- The words before a title are gone when its turn comes.
  suffices h : ∀ n, titleValues titles (words.drop n) =
      (titles.zipIdx n).map fun title => (title.1, words[title.2]?.getD "NULL") from h 0
  induction titles with
  | nil => exact fun n => rfl
  | cons title titles ih =>
    intro n
    rw [titleValues, List.zipIdx_cons, List.map_cons, List.head?_drop, List.tail_drop, ih]

/-- The values under the titles that are shown. -/
private theorem titleValues_filter_snd (header line : String) :
    ((titleValues (streamWords header) (streamWords line)).filter fun value =>
      showTitles.contains value.1).map (·.2) = shownValues header line := by
  rw [titleValues_eq, List.filter_map, List.map_map]
  rfl

/-- The titles that are shown. -/
def shownTitles (header : String) : List String :=
  (streamWords header).filter fun title => showTitles.contains title

/-- The titles that are shown, in the order of the header. -/
private theorem titleValues_filter_fst (header line : String) :
    ((titleValues (streamWords header) (streamWords line)).filter fun value =>
      showTitles.contains value.1).map (·.1) = shownTitles header := by
  have htitles : (titleValues (streamWords header) (streamWords line)).map (·.1) =
      streamWords header := by
    rw [titleValues_eq, List.map_map]
    exact List.zipIdx_map_fst 0 (streamWords header)
  rw [shownTitles, ← htitles, List.filter_map, htitles]
  rfl

/-- A printed text is a row of a table. -/
private theorem dmaBufText_eq (info : DmaBufInfo) (header line : String)
    (htitles : info.titles = streamWords header) :
    (dmaBufText info line).toList =
      Columns.row ' ' 2 ((shownTitles header).map (dmaBufTitleWidth info))
        ((shownValues header line).map String.toList) := by
  rw [dmaBufText, htitles, String.toList_ofList, ← titleValues_filter_fst header line,
    ← titleValues_filter_snd header line, List.map_map, List.map_map, Columns.row, List.zip_map',
    List.flatMap_map]
  rfl

/-- Words, and "NULL", are not empty and hold no white space. -/
private theorem shownValues_words (header line : String) :
    ∀ text ∈ (shownValues header line).map String.toList,
      text ≠ [] ∧ ∀ c ∈ text, Scanf.isSpace c = false := by
  intro text htext
  simp only [shownValues, List.map_map, List.mem_map, Function.comp_apply] at htext
  obtain ⟨title, _, rfl⟩ := htext
  cases hword : (streamWords line)[title.2]? with
  | none =>
    have hnull : "NULL".toList.all (fun c => !Scanf.isSpace c) = true := by decide
    exact ⟨by decide, fun c hc => (Bool.not_eq_true' _).mp (List.all_eq_true.mp hnull c hc)⟩
  | some word =>
    obtain ⟨part, hpart, rfl⟩ := List.mem_map.mp (List.mem_of_getElem? hword)
    obtain ⟨hne, hspace, _⟩ := List.of_mem_fields hpart
    simpa using ⟨hne, hspace⟩

/-- There is a value for every title that is shown. -/
private theorem length_shownValues (header line : String) :
    (shownValues header line).length = (shownTitles header).length := by
  rw [← titleValues_filter_snd, ← titleValues_filter_fst header line, List.length_map,
    List.length_map]

/-- Distinct titles are found in their places. -/
private theorem lookup_headerMap {titles : List String} (hnodup : titles.Nodup) {i : Nat}
    {title : String}
    (hi : titles[i]? = some title) :
    (titles.zipIdx.foldl (fun map header => map.insert header.1 header.2)
      (∅ : UnorderedMap String Nat)).lookup title = some i := by
  -- Titles behind the one looked for do not touch its entry.
  have hother : ∀ (titles : List String) (n : Nat) (map : UnorderedMap String Nat),
      title ∉ titles → ((titles.zipIdx n).foldl (fun map header => map.insert header.1 header.2)
        map).lookup title = map.lookup title := by
    intro titles
    induction titles with
    | nil => exact fun n map _ => rfl
    | cons first titles ih =>
      intro n map hmem
      rw [List.mem_cons, not_or] at hmem
      rw [List.zipIdx_cons, List.foldl_cons, ih _ _ hmem.2, AList.lookup_insert_ne hmem.1]
  suffices h : ∀ (n : Nat) (map : UnorderedMap String Nat),
      ((titles.zipIdx n).foldl (fun map header => map.insert header.1 header.2) map).lookup
        title = some (n + i) by
    simpa using h 0 ∅
  induction titles generalizing i with
  | nil => exact nomatch hi
  | cons first titles ih =>
    intro n map
    obtain ⟨hfirst, hrest⟩ := List.nodup_cons.mp hnodup
    rw [List.zipIdx_cons, List.foldl_cons]
    cases i with
    | zero =>
      obtain rfl : first = title := Option.some.inj hi
      rw [hother titles _ _ hfirst, AList.lookup_insert, Nat.add_zero]
    | succ i =>
      rw [ih hrest hi]
      congr 1
      omega

/-- A value of at most 39 characters fits the column of its title. -/
private theorem fits_of_short (info : DmaBufInfo) {header line : String} {details : List String}
    (hnodup : (streamWords header).Nodup) (hline : line ∈ header :: details)
    (hshort : ∀ value ∈ shownValues header line, value.toList.length ≤ dmabufMaxWidth + lineSpacing)
    (hmap : info.headerMap = (ParseDmaBufInfo.parseHeaderLine {} header).headerMapTmp)
    (hwidths : info.columnWidths = columnWidths header details) :
    Columns.Fits ((shownTitles header).map (dmaBufTitleWidth info))
      ((shownValues header line).map String.toList) := by
  rw [← titleValues_filter_fst header line, ← titleValues_filter_snd header line, Columns.Fits,
    List.map_map, List.map_map, List.forall₂_map_left_iff, List.forall₂_map_right_iff,
    List.forall₂_same]
  intro value hvalue
  have hshown : value.2.toList.length ≤ dmabufMaxWidth + lineSpacing := by
    refine hshort value.2 ?_
    rw [← titleValues_filter_snd]
    exact List.mem_map_of_mem hvalue
  obtain ⟨title, htitle, rfl⟩ : ∃ title ∈ (streamWords header).zipIdx,
      (title.1, (streamWords line)[title.2]?.getD "NULL") = value := by
    have hmem := (List.mem_filter.mp hvalue).1
    rw [titleValues_eq] at hmem
    exact List.mem_map.mp hmem
  have hget : (streamWords header)[title.2]? = some title.1 := by
    simpa using List.mem_zipIdx_iff_getElem?.mp htitle
  have hcolumn : (info.headerMap.lookup title.1).getD 0 = title.2 := by
    rw [hmap]
    simp only [ParseDmaBufInfo.parseHeaderLine, lookup_headerMap hnodup hget, Option.getD_some]
  -- The widths cover the header and all lines behind it.
  have hcovers : Columns.Covers (columnWidths header details)
      ((streamWords line).map String.toList) := by
    rcases List.mem_cons.mp hline with rfl | hmem
    · refine Columns.Covers.foldl_widen (fun i text hi => ?_) _
      rw [List.getElem?_map] at hi ⊢
      obtain ⟨word, hword, rfl⟩ := Option.map_eq_some_iff.mp hi
      exact ⟨_, by rw [hword]; rfl, le_refl _⟩
    · exact Columns.covers_foldl_widen _ _ _ (List.mem_map_of_mem hmem)
  simp only [Function.comp_apply, dmaBufTitleWidth, hcolumn, hwidths] at hshown ⊢
  have hconst : dmabufMaxWidth = 33 ∧ lineSpacing = 6 := ⟨rfl, rfl⟩
  cases hword : (streamWords line)[title.2]? with
  | none =>
    have hnull : "NULL".toList.length = 4 := rfl
    simp only [Option.getD_none, hnull]
    omega
  | some word =>
    obtain ⟨width, hwidth, hle⟩ :=
      hcovers title.2 word.toList (by rw [List.getElem?_map, hword]; rfl)
    rw [hword, Option.getD_some] at hshown
    rw [hwidth, Option.getD_some, Option.getD_some]
    omega

/-- The printed rows for any file: the header and the lines behind it, reduced to the shown
    columns. Read as words a row has the words of its line, and if the titles are distinct
    every column stands at the same place in all rows without a longer word than fits it. -/
theorem dmaBufRows_table (lines : List String) :
    ∃ (text : String → String) (widths : List Nat),
      dmaBufRows (some lines) = some ((printedLines lines).map fun line => [text line]) ∧
      ∀ header details, printedLines lines = header :: details →
        (∀ line, streamWords (text line) = shownValues header line) ∧
        ((streamWords header).Nodup → ∀ line ∈ header :: details,
          (∀ value ∈ shownValues header line, value.toList.length ≤ 39) →
          ∀ i value, (shownValues header line)[i]? = some value →
            Columns.column 2 widths i (text line).toList =
              value.toList.rightpad (widths[i]?.getD 0) ' ') := by
  unfold dmaBufRows
  rw [getDmaBufInfo_eq]
  cases hprinted : printedLines lines with
  | nil => exact ⟨fun _ => "", [], rfl, fun _ _ h => nomatch h⟩
  | cons header details =>
    -- The state of the parser after the file: only these four fields are read by the table.
    generalize hinfo : ({ result := header :: details
                          headerMap := (ParseDmaBufInfo.parseHeaderLine {} header).headerMapTmp
                          columnWidths := columnWidths header details
                          titles := streamWords header } : DmaBufInfo) = info
    have htext := fun line => dmaBufText_eq info header line (by rw [← hinfo])
    refine ⟨dmaBufText info, (shownTitles header).map (dmaBufTitleWidth info),
      by rw [← hinfo]; rfl, ?_⟩
    rintro _ _ ⟨⟩
    refine ⟨fun line => ?_, fun hnodup line hline hshort i value hi => ?_⟩
    -- The words of a row are the shown values, since no value holds a blank.
    · have hfields : (Columns.row ' ' 2 ((shownTitles header).map (dmaBufTitleWidth info))
          ((shownValues header line).map String.toList)).fields Scanf.isSpace =
            (shownValues header line).map String.toList :=
        Columns.fields_row rfl (by decide) (by simp [length_shownValues])
          (shownValues_words header line)
      rw [streamWords, htext, hfields, List.map_map]
      simp
    -- Values that fit their columns start where the title starts.
    · have hfits := fits_of_short info hnodup hline hshort (by rw [← hinfo]) (by rw [← hinfo])
      rw [htext]
      exact Columns.column_row hfits (by rw [List.getElem?_map, hi]; rfl)

/-! ## The table for DmaNodeInfoWrapper -/

/-- The widths of `DisposeDmaBufInfo` are those of all rows. -/
private theorem foldl_zipWith_eq (rows : List (List String)) (widths : List Nat)
    (hrows : ∀ row ∈ rows, row.length = widths.length) :
    rows.foldl (fun widths row =>
        List.zipWith (fun width value => max width value.toList.length) widths row) widths =
      (rows.map fun row => row.map String.toList).foldl Columns.widen widths := by
  have hwiden : ∀ (widths : List Nat) (row : List String), row.length = widths.length →
      List.zipWith (fun width value => max width value.toList.length) widths row =
        Columns.widen widths (row.map String.toList) := by
    intro widths row hlength
    induction row generalizing widths with
    | nil =>
      obtain rfl := List.length_eq_zero_iff.mp hlength.symm
      rfl
    | cons value row ih =>
      cases widths with
      | nil => exact nomatch hlength
      | cons width widths =>
        rw [List.zipWith_cons_cons, List.map_cons, Columns.widen, ih widths (Nat.succ.inj hlength)]
  induction rows generalizing widths with
  | nil => rfl
  | cons row rows ih =>
    have hrow := hrows row List.mem_cons_self
    rw [List.foldl_cons, List.map_cons, List.foldl_cons, hwiden widths row hrow, ih]
    intro other hother
    rw [← hwiden widths row hrow, List.length_zipWith, hrow, Nat.min_self,
      hrows other (List.mem_cons_of_mem row hother)]

/-- The rows are those of the titles and of the buffers, and every column stands at the same
    place in all rows without a longer text than fits it. -/
theorem disposeDmaBufInfo_columns (dmaBufInfos : List DmaNodeInfoWrapper) :
    ∃ (text : List String → String) (widths : List Nat),
      disposeDmaBufInfo dmaBufInfos =
        (showTitles :: dmaBufInfos.map convertDmaBufInfoToStrings).map (fun row => [text row]) ∧
      ∀ row ∈ showTitles :: dmaBufInfos.map convertDmaBufInfoToStrings,
        (∀ value ∈ row, value.toList.length ≤ 39) → ∀ i value, row[i]? = some value →
          Columns.column 2 widths i (text row).toList =
            value.toList.rightpad (widths[i]?.getD 0) ' ' := by
  let results := dmaBufInfos.map convertDmaBufInfoToStrings
  let titleWidths := showTitles.map (·.toList.length)
  have hlengths : ∀ row ∈ showTitles :: results, row.length = titleWidths.length := by
    intro row hrow
    rcases List.mem_cons.mp hrow with rfl | hrow
    · rfl
    · obtain ⟨info, _, rfl⟩ := List.mem_map.mp hrow
      rfl
  have hresults : ∀ row ∈ results, row.length = titleWidths.length := fun row hrow =>
    hlengths row (List.mem_cons_of_mem _ hrow)
  generalize hwidths : (results.map fun row => row.map String.toList).foldl Columns.widen
    titleWidths = widths
  have hlength : widths.length = titleWidths.length := by
    rw [← hwidths]
    refine Columns.length_foldl_widen _ _ rfl fun texts htexts => ?_
    obtain ⟨row, hrow, rfl⟩ := List.mem_map.mp htexts
    rw [List.length_map, hresults row hrow]
  -- The widths begin with the titles, so they cover these as well.
  have hcovers : ∀ row ∈ showTitles :: results,
      Columns.Covers widths (row.map String.toList) := by
    intro row hrow
    rw [← hwidths]
    rcases List.mem_cons.mp hrow with rfl | hrow
    · refine Columns.Covers.foldl_widen (fun i text hi => ⟨text.length, ?_, le_refl _⟩) _
      obtain ⟨title, htitle, rfl⟩ := Option.map_eq_some_iff.mp (List.getElem?_map ▸ hi)
      simp only [titleWidths, List.getElem?_map, htitle, Option.map_some]
    · exact Columns.covers_foldl_widen _ _ _ (List.mem_map_of_mem hrow)
  refine ⟨fun row => String.ofList (Columns.row ' ' 2
    (widths.map fun width => min width dmabufMaxWidth + lineSpacing) (row.map String.toList)),
    widths.map fun width => min width dmabufMaxWidth + lineSpacing, ?_, ?_⟩
  · unfold disposeDmaBufInfo fillResultForDmaBuf
    simp only [foldl_zipWith_eq results titleWidths hresults, results, titleWidths] at hwidths ⊢
    rw [hwidths]
    refine List.map_congr_left fun row _ => ?_
    simp only [Columns.row, List.zip_map, List.flatMap_map]
    rfl
  · intro row hrow hshort i value hi
    have hfits : Columns.Fits (widths.map fun width => min width dmabufMaxWidth + lineSpacing)
        (row.map String.toList) := by
      refine (hcovers row hrow).fits_map ?_ fun width text htext hle => ?_
      · rw [hlength, ← hlengths row hrow, List.length_map]
      · obtain ⟨value, hvalue, rfl⟩ := List.mem_map.mp htext
        have hbound := hshort value hvalue
        have hconst : dmabufMaxWidth = 33 ∧ lineSpacing = 6 := ⟨rfl, rfl⟩
        omega
    rw [String.toList_ofList]
    exact Columns.column_row hfits (by rw [List.getElem?_map, hi]; rfl)

end HiDumper.Spec.DmaBufTables
