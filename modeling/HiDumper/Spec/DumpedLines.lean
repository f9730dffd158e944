import Mathlib.Data.List.TakeWhile
import HiDumper.Native.DumpDatas

/-!
# The lines that dumpers read

What `CMDDumper` and `FileStreamDumper` read until nothing is left, in terms of the texts
alone: every line of a text once, in order, and for files three rows before the lines of
each. A file that cannot be opened ends the list.

## Key results

- `getline_cases`: one call of `getline` takes one line
- `drain_cmd`, `drain_file`: all rows of a command and of a list of files
-/

namespace HiDumper.Spec

open HiDumper.Native

/-- The lines of a text. A last line without a line break counts, an empty one does not. -/
def textLines (text : List Char) : List (List Char) :=
  let pieces := text.splitOnP (· = '\n')
  if pieces.getLast? = some [] then pieces.dropLast else pieces

/-- The row of a line. -/
def lineRow (line : List Char) : Row := [String.ofList (Stream.lineText line)]

/-! ## Lines -/

private theorem textLines_nil : textLines [] = [] := by decide

/-- A text without a line break is one line. -/
private theorem textLines_single {text : List Char} (hne : text ≠ []) (h : ∀ c ∈ text, c ≠ '\n') :
    textLines text = [text] := by
  have hpieces : text.splitOnP (· = '\n') = [text] :=
    List.splitOnP_eq_singleton fun c hc => by simpa using h c hc
  simp [textLines, hpieces, hne]

/-- A text begins with the line up to its first line break. -/
private theorem textLines_cons {line rest : List Char} (h : ∀ c ∈ line, c ≠ '\n') :
    textLines (line ++ '\n' :: rest) = line :: textLines rest := by
  have hpieces : (line ++ '\n' :: rest).splitOnP (· = '\n') =
      line :: rest.splitOnP (· = '\n') :=
    List.splitOnP_append_cons_of_forall_mem (fun c hc => by simpa using h c hc) '\n' (by simp) rest
  have hne : rest.splitOnP (· = '\n') ≠ [] := List.splitOnP_ne_nil _ _
  simp only [textLines, hpieces]
  rw [List.getLast?_cons_of_ne_nil hne, List.dropLast_cons_of_ne_nil hne]
  split <;> rfl

/-- The line break at the end of a line is not part of its text. -/
private theorem lineText_append_newline {line : List Char} (h : ∀ c ∈ line, c ≠ '\n') :
    Stream.lineText (line ++ ['\n']) = Stream.lineText line := by
  have htake : (line ++ ['\n']).takeWhile (· ≠ '\n') = line := by
    rw [List.takeWhile_append_of_pos (fun c hc => by simpa using h c hc)]
    simp
  have hself : line.takeWhile (· ≠ '\n') = line :=
    List.takeWhile_eq_self_iff.mpr fun c hc => by simpa using h c hc
  simp only [Stream.lineText, htake, hself]

/-- `getline` takes one line: none at the end of the text, the last one without its line
    break, or one with a line break. -/
theorem getline_cases (fp : Stream) :
    (fp.getline = ([], ⟨[], true⟩) ∧ fp.rest = []) ∨
    (fp.getline = (fp.rest, ⟨[], true⟩) ∧ fp.rest ≠ [] ∧ textLines fp.rest = [fp.rest]) ∨
    ∃ line rest, fp.getline = (line ++ ['\n'], ⟨rest, false⟩) ∧
      textLines fp.rest = line :: textLines rest ∧
      Stream.lineText (line ++ ['\n']) = Stream.lineText line := by
  have hnot : ∀ c ∈ fp.rest.takeWhile (· ≠ '\n'), c ≠ '\n' := fun c hc => by
    simpa using List.mem_takeWhile_imp hc
  have hsplit := List.takeWhile_append_dropWhile (p := (· ≠ '\n')) (l := fp.rest)
  unfold Stream.getline
  split
  · rename_i hdrop
    rw [hdrop, List.append_nil] at hsplit
    -- No line break is left: the rest is the last line, if there is any.
    by_cases hempty : fp.rest = []
    · exact .inl ⟨by rw [hempty], hempty⟩
    · refine .inr (.inl ⟨rfl, hempty, textLines_single hempty ?_⟩)
      rw [← hsplit]
      exact hnot
  · rename_i c after hdrop
    have hc : c = '\n' := by
      have hhead := List.head?_dropWhile_not (· ≠ '\n') fp.rest
      rw [hdrop] at hhead
      simpa using hhead
    rw [hdrop, hc] at hsplit
    refine .inr (.inr ⟨_, after, rfl, ?_, lineText_append_newline hnot⟩)
    have hlines := @textLines_cons _ after hnot
    rwa [hsplit] at hlines

/-! ## Commands -/

/-- A read of a command gives the next line and announces more, or nothing is left. -/
theorem readLineInCmd_cases {st : CMDDumper} {fp : Stream} (hfp : st.fp = some fp) :
    (st.readLineInCmd.1 = .dumpOk ∧ st.readLineInCmd.2.1 = [] ∧ textLines fp.rest = [] ∧
      st.readLineInCmd.2.2.moreData = false) ∨
    ∃ line fp', st.readLineInCmd =
        (.dumpMoreData, [lineRow line], { st with fp := some fp', moreData := true }) ∧
      textLines fp.rest = line :: textLines fp'.rest := by
  unfold CMDDumper.readLineInCmd
  simp only [hfp]
  rcases getline_cases fp with ⟨hget, hrest⟩ | ⟨hget, hne, hlines⟩ | ⟨line, rest, hget, hlines, htext⟩
  · refine .inl ?_
    simp [hget, hrest, textLines_nil]
  · refine .inr ⟨fp.rest, ⟨[], true⟩, ?_, by rw [hlines, textLines_nil]⟩
    simp [hget, hne, lineRow]
  · refine .inr ⟨line, ⟨rest, false⟩, ?_, hlines⟩
    simp [hget, lineRow, htext]

/-- All rows of a command that is open: its lines. -/
theorem drain_cmd (st : CMDDumper) :
    ∀ fp, st.fp = some fp → (CMDDumper.source.drain st).2.1 = (textLines fp.rest).map lineRow := by
  induction st using CMDDumper.source.rec_reads with
  -- The last read finds the end of the output.
  | last st hlast =>
    intro fp hfp
    rw [Source.drain_of_last hlast]
    rcases readLineInCmd_cases hfp with ⟨-, hrows, hlines, -⟩ | ⟨line, fp', hread, -⟩
    · rw [hlines]
      exact hrows
    · simp [CMDDumper.source, hread] at hlast
  -- Any other read takes one line off.
  | more st hmore ih =>
    intro fp hfp
    rw [Source.drain_of_more hmore]
    rcases readLineInCmd_cases hfp with ⟨hret, -⟩ | ⟨line, fp', hread, hlines⟩
    · simp [CMDDumper.source, hret] at hmore
    · have hnext : CMDDumper.source.read st = _ := hread
      rw [hnext] at ih ⊢
      rw [hlines, List.map_cons, ih fp' rfl]
      rfl

/-! ## Files -/

/-- The row of a line of a file. -/
def fileLineRow (env : DumpEnv) (needHideAddr : Bool) (line : List Char) : Row :=
  [FileStreamDumper.lineText env needHideAddr line]

/-- All rows of a file. -/
def fileRows (env : DumpEnv) (needHideAddr : Bool) (filename : String) : List Row :=
  FileStreamDumper.header filename ++
    (textLines ((env.openFile filename).getD "").toList).map (fileLineRow env needHideAddr)

/-- The files still to be opened, up to the first that cannot be. -/
def remainingFiles (env : DumpEnv) (st : FileStreamDumper) : List String :=
  (st.filenames.drop st.nextFileIndex).takeWhile fun filename => (env.openFile filename).isSome

/-- Opening the next file: none is left that opens, or it is open now. -/
theorem openNextFile_cases (env : DumpEnv) (st : FileStreamDumper) :
    ((st.openNextFile env).1 ≤ 0 ∧ (st.openNextFile env).2.1 = [] ∧ remainingFiles env st = []) ∨
    ∃ filename content, env.openFile filename = some content ∧
      st.openNextFile env = ((st.nextFileIndex : Int) + 1, FileStreamDumper.header filename,
        { st with
          fp := some ⟨content.toList, false⟩
          nextFileIndex := st.nextFileIndex + 1 }) ∧
      remainingFiles env st =
        filename :: remainingFiles env { st with nextFileIndex := st.nextFileIndex + 1 } := by
  unfold FileStreamDumper.openNextFile remainingFiles
  dsimp only
  cases hname : st.filenames[st.nextFileIndex]? with
  | none =>
    have hdrop : st.filenames.drop st.nextFileIndex = [] :=
      List.drop_eq_nil_iff.mpr (List.getElem?_eq_none_iff.mp hname)
    simp [hdrop]
  | some filename =>
    obtain ⟨hlt, hget⟩ := List.getElem?_eq_some_iff.mp hname
    have hdrop := List.drop_eq_getElem_cons hlt
    rw [hget] at hdrop
    cases hopen : env.openFile filename with
    -- A file that does not open ends the list.
    | none => simp [hdrop, hopen]
    | some content =>
      refine .inr ⟨filename, content, hopen, by simp only [hopen], ?_⟩
      rw [hdrop, List.takeWhile_cons_of_pos (by simp [hopen])]

/-- A read that gets to the end of a file. -/
private theorem readLineInFile_atEnd {env : DumpEnv} {st : FileStreamDumper} {fp : Stream}
    (hfp : st.fp = some fp) {line : List Char} (hget : fp.getline = (line, ⟨[], true⟩))
    (hrows : (if line ≠ [] then [[FileStreamDumper.lineText env st.needHideAddr line]] else []) =
      (textLines fp.rest).map (fileLineRow env st.needHideAddr)) :
    ((st.readLineInFile env).1 ≠ .dumpMoreData ∧
      (st.readLineInFile env).2.1 = (textLines fp.rest).map (fileLineRow env st.needHideAddr) ∧
      remainingFiles env st = [] ∧ (st.readLineInFile env).2.2.moreData = false) ∨
    ∃ filename content, env.openFile filename = some content ∧
      st.readLineInFile env = (.dumpMoreData,
        (textLines fp.rest).map (fileLineRow env st.needHideAddr) ++
          FileStreamDumper.header filename,
        { st with
          fp := some ⟨content.toList, false⟩
          nextFileIndex := st.nextFileIndex + 1
          moreData := true }) ∧
      remainingFiles env st =
        filename :: remainingFiles env { st with nextFileIndex := st.nextFileIndex + 1 } := by
  unfold FileStreamDumper.readLineInFile
  simp only [hfp, hget, hrows, if_true]
  rcases openNextFile_cases env { st with fp := some ⟨[], true⟩ } with
    ⟨hret, hheader, hremaining⟩ | ⟨filename, content, hopen, hopened, hremaining⟩
  -- There is no further file, so the last lines are the end.
  · refine .inl ?_
    have hnone : ¬ 0 < (FileStreamDumper.openNextFile env { st with fp := some ⟨[], true⟩ }).1 := by
      omega
    rw [if_neg hnone, hheader, List.append_nil]
    refine ⟨?_, rfl, hremaining, ?_⟩
    · split <;> simp
    · split <;> simp
  -- The next file is opened, and its header goes behind the last lines.
  · refine .inr ⟨filename, content, hopen, ?_, hremaining⟩
    rw [hopened]
    have hpos : (0 : Int) < (st.nextFileIndex : Int) + 1 := by omega
    simp [hpos]

/-- A read of a file gives its next line, or goes on to the next file after the last line,
    or nothing is left. -/
theorem readLineInFile_cases {env : DumpEnv} {st : FileStreamDumper} {fp : Stream}
    (hfp : st.fp = some fp) :
    ((st.readLineInFile env).1 ≠ .dumpMoreData ∧
      (st.readLineInFile env).2.1 = (textLines fp.rest).map (fileLineRow env st.needHideAddr) ∧
      remainingFiles env st = [] ∧ (st.readLineInFile env).2.2.moreData = false) ∨
    (∃ line fp', st.readLineInFile env = (.dumpMoreData, [fileLineRow env st.needHideAddr line],
        { st with fp := some fp', moreData := true }) ∧
      textLines fp.rest = line :: textLines fp'.rest) ∨
    ∃ filename content, env.openFile filename = some content ∧
      st.readLineInFile env = (.dumpMoreData,
        (textLines fp.rest).map (fileLineRow env st.needHideAddr) ++
          FileStreamDumper.header filename,
        { st with
          fp := some ⟨content.toList, false⟩
          nextFileIndex := st.nextFileIndex + 1
          moreData := true }) ∧
      remainingFiles env st =
        filename :: remainingFiles env { st with nextFileIndex := st.nextFileIndex + 1 } := by
  -- The end of the file, its last line without a line break, or a line before.
  rcases getline_cases fp with ⟨hget, hrest⟩ | ⟨hget, hne, hlines⟩ | ⟨line, rest, hget, hlines, htext⟩
  · cases readLineInFile_atEnd hfp hget (by simp [hrest, textLines_nil]) with
    | inl hlast => exact .inl hlast
    | inr hnext => exact .inr (.inr hnext)
  · cases readLineInFile_atEnd hfp hget (by simp [hne, hlines, fileLineRow]) with
    | inl hlast => exact .inl hlast
    | inr hnext => exact .inr (.inr hnext)
  · refine .inr (.inl ⟨line, ⟨rest, false⟩, ?_, hlines⟩)
    simp [FileStreamDumper.readLineInFile, hfp, hget, fileLineRow, FileStreamDumper.lineText, htext]

/-- All rows of the files from an open one on. -/
theorem drain_file (env : DumpEnv) (st : FileStreamDumper) :
    ∀ fp, st.fp = some fp → ((FileStreamDumper.source env).drain st).2.1 =
      (textLines fp.rest).map (fileLineRow env st.needHideAddr) ++
        (remainingFiles env st).flatMap (fileRows env st.needHideAddr) := by
  induction st using (FileStreamDumper.source env).rec_reads with
  -- The last read finds the file at its end and no further file that opens.
  | last st hlast =>
    intro fp hfp
    rw [Source.drain_of_last hlast]
    rcases readLineInFile_cases hfp with ⟨-, hrows, hremaining, -⟩ | ⟨line, fp', hread, -⟩ |
        ⟨filename, content, -, hread, -⟩
    · rw [hremaining, List.flatMap_nil, List.append_nil]
      exact hrows
    · simp [FileStreamDumper.source, hread] at hlast
    · simp [FileStreamDumper.source, hread] at hlast
  -- A read gives the next line of the file, or opens the next file.
  | more st hmore ih =>
    intro fp hfp
    rw [Source.drain_of_more hmore]
    rcases readLineInFile_cases hfp with ⟨hret, -⟩ | ⟨line, fp', hread, hlines⟩ |
        ⟨filename, content, hopen, hread, hremaining⟩
    · exact absurd (of_decide_eq_true hmore) hret
    · have hnext : (FileStreamDumper.source env).read st = _ := hread
      rw [hnext] at ih ⊢
      rw [hlines, List.map_cons, ih fp' rfl]
      rfl
    · have hnext : (FileStreamDumper.source env).read st = _ := hread
      rw [hnext] at ih ⊢
      rw [hremaining, List.flatMap_cons, ih _ rfl, fileRows, hopen]
      simp only [Option.getD_some, List.append_assoc]
      rfl

end HiDumper.Spec
