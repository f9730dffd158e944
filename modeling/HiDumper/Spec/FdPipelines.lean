import HiDumper.Native.FdLinks
import Mathlib.Data.List.Sort
import Mathlib.Algebra.GroupWithZero.Nat

/-!
# The two countings of open files agree

`CountFdNums` and `DumpFdInfo` compute the same counts from the same links, although each
finds the directory of a path with a function of its own, one with `int` and one with
`size_t` positions. Nothing is lost on the way: the counts of the links add up to the
number of links, and the total of a directory is the sum over the paths below it. A path
without a digit is its own directory and is counted in no total. The rows of the command are
the lines of the text that the service sends.

## Key results

- `findFdClusterStartIndex_eq`: the two functions agree on every link
- `counts_eq`: so do the two pipelines
- `typeTotal_eq_sumOver`, `isSome_lookup_typeTotal`: which directories have a total, and
  which one
- `fdPipelines_agree`: agreement and conservation together
- `dumpFdInfo_text`: the output of the command and the text of the service
-/

namespace HiDumper.Spec

open HiDumper.Native FdCounter

/-! ## The directory of a path -/

/-- A position in a path fits an `int`. -/
private theorem toInt32_of_lt {i : Nat} (h : i < pathMax) : toInt32 i = i := by
  unfold pathMax at h
  apply Int.bmod_eq_of_le <;> omega

/-- A digit is found inside the name. -/
private theorem lt_of_findDigit {name : List Char} {start i : Nat}
    (h : findDigit name start = some i) :
    i < name.length := by
  have hmem := List.mem_of_find?_eq_some h
  rw [List.mem_range'_1] at hmem
  omega

/-- A position in a short name is the same as an `int` and as a `size_t`. -/
private theorem toInt32_findDigit {path : String} (h : path.length < pathMax) (start : Nat) :
    (match findDigit path.toList start with
      | some i => toInt32 i
      | none => toInt32 path.length) =
    ((match findDigit path.toList start with
      | some i => i
      | none => path.length : Nat) : Int) := by
  cases hfind : findDigit path.toList start with
  | none => exact toInt32_of_lt h
  | some i =>
    have hlt := lt_of_findDigit hfind
    rw [String.length_toList] at hlt
    exact toInt32_of_lt (Nat.lt_trans hlt h)

/-- The two versions of `FindFdClusterStartIndex` agree on every path of a link. -/
theorem findFdClusterStartIndex_eq {path : String} (h : path.length < pathMax) :
    DumpCommonUtils.findFdClusterStartIndex path = FdThreadDumper.findFdClusterStartIndex path := by
  unfold DumpCommonUtils.findFdClusterStartIndex FdThreadDumper.findFdClusterStartIndex
    DumpCommonUtils.findNonSandBoxPathIndex
  split
  · exact toInt32_findDigit h 0
  · exact toInt32_findDigit h (storagePathSize + 1)

/-- The directory of a path in `CountFdNums`. -/
def clusterOf (path : String) : String :=
  prefixOf path (DumpCommonUtils.findFdClusterStartIndex path)

/-! ## Counting -/

/-- The known types are short. -/
private theorem length_maybeKnownType_lt (link : String) :
    (maybeKnownType link).length < pathMax := by
  have hall : ∀ type ∈ knownTypes, type.length < pathMax := by decide
  unfold maybeKnownType
  cases hfind : knownTypes.find? fun type => contains link type with
  | none => decide
  | some type => exact hall type (List.mem_of_find?_eq_some hfind)

/-- The path that a link is counted under. -/
def countedPath (link : String) : String :=
  if maybeKnownType link ≠ "unknown" then maybeKnownType link else link

/-- The paths that are counted are link targets or known types, so they are short. -/
private theorem length_lt_of_mem_countPaths {links : List String}
    (h : ∀ link ∈ links, link.length < pathMax) {path : String} (hpath : path ∈ countPaths links) :
    path.length < pathMax := by
  -- Whatever was counted before, counting a link adds a key of bounded length.
  suffices hmap : ∀ counter : UnorderedMap String Nat, (∀ key ∈ counter, key.length < pathMax) →
      ∀ key ∈ links.foldl (fun counter link => counter.upsert (countedPath link) 1 (· + 1)) counter,
        key.length < pathMax by
    exact hmap ∅ (fun key hkey => absurd hkey (AList.notMem_empty key)) path hpath
  clear hpath
  induction links with
  | nil => exact fun counter hcounter => hcounter
  | cons link links ih =>
    intro counter hcounter
    apply ih (fun link hlink => h link (List.mem_cons_of_mem _ hlink))
    intro key hkey
    have hlength : (countedPath link).length < pathMax := by
      unfold countedPath
      split
      · exact length_maybeKnownType_lt link
      · exact h link List.mem_cons_self
    rw [← AList.lookup_isSome, AList.lookup_upsert] at hkey
    by_cases heq : key = countedPath link
    · rw [heq]
      exact hlength
    · rw [if_neg heq] at hkey
      exact hcounter key (AList.lookup_isSome.mp hkey)

/-- Every link is counted once. -/
private theorem sumVals_countPaths (links : List String) :
    (countPaths links).sumVals id = links.length := by
  have hsum := AList.sumVals_foldl_upsert id (fun _ => 1) countedPath (fun _ => 1)
    (fun _ => (· + 1)) (fun _ => rfl) (fun _ _ => rfl) links ∅
  have heq : (countPaths links).sumVals id = 0 + (links.map fun _ => 1).sum := hsum
  simpa using heq

/-- The loop depends on the directories of the counted paths only. -/
private theorem fillTypePaths_congr {cluster cluster' : String → String} {linkCounts : List FdEntry}
    (h : ∀ entry ∈ linkCounts, cluster entry.1 = cluster' entry.1) :
    fillTypePaths cluster linkCounts = fillTypePaths cluster' linkCounts := by
  unfold fillTypePaths
  apply List.foldl_ext
  intro typePaths entry hentry
  rw [h entry hentry]

/-- The same counts in both pipelines. -/
theorem counts_eq (env : FdEnv) (links : List FdLink) :
    FdNums.counts env links = FdThreadDumper.counts env links := by
  have hpaths : ∀ entry ∈ env.linkCountsOrder.visit (countPaths (links.map (·.text))),
      entry.1.length < pathMax := by
    intro entry hentry
    have hmem := (env.linkCountsOrder.visit_perm _).mem_iff.mp hentry
    obtain ⟨e, he, rfl⟩ := List.mem_map.mp hmem
    refine length_lt_of_mem_countPaths ?_ (AList.mem_keys.mpr (List.mem_map_of_mem he))
    intro link hlink
    obtain ⟨fdLink, -, rfl⟩ := List.mem_map.mp hlink
    exact fdLink.length_lt
  -- The two ways to cut a path agree on paths of `PATH_MAX`, and no other is counted.
  have htypePaths : fillTypePaths clusterOf
        (env.linkCountsOrder.visit (countPaths (links.map (·.text)))) =
      fillTypePaths (fun path => prefixOf path (FdThreadDumper.findFdClusterStartIndex path))
        (env.linkCountsOrder.visit (countPaths (links.map (·.text)))) := by
    apply fillTypePaths_congr
    intro entry hentry
    rw [clusterOf, findFdClusterStartIndex_eq (hpaths entry hentry)]
  show fdCounts env clusterOf _ = fdCounts env _ _
  simp only [fdCounts, htypePaths]

/-! ## Directory totals -/

/-- The sum of the counts of the paths with a property. -/
def sumOver (entries : List FdEntry) (p : String → Prop) [DecidablePred p] : Nat :=
  ((entries.filter fun entry => p entry.1).map (·.2)).sum

private theorem sumOver_cons (entry : FdEntry) (entries : List FdEntry) (p : String → Prop)
    [DecidablePred p] :
    sumOver (entry :: entries) p = (if p entry.1 then entry.2 else 0) + sumOver entries p := by
  by_cases h : p entry.1
  · simp [sumOver, h]
  · simp [sumOver, h]

/-- The sum of the counts below a directory in a partly filled `typePaths`. -/
def dirTotal (typePaths : UnorderedMap String (UnorderedMap String Nat)) (dir : String) : Nat :=
  ((typePaths.lookup dir).map (AList.sumVals id)).getD 0

/-- No path that is still to come has been put below a directory. -/
def Unseen (typePaths : UnorderedMap String (UnorderedMap String Nat)) (path : String) : Prop :=
  ∀ dir paths, typePaths.lookup dir = some paths → path ∉ paths

/-- One path is put below its directory, unless it is its own directory. -/
def addPath (cluster : String → String)
    (typePaths : UnorderedMap String (UnorderedMap String Nat)) (entry : FdEntry) :
    UnorderedMap String (UnorderedMap String Nat) :=
  if cluster entry.1 ≠ entry.1 then
    typePaths.upsert (cluster entry.1) ((∅ : UnorderedMap String Nat).insert entry.1 entry.2)
      fun paths => paths.insert entry.1 entry.2
  else typePaths

private theorem fillTypePaths_eq (cluster : String → String) (linkCounts : List FdEntry) :
    fillTypePaths cluster linkCounts = linkCounts.foldl (addPath cluster) ∅ := rfl

/-- The path below a directory is counted in the total of that directory and in no other. -/
private theorem dirTotal_addPath (cluster : String → String)
    {typePaths : UnorderedMap String (UnorderedMap String Nat)} {entry : FdEntry}
    (hunseen : Unseen typePaths entry.1) (dir : String) :
    dirTotal (addPath cluster typePaths entry) dir =
      dirTotal typePaths dir +
        if cluster entry.1 = dir ∧ cluster entry.1 ≠ entry.1 then entry.2 else 0 := by
  unfold addPath
  by_cases hown : cluster entry.1 = entry.1
  · simp [hown]
  rw [if_pos hown, dirTotal, AList.lookup_upsert]
  by_cases hdir : dir = cluster entry.1
  · subst hdir
    rw [if_pos rfl, if_pos ⟨rfl, hown⟩, dirTotal]
    cases hlookup : typePaths.lookup (cluster entry.1) with
    | none =>
      show AList.sumVals id ((∅ : UnorderedMap String Nat).insert entry.1 entry.2) = 0 + entry.2
      rw [AList.sumVals_insert_of_notMem id entry.2 (AList.notMem_empty entry.1),
        AList.sumVals_empty, Nat.add_zero, Nat.zero_add]
      rfl
    | some paths =>
      simp [AList.sumVals_insert_of_notMem id entry.2 (hunseen _ _ hlookup), Nat.add_comm]
  · rw [if_neg hdir, if_neg (fun h => hdir h.1.symm), Nat.add_zero, dirTotal]

/-- Putting one path below its directory leaves the others to come. -/
private theorem unseen_addPath (cluster : String → String)
    {typePaths : UnorderedMap String (UnorderedMap String Nat)} {entry : FdEntry} {path : String}
    (hunseen : Unseen typePaths path) (hne : path ≠ entry.1) :
    Unseen (addPath cluster typePaths entry) path := by
  unfold addPath
  split
  · intro dir paths hlookup
    rw [AList.lookup_upsert] at hlookup
    by_cases hdir : dir = cluster entry.1
    · rw [if_pos hdir, Option.some.injEq] at hlookup
      subst hlookup
      -- The entry's own path is added to a new list or to that of its type.
      cases hold : typePaths.lookup (cluster entry.1) with
      | none =>
        rw [Option.elim_none, AList.mem_insert, not_or]
        exact ⟨hne, AList.notMem_empty path⟩
      | some paths =>
        rw [Option.elim_some, AList.mem_insert, not_or]
        exact ⟨hne, hunseen _ _ hold⟩
    · rw [if_neg hdir] at hlookup
      exact hunseen dir paths hlookup
  · exact hunseen

/-- After the loop the total of a directory is the sum over the paths that are truncated to it. -/
private theorem dirTotal_foldl_addPath (cluster : String → String) (linkCounts : List FdEntry)
    (hnodup : (linkCounts.map (·.1)).Nodup)
    (typePaths : UnorderedMap String (UnorderedMap String Nat))
    (hunseen : ∀ entry ∈ linkCounts, Unseen typePaths entry.1) (dir : String) :
    dirTotal (linkCounts.foldl (addPath cluster) typePaths) dir =
      dirTotal typePaths dir +
        sumOver linkCounts fun path => cluster path = dir ∧ cluster path ≠ path := by
  induction linkCounts generalizing typePaths with
  | nil => simp [sumOver]
  | cons entry linkCounts ih =>
    rw [List.map_cons, List.nodup_cons] at hnodup
    rw [List.foldl_cons, ih hnodup.2,
      dirTotal_addPath cluster (hunseen entry List.mem_cons_self), Nat.add_assoc, sumOver_cons]
    · intro later hlater
      apply unseen_addPath cluster (hunseen later (List.mem_cons_of_mem _ hlater))
      intro heq
      exact hnodup.1 (heq ▸ List.mem_map_of_mem hlater)

/-- A loop that inserts every entry of a list with distinct keys. -/
theorem lookup_foldl_insert {ν : Type} (g : String → ν → Nat) (l : List (Sigma fun _ : String => ν))
    (hnodup : l.NodupKeys) (init : UnorderedMap String Nat) (k : String) :
    (l.foldl (fun t e => t.insert e.1 (g e.1 e.2)) init).lookup k =
      ((l.dlookup k).map (g k)).or (init.lookup k) := by
  induction l generalizing init with
  | nil => simp
  | cons e l ih =>
    rw [List.nodupKeys_cons] at hnodup
    rw [List.foldl_cons, ih hnodup.2]
    by_cases hk : k = e.1
    · subst hk
      rw [List.dlookup_eq_none.mpr hnodup.1, show e = ⟨e.1, e.2⟩ from rfl, List.dlookup_cons_eq]
      simp
    · rw [List.dlookup_cons_ne _ _ hk, AList.lookup_insert_ne hk]

/-- The sum does not depend on the order of the visit. -/
private theorem sum_visit (order : IterationOrder) (counter : UnorderedMap String Nat) :
    ((order.visit counter).map (·.2)).foldl (· + ·) 0 = counter.sumVals id := by
  rw [← List.sum_eq_foldl, AList.sumVals, ((order.visit_perm counter).map _).sum_eq, List.map_map]
  rfl

/-- The total of a directory is the sum over `typePaths`. -/
private theorem lookup_fillTypeTotal (env : FdEnv)
    (typePaths : UnorderedMap String (UnorderedMap String Nat)) (dir : String) :
    (fillTypeTotal env typePaths).lookup dir = (typePaths.lookup dir).map (AList.sumVals id) := by
  have hperm := List.mergeSort_perm typePaths.entries fun a b => decide (a.1 ≤ b.1)
  have hnodup := (List.perm_nodupKeys hperm).mpr typePaths.nodupKeys
  unfold fillTypeTotal
  simp only [sum_visit]
  rw [lookup_foldl_insert (fun _ paths => paths.sumVals id) _ hnodup,
    List.perm_dlookup dir hnodup hperm]
  simp [AList.lookup]

/-- The entries of a counter as they are visited have distinct paths. -/
theorem nodup_visit (order : IterationOrder) (counter : UnorderedMap String Nat) :
    ((order.visit counter).map (·.1)).Nodup := by
  rw [((order.visit_perm counter).map _).nodup_iff, List.map_map]
  exact counter.nodupKeys

/-- A total is the sum over the counted paths that are truncated to the directory. -/
theorem typeTotal_eq_sumOver (env : FdEnv) (cluster : String → String) (links : List String)
    {dir : String} {total : Nat} (h : (fdCounts env cluster links).typeTotal.lookup dir = some total) :
    total = sumOver ((fdCounts env cluster links).linkCounts.entries.map fun e => (e.1, e.2))
      fun path => cluster path = dir ∧ cluster path ≠ path := by
  have hlookup : (fillTypeTotal env (fdCounts env cluster links).typePaths).lookup dir =
      some total := h
  have htotal := dirTotal_foldl_addPath cluster (env.linkCountsOrder.visit (countPaths links))
    (nodup_visit _ _) ∅ (fun _ _ dir paths hempty => by simp at hempty) dir
  rw [lookup_fillTypeTotal] at hlookup
  have hdir : dirTotal (fdCounts env cluster links).typePaths dir = total := by
    rw [dirTotal, hlookup, Option.getD_some]
  have hperm := env.linkCountsOrder.visit_perm (countPaths links)
  calc total = dirTotal (fdCounts env cluster links).typePaths dir := hdir.symm
    _ = sumOver (env.linkCountsOrder.visit (countPaths links))
        (fun path => cluster path = dir ∧ cluster path ≠ path) := by
      rw [show (fdCounts env cluster links).typePaths = _ from fillTypePaths_eq _ _, htotal]
      simp [dirTotal]
    _ = _ := ((hperm.filter _).map _).sum_eq

/-- A directory has an entry when a path has been put below it. -/
private theorem isSome_lookup_foldl_addPath (cluster : String → String) (linkCounts : List FdEntry)
    (typePaths : UnorderedMap String (UnorderedMap String Nat)) (dir : String) :
    ((linkCounts.foldl (addPath cluster) typePaths).lookup dir).isSome = true ↔
      (typePaths.lookup dir).isSome = true ∨
        ∃ entry ∈ linkCounts, cluster entry.1 = dir ∧ cluster entry.1 ≠ entry.1 := by
  induction linkCounts generalizing typePaths with
  | nil => simp
  | cons entry linkCounts ih =>
    have hone : ((addPath cluster typePaths entry).lookup dir).isSome = true ↔
        (typePaths.lookup dir).isSome = true ∨
          (cluster entry.1 = dir ∧ cluster entry.1 ≠ entry.1) := by
      unfold addPath
      by_cases hown : cluster entry.1 = entry.1
      · simp [hown]
      · rw [if_pos hown, AList.lookup_upsert]
        by_cases hdir : dir = cluster entry.1
        · rw [if_pos hdir]
          simp [hdir, hown]
        · rw [if_neg hdir]
          simp [Ne.symm hdir]
    rw [List.foldl_cons, ih, hone, or_assoc]
    simp only [List.exists_mem_cons_iff]

/-- The directories with a total are those of the paths that are truncated. -/
theorem isSome_lookup_typeTotal (env : FdEnv) (cluster : String → String) (links : List String)
    (dir : String) :
    ((fdCounts env cluster links).typeTotal.lookup dir).isSome = true ↔
      ∃ path ∈ (fdCounts env cluster links).linkCounts.keys,
        cluster path = dir ∧ cluster path ≠ path := by
  have htypeTotal : (fdCounts env cluster links).typeTotal.lookup dir =
      (((env.linkCountsOrder.visit (countPaths links)).foldl (addPath cluster) ∅).lookup dir).map
        (AList.sumVals id) := lookup_fillTypeTotal env _ dir
  -- In whatever order the map is visited, its keys are the counted paths.
  have hvisit : ∀ path, (∃ count, (path, count) ∈ env.linkCountsOrder.visit (countPaths links)) ↔
      path ∈ (fdCounts env cluster links).linkCounts.keys := by
    intro path
    have hkeys := ((env.linkCountsOrder.visit_perm (countPaths links)).map (·.1)).mem_iff (a := path)
    rw [List.map_map] at hkeys
    refine Iff.trans ?_ hkeys
    simp
  rw [htypeTotal, Option.isSome_map, isSome_lookup_foldl_addPath, AList.lookup_empty]
  simp only [Option.isSome_none, Bool.false_eq_true, false_or, ← hvisit]
  constructor
  · rintro ⟨entry, hentry, hdir⟩
    exact ⟨entry.1, ⟨entry.2, hentry⟩, hdir⟩
  · rintro ⟨path, ⟨count, hentry⟩, hdir⟩
    exact ⟨(path, count), hentry, hdir⟩

/-! ## The listing -/

private theorem flatten_map_append {α : Type} (x : α) (pieces : List (List α)) (hne : pieces ≠ []) :
    (pieces.map (· ++ [x])).flatten = [x].intercalate pieces ++ [x] := by
  induction pieces with
  | nil => exact absurd rfl hne
  | cons piece pieces ih =>
    cases pieces with
    | nil => simp
    | cons piece' pieces =>
      rw [List.map_cons, List.flatten_cons, ih (List.cons_ne_nil _ _),
        List.intercalate_cons_cons, List.append_assoc, List.append_assoc, List.append_assoc]

/-- The lines of a text that ends with a line break, each with its line break, are the
    text. -/
private theorem join_getlines {text : String} {chars : List Char}
    (h : text.toList = chars ++ ['\n']) :
    String.join ((FdThreadDumper.getlines text).map (· ++ "\n")) = text := by
  have hpieces : (chars ++ ['\n']).splitOn '\n' = chars.splitOn '\n' ++ [[]] := by
    rw [List.splitOn_append_cons_self, List.splitOn_nil]
  have hlines : FdThreadDumper.getlines text = (chars.splitOn '\n').map String.ofList := by
    simp [FdThreadDumper.getlines, h, hpieces]
  apply String.toList_inj.mp
  have hchar : ∀ piece : List Char, ((String.ofList piece) ++ "\n").toList = piece ++ ['\n'] := by
    simp
  have hne : chars.splitOn '\n' ≠ [] := List.splitOn_ne_nil _ _
  rw [hlines, String.toList_join, h, List.flatMap_def, List.map_map, List.map_map]
  calc _ = ((chars.splitOn '\n').map (· ++ ['\n'])).flatten := by
        congr 1
        apply List.map_congr_left
        intro piece _
        exact hchar piece
    _ = chars ++ ['\n'] := by rw [flatten_map_append _ _ hne, List.intercalate_splitOn]

/-- A line that ends with a line break. -/
def EndsLine (line : String) : Prop := ∃ chars, line.toList = chars ++ ['\n']

private theorem endsLine_append (text : String) : EndsLine (text ++ "\n") :=
  ⟨text.toList, by simp⟩

/-- Lines with line breaks make a text with a line break at the end, if there are any. -/
private theorem endsLine_join {lines : List String} (h : ∀ line ∈ lines, EndsLine line) :
    lines = [] ∨ EndsLine (String.join lines) := by
  induction lines with
  | nil => exact Or.inl rfl
  | cons line lines ih =>
    obtain ⟨chars, hchars⟩ := h line List.mem_cons_self
    refine Or.inr ?_
    rcases ih fun line hline => h line (List.mem_cons_of_mem _ hline) with hnil | ⟨rest, hrest⟩
    · exact ⟨chars, by rw [hnil, String.join_cons]; simp [hchars]⟩
    · exact ⟨line.toList ++ rest, by rw [String.join_cons, String.toList_append, hrest]; simp⟩

/-- All lines of the directory listing end with a line break. -/
private theorem endsLine_dirLines (env : FdEnv)
    (typePaths : UnorderedMap String (UnorderedMap String Nat)) (entry : FdEntry) :
    ∀ line ∈ dirLines env typePaths entry, EndsLine line := by
  intro line hline
  unfold dirLines at hline
  rcases List.mem_cons.mp hline with rfl | hline
  · exact endsLine_append _
  · cases hpaths : typePaths.lookup entry.1 with
    | none =>
      rw [hpaths] at hline
      exact nomatch hline
    | some paths =>
      rw [hpaths] at hline
      obtain ⟨path, -, rfl⟩ := List.mem_map.mp hline
      exact endsLine_append _

/-- The rows of the command's listing are the lines of the text it is made from. -/
private theorem join_getlines_getTopDirInfo (env : FdEnv) (topTypes : List FdEntry)
    (typePaths : UnorderedMap String (UnorderedMap String Nat)) :
    String.join ((FdThreadDumper.getlines (getTopDirInfo env topTypes typePaths)).map (· ++ "\n")) =
      getTopDirInfo env topTypes typePaths := by
  have hends : ∀ line ∈ topTypes.flatMap (dirLines env typePaths), EndsLine line := by
    intro line hline
    obtain ⟨entry, -, hentry⟩ := List.mem_flatMap.mp hline
    exact endsLine_dirLines env typePaths entry line hentry
  unfold getTopDirInfo
  rcases endsLine_join hends with hnil | ⟨chars, hchars⟩
  · rw [hnil]
    decide
  · exact join_getlines hchars

/-! ## Agreement -/

/-- Nothing is lost in the counts of one pipeline: the links are all counted, and each
    directory total is the sum over the distinct paths that are truncated to it. The
    directories that such a path has are the ones with a total. -/
structure Conserves (links : List FdLink) (counts : FdCounts) : Prop where
  sum_linkCounts : counts.linkCounts.sumVals id = links.length
  typeTotal : ∀ dir total, counts.typeTotal.lookup dir = some total →
    total = sumOver (counts.linkCounts.entries.map fun e => (e.1, e.2))
      fun path => clusterOf path = dir ∧ clusterOf path ≠ path
  hasTotal : ∀ dir, (counts.typeTotal.lookup dir).isSome = true ↔
    ∃ path ∈ counts.linkCounts.keys, clusterOf path = dir ∧ clusterOf path ≠ path

/-- One pipeline loses nothing. -/
private theorem conserves_counts (env : FdEnv) (links : List FdLink) :
    Conserves links (FdNums.counts env links) where
  sum_linkCounts := by
    show (countPaths (links.map (·.text))).sumVals id = links.length
    rw [sumVals_countPaths, List.length_map]
  typeTotal dir total h := typeTotal_eq_sumOver env clusterOf _ h
  hasTotal dir := isSome_lookup_typeTotal env clusterOf _ dir

/-- For the same links and the same open choices of the library, the two pipelines find the
    same directories, counts, ranks, totals, summary and listing, and lose nothing. -/
theorem fdPipelines_agree (env : FdEnv) (links : List FdLink) :
    (∀ link : FdLink, DumpCommonUtils.findFdClusterStartIndex link.text =
      FdThreadDumper.findFdClusterStartIndex link.text) ∧
    FdNums.counts env links = FdThreadDumper.counts env links ∧
    FdNums.summary env links = FdThreadDumper.summary env links ∧
    String.join ((FdThreadDumper.dirInfoRows env links).map fun row => String.join row ++ "\n") =
      FdNums.topDirInfo env links ∧
    Conserves links (FdNums.counts env links) ∧
    Conserves links (FdThreadDumper.counts env links) := by
  have hcounts := counts_eq env links
  refine ⟨fun link => findFdClusterStartIndex_eq link.length_lt, hcounts, ?_, ?_,
    conserves_counts env links, hcounts ▸ conserves_counts env links⟩
  · rw [FdNums.summary, FdThreadDumper.summary, hcounts]
  · rw [FdThreadDumper.dirInfoRows, FdNums.topDirInfo, hcounts, List.map_map]
    simpa [Function.comp_def] using join_getlines_getTopDirInfo env
      (FdThreadDumper.counts env links).topTypes (FdThreadDumper.counts env links).typePaths

/-! ## The output -/

/-- A queue that has been offered an entry is not empty. -/
private theorem offer_ne_nil (heap : MinHeap) {n : Nat} (hn : 0 < n) (minHeap : List FdEntry)
    (kv : FdEntry) : offer heap n minHeap kv ≠ [] := by
  have hpush : ∀ minHeap, heap.push minHeap kv ≠ [] := by
    intro minHeap hnil
    have hperm := heap.push_perm minHeap kv
    rw [hnil] at hperm
    exact List.cons_ne_nil _ _ (List.nil_perm.mp hperm)
  cases minHeap with
  | nil =>
    rw [offer, if_pos (by simpa using hn)]
    exact hpush _
  | cons top rest =>
    simp only [offer, List.head?_cons]
    split
    · exact hpush _
    · split
      · exact hpush _
      · exact List.cons_ne_nil _ _

/-- There is a largest entry where there are any. -/
private theorem topN_ne_nil (heap : MinHeap) {n : Nat} (hn : 0 < n) {counter : List FdEntry}
    (hne : counter ≠ []) : topN heap counter n ≠ [] := by
  have hfold : counter.foldl (offer heap n) [] ≠ [] := by
    obtain ⟨front, last, rfl⟩ := counter.eq_nil_or_concat.resolve_left hne
    rw [List.concat_eq_append, List.foldl_append]
    exact offer_ne_nil heap hn _ last
  obtain ⟨top, rest, htop⟩ := List.exists_cons_of_ne_nil hfold
  intro hnil
  have hperm := List.mergeSort_perm (drain heap (counter.foldl (offer heap n) []).length
    (counter.foldl (offer heap n) [])) fun a b => !ranksBefore b a
  have htopN : topN heap counter n = (drain heap (counter.foldl (offer heap n) []).length
    (counter.foldl (offer heap n) [])).mergeSort fun a b => !ranksBefore b a := rfl
  rw [← htopN, hnil, htop] at hperm
  exact absurd (List.nil_perm.mp hperm) (List.cons_ne_nil _ _)

/-- With links there is a summary. -/
private theorem summary_ne_empty (env : FdEnv) {links : List FdLink} (hne : links ≠ []) :
    FdThreadDumper.summary env links ≠ "" := by
  have hcounter : env.linkCountsOrder.visit (countPaths (links.map (·.text))) ≠ [] := by
    intro hnil
    have hperm := env.linkCountsOrder.visit_perm (countPaths (links.map (·.text)))
    rw [hnil] at hperm
    have hentries := List.map_eq_nil_iff.mp (List.nil_perm.mp hperm)
    -- The counts add up to the number of links.
    have hsum := sumVals_countPaths (links.map (·.text))
    rw [AList.sumVals, hentries, List.map_nil, List.sum_nil, List.length_map] at hsum
    exact hne (List.eq_nil_of_length_eq_zero hsum.symm)
  have htop : (FdThreadDumper.counts env links).topLinks ≠ [] :=
    topN_ne_nil env.minHeap (by decide) hcounter
  obtain ⟨topLink, rest, hlinks⟩ := List.exists_cons_of_ne_nil htop
  have hword : ∀ word text : String, word ≠ "" → word ++ text ≠ "" := by
    intro word text hword hnil
    exact hword (String.append_eq_empty_iff.mp hnil).1
  rw [FdThreadDumper.summary, hlinks]
  unfold getSummary
  cases (FdThreadDumper.counts env links).topTypes with
  | nil => exact hword _ _ (by decide)
  | cons topType types =>
    show (if topType.2 > topLink.2 then _ else _) ≠ ""
    split
    · exact hword _ _ (by decide)
    · exact hword _ _ (by decide)

/-- The rows of the command's list of links are the lines of the text it is made from. -/
private theorem join_getlines_getTopFdInfo (topLinks : List FdEntry) :
    String.join ((FdThreadDumper.getlines (getTopFdInfo topLinks)).map (· ++ "\n")) =
      getTopFdInfo topLinks := by
  have hends : ∀ line ∈ topLinks.map fun entry => toString entry.2 ++ "\t" ++ entry.1 ++ "\n",
      EndsLine line := by
    intro line hline
    obtain ⟨entry, -, rfl⟩ := List.mem_map.mp hline
    exact endsLine_append _
  unfold getTopFdInfo
  rcases endsLine_join hends with hnil | ⟨chars, hchars⟩
  · rw [hnil]
    decide
  · exact join_getlines hchars

/-- The text that rows of the command stand for: each is a line. -/
def commandText (rows : List (List String)) : String :=
  String.join (rows.map fun row => String.join row ++ "\n")

/-- The text of rows behind others is behind theirs. -/
private theorem commandText_append (rows rows' : List (List String)) :
    commandText (rows ++ rows') = commandText rows ++ commandText rows' := by
  rw [commandText, List.map_append, String.join_append, commandText, commandText]

private theorem commandText_cons (row : List String) (rows : List (List String)) :
    commandText (row :: rows) = String.join row ++ "\n" ++ commandText rows := by
  rw [commandText, List.map_cons, String.join_cons, commandText]

private theorem commandText_lines (lines : List String) :
    commandText (lines.map fun line => [line]) = String.join (lines.map (· ++ "\n")) := by
  rw [commandText, List.map_map]
  rfl

/-- The command writes the text that the service returns, behind the number of links and
    before the counts of the links where these are asked for. Both fail where there are no
    links. -/
theorem dumpFdInfo_text (env : FdEnv) (isDumpFdThreadAll : Bool) (links : List FdLink) :
    (FdThreadDumper.dumpFdInfo env isDumpFdThreadAll links).map commandText =
      (FdNums.countFdNums env links).map fun nums =>
        "fd num: " ++ toString nums.fdNums ++ "\n" ++ nums.detailFdInfo ++
          commandText (FdThreadDumper.dumpFdLinkCounts env isDumpFdThreadAll links) := by
  cases links with
  | nil => rfl
  | cons link links =>
    have hcounts := counts_eq env (link :: links)
    have hsummary : FdNums.summary env (link :: links) =
        FdThreadDumper.summary env (link :: links) := by
      rw [FdNums.summary, FdThreadDumper.summary, hcounts]
    have hne := summary_ne_empty env (List.cons_ne_nil link links)
    have hdirs : commandText (FdThreadDumper.dirInfoRows env (link :: links)) =
        FdNums.topDirInfo env (link :: links) := by
      rw [FdThreadDumper.dirInfoRows, commandText_lines, join_getlines_getTopDirInfo,
        FdNums.topDirInfo, hcounts]
    have htop : commandText (FdThreadDumper.dumpFdTopInfo
          (FdThreadDumper.counts env (link :: links)).topLinks) =
        "Leaked fd Top 10:\n" ++ getTopFdInfo (FdNums.counts env (link :: links)).topLinks := by
      rw [FdThreadDumper.dumpFdTopInfo, commandText_cons, commandText_lines, join_getlines_getTopFdInfo,
        hcounts]
      rfl
    simp only [FdThreadDumper.dumpFdInfo, FdNums.countFdNums, List.isEmpty_cons, Bool.false_eq_true,
      if_false, Option.map_some, commandText_append, htop, hsummary, FdThreadDumper.dumpFdSummary,
      FdThreadDumper.dumpFdDirInfo, commandText_cons, hdirs, if_pos hne]
    -- The service has the line breaks in the texts, the command at the end of each row.
    have hsummaryLine : "Summary:\n" = "Summary:" ++ "\n" := by decide
    have hheading : "\n\nLeaked fd Top 10:\n" = "\n" ++ ("\n" ++ "Leaked fd Top 10:\n") := by
      decide
    have hcolon : ":\n" = ":" ++ "\n" := by decide
    simp [-String.reduceAppend, hsummaryLine, hheading, hcolon, commandText, String.join_cons,
      String.join_nil, String.append_assoc, fdTopCnt]

/-- Maps are visited in the order of their entries. -/
def entryOrder : IterationOrder where
  visit counter := counter.entries.map fun e => (e.1, e.2)
  visit_perm _ := List.Perm.refl _

/-- A priority queue that keeps its elements sorted. -/
def sortedHeap : MinHeap where
  push minHeap entry := minHeap.orderedInsert (fun a b => a.2 ≤ b.2) entry
  pop minHeap := minHeap.tail
  push_perm minHeap entry := List.perm_orderedInsert _ entry minHeap
  pop_perm _ := List.Perm.refl _

/-- One choice of everything that is left open. -/
def plainEnv : FdEnv := ⟨sortedHeap, entryOrder, entryOrder, fun _ => entryOrder⟩

/-- A path without a digit next to one that is truncated to it. -/
def logLinks : List FdLink := [⟨"/data/log", by decide⟩, ⟨"/data/log1", by decide⟩]

/-- The path that is a directory of its own is not part of the total of that directory. -/
theorem typeTotal_without_own :
    ¬∀ dir total, (FdNums.counts plainEnv logLinks).typeTotal.lookup dir = some total →
      total = sumOver ((FdNums.counts plainEnv logLinks).linkCounts.entries.map
        fun e => (e.1, e.2)) fun path => clusterOf path = dir := by
  intro h
  have htotal : (FdNums.counts plainEnv logLinks).typeTotal.lookup "/data/log" = some 1 := by
    show (fillTypeTotal plainEnv (FdNums.counts plainEnv logLinks).typePaths).lookup _ = _
    rw [lookup_fillTypeTotal]
    decide +kernel
  have hsum := h "/data/log" 1 htotal
  exact absurd hsum (by decide +kernel)

end HiDumper.Spec
