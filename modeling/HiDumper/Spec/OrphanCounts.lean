import HiDumper.Native.OrphanVnodes
import HiDumper.Spec.FdPipelines
import Mathlib.Algebra.BigOperators.Group.List.Lemmas

/-!
# The counts of files that are open and gone

Links are counted by path, paths with a digit are added up under the text before it, and
the totals are put into the map of the counts. A path without a digit that is also the
text before the digit of others loses its own count there: the total replaces it. So no
link is lost exactly when such a path has no more links than the paths under it.

## Key results

- `lookup_rankedCounts`: the number ranked under each key
- `neverLosesLink_iff`: when no link is lost
- `scanOrphanVnodesForProcess_eq`: what one scan returns
-/

namespace HiDumper.Spec

open HiDumper.Native OrphanVnodes

/-! ## What is ranked -/

/-- A path is counted as often as it occurs. -/
private theorem lookup_countLinks (links : List String) (path : String) :
    (countLinks links).lookup path = if path ∈ links then some (links.count path) else none := by
  have hlookup := AList.lookup_foldl_tally (fun link : String => link) (fun _ => 1) links path
  have hsum : ((links.filter fun link => link = path).map fun _ => 1).sum = links.count path := by
    rw [List.map_const', List.sum_const_nat, Nat.mul_one, List.count, List.countP_eq_length_filter]
    rfl
  have hmem : (∃ link ∈ links, link = path) ↔ path ∈ links := by simp
  rw [hsum] at hlookup
  simp only [hmem] at hlookup
  exact hlookup

/-- The counter has every path once, with the number of its links. -/
private theorem visit_countLinks_perm (order : IterationOrder) (links : List String) :
    (order.visit (countLinks links)).Perm (links.dedup.map fun path => (path, links.count path)) := by
  refine (order.visit_perm (countLinks links)).trans ?_
  have hentries : (countLinks links).entries.map (fun e => (e.1, e.2)) =
      (countLinks links).keys.map fun path => (path, links.count path) := by
    rw [AList.keys, List.keys, List.map_map]
    apply List.map_congr_left
    intro e he
    have hlookup := AList.lookup_eq_some_iff.mpr he
    rw [lookup_countLinks] at hlookup
    split at hlookup
    · exact congrArg _ (Option.some.inj hlookup).symm
    · exact nomatch hlookup
  -- The keys of the counter are the links, each once.
  have hkeys : (countLinks links).keys.Perm links.dedup := by
    rw [List.perm_ext_iff_of_nodup (AList.keys_nodup _) links.nodup_dedup]
    intro path
    rw [← AList.mem_keys, ← AList.lookup_isSome, lookup_countLinks, List.mem_dedup]
    split
    · simpa
    · simpa
  rw [hentries]
  exact hkeys.map _

/-- A path is put under a text before its first digit. -/
def IsUnder (dir path : String) : Prop := typeOf path = dir ∧ path ≠ dir

instance (dir path : String) : Decidable (IsUnder dir path) :=
  inferInstanceAs (Decidable (_ ∧ _))

/-- The totals are a tally of the paths that are truncated. -/
private theorem totalTypes_eq (entries : List FdEntry) :
    totalTypes entries =
      (entries.filter fun entry => typeOf entry.1 ≠ entry.1).foldl
        (AList.tally (fun entry => typeOf entry.1) fun entry => entry.2) ∅ := by
  rw [List.foldl_filter]
  simp only [decide_eq_true_eq]
  rfl

/-- The total of a directory counts the links to paths under it. -/
private theorem lookup_totalTypes (order : IterationOrder) (links : List String) (dir : String) :
    (totalTypes (order.visit (countLinks links))).lookup dir =
      if ∃ path ∈ links, IsUnder dir path then
        some (links.countP fun path => IsUnder dir path)
      else none := by
  have hperm := visit_countLinks_perm order links
  have hunder : ∀ entry : FdEntry, (typeOf entry.1 = dir ∧ typeOf entry.1 ≠ entry.1) ↔
      IsUnder dir entry.1 := by
    intro entry
    constructor
    · rintro ⟨rfl, hne⟩
      exact ⟨rfl, hne.symm⟩
    · rintro ⟨rfl, hne⟩
      exact ⟨rfl, hne.symm⟩
  -- There is a path under the directory exactly if there is one among the counted ones.
  have hex : (∃ entry ∈ (order.visit (countLinks links)).filter fun entry =>
      typeOf entry.1 ≠ entry.1, typeOf entry.1 = dir) ↔ ∃ path ∈ links, IsUnder dir path := by
    constructor
    · rintro ⟨entry, hmem, hdir⟩
      rw [List.mem_filter] at hmem
      have hmem' := hperm.mem_iff.mp hmem.1
      obtain ⟨path, hpath, rfl⟩ := List.mem_map.mp hmem'
      refine ⟨path, List.mem_dedup.mp hpath, (hunder (path, links.count path)).mp ⟨hdir, ?_⟩⟩
      simpa using hmem.2
    · rintro ⟨path, hpath, hdir⟩
      have hboth := (hunder (path, links.count path)).mpr hdir
      refine ⟨(path, links.count path), List.mem_filter.mpr ⟨?_, by simpa using hboth.2⟩, hboth.1⟩
      exact hperm.mem_iff.mpr (List.mem_map_of_mem (List.mem_dedup.mpr hpath))
  -- And the counts of those paths add up to the links.
  have hsum : ((((order.visit (countLinks links)).filter fun entry =>
      typeOf entry.1 ≠ entry.1).filter fun entry => typeOf entry.1 = dir).map (·.2)).sum =
        links.countP fun path => IsUnder dir path := by
    rw [List.filter_filter, ((hperm.filter _).map _).sum_eq, List.filter_map, List.map_map,
      ← List.sum_map_count_dedup_filter_eq_countP]
    congr 2
    apply List.filter_congr
    intro path _
    simp only [Function.comp, ← Bool.decide_and]
    exact decide_eq_decide.mpr (hunder (path, links.count path))
  rw [totalTypes_eq, AList.lookup_foldl_tally, hsum]
  simp only [hex]

/-- A total replaces the count that was there under the same key. -/
private theorem lookup_mergeTotals (linkCounts typeTotal : UnorderedMap String Nat)
    (order : IterationOrder)
    (key : String) :
    (mergeTotals linkCounts (order.visit typeTotal)).lookup key =
      (typeTotal.lookup key).or (linkCounts.lookup key) := by
  have hperm := order.visit_perm typeTotal
  have hmap : (order.visit typeTotal).map (fun entry => (⟨entry.1, entry.2⟩ : Sigma fun _ => Nat))
      |>.Perm typeTotal.entries := by
    have hback := hperm.map fun entry => (⟨entry.1, entry.2⟩ : Sigma fun _ : String => Nat)
    rw [List.map_map] at hback
    exact hback.trans (.of_eq (List.map_id _))
  have hnodup := (List.perm_nodupKeys hmap).mpr typeTotal.nodupKeys
  have hlookup := lookup_foldl_insert (fun _ total => total) _ hnodup linkCounts key
  rw [List.foldl_map, List.perm_dlookup key hnodup hmap] at hlookup
  simpa [mergeTotals, AList.lookup] using hlookup

/-- The number ranked under a key: the total of the paths under it where there are any, and
    else the number of its own links. -/
theorem lookup_rankedCounts (env : OrphanEnv) (links : List String) (key : String) :
    (rankedCounts env links).lookup key =
      if ∃ path ∈ links, IsUnder key path then some (links.countP fun path => IsUnder key path)
      else if key ∈ links then some (links.count key) else none := by
  unfold rankedCounts
  rw [lookup_mergeTotals, lookup_totalTypes, lookup_countLinks]
  split
  · rfl
  · rfl

/-! ## Lost links -/

/-- The number ranked under a path covers its own links, and the number ranked under a
    directory covers the links to the paths under it. -/
structure NeverLosesLink (links : List String) (ranked : UnorderedMap String Nat) : Prop where
  own : ∀ path ∈ links, ∃ value, ranked.lookup path = some value ∧ links.count path ≤ value
  under : ∀ dir, (∃ path ∈ links, IsUnder dir path) →
    ∃ value, ranked.lookup dir = some value ∧ links.countP (fun path => IsUnder dir path) ≤ value

/-- No link is lost exactly when no path with paths under it has more links than these. -/
theorem neverLosesLink_iff (env : OrphanEnv) (links : List String) :
    NeverLosesLink links (rankedCounts env links) ↔
      ∀ dir ∈ links, (∃ path ∈ links, IsUnder dir path) →
        links.count dir ≤ links.countP fun path => IsUnder dir path := by
  constructor
  · intro hnever dir hdir hunder
    obtain ⟨value, hvalue, hle⟩ := hnever.own dir hdir
    rw [lookup_rankedCounts, if_pos hunder, Option.some.injEq] at hvalue
    rwa [hvalue]
  · intro hbelow
    constructor
    · intro path hpath
      rw [lookup_rankedCounts]
      -- A directory with links under it shows their count in place of its own.
      by_cases hunder : ∃ other ∈ links, IsUnder path other
      · rw [if_pos hunder]
        exact ⟨_, rfl, hbelow path hpath hunder⟩
      · rw [if_neg hunder, if_pos hpath]
        exact ⟨_, rfl, Nat.le_refl _⟩
    · intro dir hunder
      rw [lookup_rankedCounts, if_pos hunder]
      exact ⟨_, rfl, Nat.le_refl _⟩

/-! ## The scan -/

/-- The file that the descriptor stands for is gone. -/
def isOrphan (node : FdNode) : Bool := node.linkDest.text ≠ "unknown" && !node.statOk

/-- The links that are ranked: those of the orphans below `/data`. -/
def orphanLinks (fdNodes : List FdNode) : List String :=
  ((fdNodes.filter isOrphan).map (·.linkDest.text)).filter fun link => startWith link "/data"

/-- The loop counts the orphans and keeps their links below `/data`. -/
private theorem foldl_scanNode (fdNodes : List FdNode) (orphans : Orphans) :
    fdNodes.foldl scanNode orphans =
      ⟨orphans.count + fdNodes.countP isOrphan, orphans.links ++ orphanLinks fdNodes⟩ := by
  induction fdNodes generalizing orphans with
  | nil => simp [orphanLinks]
  | cons node fdNodes ih =>
    rw [List.foldl_cons, ih]
    by_cases hunknown : node.linkDest.text = "unknown"
    · simp [scanNode, isOrphan, orphanLinks, hunknown]
    cases hstat : node.statOk with
    | true => simp [scanNode, isOrphan, orphanLinks, hunknown, hstat]
    | false =>
      by_cases hdata : startWith node.linkDest.text "/data" = true
      · simp [scanNode, isOrphan, orphanLinks, hunknown, hstat, hdata]
        omega
      · simp [scanNode, isOrphan, orphanLinks, hunknown, hstat, hdata]
        omega

/-- More orphans than the threshold are reported, with the first ten of what is ranked. All
    orphans count for the threshold, also those that are not below `/data`. -/
theorem scanOrphanVnodesForProcess_eq (env : OrphanEnv) (fdNodes : List FdNode)
    (orphanVnodeThreshold : Int) :
    scanOrphanVnodesForProcess env fdNodes orphanVnodeThreshold =
      if orphanVnodeThreshold < fdNodes.countP isOrphan then
        some (FdCounter.topN env.minHeap
          (env.rankedOrder.visit (rankedCounts env (orphanLinks fdNodes))) orphanFdLinkPathTopCnt)
      else none := by
  unfold scanOrphanVnodesForProcess
  rw [foldl_scanNode]
  simp only [Nat.zero_add, List.nil_append]
  by_cases hmany : orphanVnodeThreshold < fdNodes.countP isOrphan
  · rw [if_pos hmany, if_neg (by omega)]
  · rw [if_neg hmany, if_pos (by omega)]

/-- The orders of the example. -/
def plainOrphanEnv : OrphanEnv := ⟨sortedHeap, entryOrder, entryOrder, entryOrder⟩

/-- Two descriptors of a deleted log, and one of its first rotation, deleted too. -/
def orphanLogs : List String := ["/data/log", "/data/log", "/data/log1"]

/-- The log is ranked with 1, the total of its rotations. -/
theorem not_neverLosesLink_orphanLogs :
    ¬NeverLosesLink orphanLogs (rankedCounts plainOrphanEnv orphanLogs) := by
  intro hnever
  obtain ⟨value, hvalue, hle⟩ := hnever.own "/data/log" (by decide)
  have hranked : (rankedCounts plainOrphanEnv orphanLogs).lookup "/data/log" = some 1 := by decide
  rw [hranked, Option.some.injEq] at hvalue
  subst hvalue
  exact absurd hle (by decide)

end HiDumper.Spec
