import HiDumper.Spec.FdPipelines
import HiDumper.Spec.TopEntries

/-!
# TopN and the order of the visit

`std::sort` at the end of `TopN` breaks ties by name, but the queue before it compares
counts only. Of several entries with the count at the cut, those that are visited first
stay. So the result is the same for every order of the visit exactly when there is no tie
at the cut.

## Key results

- `topN_congr_of_not_tied`: two orders, one result
- `exists_orders_of_tied`: two orders, two results, whatever the queue does
- `sameForEveryOrder_iff`: the exact condition
- `topLeakedTypeList_congr`: what follows for the reports of `CountFdNums`
-/

namespace HiDumper.Spec

open HiDumper.Native

section Orders

variable {β : Type} [LinearOrder β] {queue : CountQueue β} {n : Nat}

/-- Entries in the order of the result are determined by which they are. -/
private theorem eq_of_perm_of_sorted {result result' : List (String × β)}
    (hperm : result.Perm result')
    (hsorted : result.Pairwise fun a b => b.2 < a.2 ∨ (a.2 = b.2 ∧ a.1 ≤ b.1))
    (hsorted' : result'.Pairwise fun a b => b.2 < a.2 ∨ (a.2 = b.2 ∧ a.1 ≤ b.1)) :
    result = result' := by
  refine List.Perm.eq_of_pairwise ?_ hsorted hsorted' hperm
  intro a b _ _ hab hba
  obtain hlt | ⟨heq, hle⟩ := hab
  · obtain hlt' | ⟨heq', -⟩ := hba
    · exact absurd hlt (lt_asymm hlt')
    · exact absurd heq' hlt.ne
  · obtain hlt' | ⟨-, hle'⟩ := hba
    · exact absurd heq hlt'.ne
    · exact Prod.ext (String.le_antisymm hle hle') heq

/-- Without a tie at the cut, `TopN` returns one list for all orders of the visit. -/
theorem topN_congr_of_not_tied {visited visited' : List (String × β)}
    (hperm : visited.Perm visited') (hnodup : visited.Nodup)
    (hcut : ¬TiedAtCut (·.2) n visited) :
    TopN.topN queue visited n = TopN.topN queue visited' n := by
  by_cases hn : n = 0
  · subst hn
    by_cases hempty : visited = []
    · rw [hempty, List.nil_perm] at hperm
      rw [hempty, hperm]
    · have hempty' : visited' ≠ [] := fun h => hempty (List.perm_nil.mp (h ▸ hperm))
      rw [topN_zero queue hempty, topN_zero queue hempty']
  · obtain ⟨result, hresult, hlargest, hsorted⟩ :=
      exists_topN queue (Nat.pos_of_ne_zero hn) visited
    obtain ⟨result', hresult', hlargest', hsorted'⟩ :=
      exists_topN queue (Nat.pos_of_ne_zero hn) visited'
    have hkept := hlargest.perm_of_not_tied hnodup (hlargest'.of_perm hperm.symm) hcut
    rw [hresult, hresult', eq_of_perm_of_sorted hkept hsorted hsorted']

/-! ## A tie at the cut -/

/-- A full queue passes over entries that are not above any of its own. -/
private theorem foldlM_offer_of_le {minHeap rest : List (String × β)} (hn : 0 < n)
    (hfull : n ≤ minHeap.length) (hle : ∀ kv ∈ rest, ∀ entry ∈ minHeap, kv.2 ≤ entry.2) :
    rest.foldlM (TopN.offer queue n) minHeap = some minHeap := by
  induction rest with
  | nil => rfl
  | cons kv rest ih =>
    have hoffer : TopN.offer queue n minHeap kv = some minHeap := by
      unfold TopN.offer
      rw [if_neg (by omega)]
      cases minHeap with
      | nil =>
        rw [List.length_nil] at hfull
        omega
      | cons top tail =>
        have hkv : ¬kv.2 > top.2 := not_lt.mpr (hle kv List.mem_cons_self top List.mem_cons_self)
        simp only [if_neg hkv]
    rw [List.foldlM_cons, hoffer]
    exact ih fun entry hentry => hle entry (List.mem_cons_of_mem kv hentry)

/-- If the first `n` entries visited are not below any other, these are returned. -/
private theorem topN_append {first rest : List (String × β)} (hn : 0 < n)
    (hfirst : first.length = n)
    (hle : ∀ kv ∈ rest, ∀ entry ∈ first, kv.2 ≤ entry.2) :
    ∃ result, TopN.topN queue (first ++ rest) n = some result ∧ result.Perm first := by
  obtain ⟨minHeap, hscan, hlargest⟩ := @foldlM_offer β _ queue n hn first [] []
    queue.isHeap_nil (.nil _ n)
  rw [List.nil_append] at hlargest
  have hheap : minHeap.Perm first := hlargest.perm_of_length_le hfirst.le
  have hpass : rest.foldlM (TopN.offer queue n) minHeap = some minHeap := by
    apply foldlM_offer_of_le hn
    · rw [hheap.length_eq, hfirst]
    · exact fun kv hkv entry hentry => hle kv hkv entry (hheap.subset hentry)
  have hall : (first ++ rest).foldlM (TopN.offer queue n) [] = some minHeap := by
    rw [List.foldlM_append, hscan]
    exact hpass
  refine ⟨_, by rw [TopN.topN, hall]; rfl, ?_⟩
  exact ((List.mergeSort_perm _ _).trans (drain_perm minHeap)).trans hheap

/-- With a tie at the cut there are two orders of the visit with different results. -/
theorem exists_orders_of_tied (queue : CountQueue β) {entries : List (String × β)}
    (hnodup : entries.Nodup) (hcut : TiedAtCut (·.2) n entries) :
    ∃ visited visited', visited.Perm entries ∧ visited'.Perm entries ∧
      TopN.topN queue visited n ≠ TopN.topN queue visited' n := by
  obtain ⟨above, x, level, below, hperm, habove, hlevel, hge, hle⟩ := hcut.exists_split
  have hn : 0 < n := by omega
  obtain ⟨k, rfl⟩ : ∃ k, n = above.length + k := ⟨n - above.length, by omega⟩
  have hge' : ∀ {m : Nat}, ∀ a ∈ above ++ level.take m, x.2 ≤ a.2 := by
    intro m a ha
    refine hge a ?_
    cases List.mem_append.mp ha with
    | inl hmem => exact List.mem_append_left level hmem
    | inr hmem => exact List.mem_append_right above (List.mem_of_mem_take hmem)
  have hle' : ∀ {m : Nat}, ∀ b ∈ level.drop m ++ below, b.2 ≤ x.2 := by
    intro m b hb
    refine hle b ?_
    cases List.mem_append.mp hb with
    | inl hmem => exact List.mem_append_left below (List.mem_of_mem_drop hmem)
    | inr hmem => exact List.mem_append_right level hmem
  -- Once `x` is the first of its count to be visited, once the last.
  obtain ⟨result, hresult, hkept⟩ := @topN_append β _ queue _ (x :: (above ++ level.take (k - 1)))
    (level.drop (k - 1) ++ below) hn
    (by simp only [List.length_cons, List.length_append, List.length_take]; omega)
    (by
      intro kv hkv entry hentry
      cases List.mem_cons.mp hentry with
      | inl heq => rw [heq]; exact hle' kv hkv
      | inr hmem => exact (hle' kv hkv).trans (hge' entry hmem))
  obtain ⟨result', hresult', hkept'⟩ := @topN_append β _ queue _ (above ++ level.take k)
    (x :: (level.drop k ++ below)) hn
    (by simp only [List.length_append, List.length_take]; omega)
    (by
      intro kv hkv entry hentry
      cases List.mem_cons.mp hkv with
      | inl heq => rw [heq]; exact hge' entry hentry
      | inr hmem => exact (hle' kv hmem).trans (hge' entry hentry))
  have hvisited : ∀ m, (x :: (above ++ level.take m) ++ (level.drop m ++ below)).Perm entries := by
    intro m
    refine List.Perm.trans ?_ hperm
    rw [List.cons_append, List.append_assoc, ← List.append_assoc (level.take m),
      List.take_append_drop]
    exact List.perm_middle.symm
  have hvisited' : (above ++ level.take k ++ x :: (level.drop k ++ below)).Perm entries := by
    refine List.Perm.trans ?_ (hvisited k)
    exact List.perm_middle
  refine ⟨_, _, hvisited (k - 1), hvisited', fun heq => ?_⟩
  rw [hresult, hresult', Option.some.injEq] at heq
  -- `x` is in one result and not in the other.
  have hin : x ∈ result := hkept.symm.subset List.mem_cons_self
  rw [heq] at hin
  have hsplit := (hvisited k).nodup_iff.mpr hnodup
  rw [List.cons_append, List.nodup_cons] at hsplit
  exact hsplit.1 (List.mem_append_left _ (hkept'.subset hin))

end Orders

/-! ## The exact condition -/

/-- `TopN` returns one list, whichever order the map is visited in. -/
def SameForEveryOrder (queue : CountQueue Int) (counter : UnorderedMap String Int) (n : Nat) :
    Prop :=
  ∃ result, ∀ visited : List (String × Int), visited.Perm (entriesOfMap counter) →
    TopN.topN queue visited n = some result

/-- No entry is there twice. -/
private theorem nodup_entriesOfMap (counter : UnorderedMap String Int) :
    (entriesOfMap counter).Nodup := by
  have hkeys : ((entriesOfMap counter).map (·.1)).Nodup := by
    rw [entriesOfMap, List.map_map]
    exact counter.nodupKeys
  exact hkeys.of_map

/-- With a tie at the cut the order of the visit decides. -/
private theorem not_sameForEveryOrder_of_tied (queue : CountQueue Int)
    {counter : UnorderedMap String Int}
    {n : Nat} (hcut : TiedAtCut (·.2) n (entriesOfMap counter)) :
    ¬SameForEveryOrder queue counter n := by
  rintro ⟨result, hsame⟩
  obtain ⟨visited, visited', hperm, hperm', hne⟩ :=
    exists_orders_of_tied queue (nodup_entriesOfMap counter) hcut
  exact hne (by rw [hsame visited hperm, hsame visited' hperm'])

/-- The result depends on the order of the visit exactly where there is a tie at the cut. No
    list is returned when no entry is asked for and there is one. -/
theorem sameForEveryOrder_iff (queue : CountQueue Int) (counter : UnorderedMap String Int)
    (n : Nat) :
    SameForEveryOrder queue counter n ↔
      (n ≠ 0 ∨ counter.entries = []) ∧ ¬TiedAtCut (·.2) n (entriesOfMap counter) := by
  constructor
  · intro hsame
    refine ⟨?_, fun hcut => not_sameForEveryOrder_of_tied queue hcut hsame⟩
    -- With no room at all the top of an empty queue is looked at.
    by_contra hnot
    rw [not_or, not_not] at hnot
    obtain ⟨rfl, hcounter⟩ := hnot
    obtain ⟨result, hsame⟩ := hsame
    have hne : entriesOfMap counter ≠ [] := fun h => hcounter (List.map_eq_nil_iff.mp h)
    have hresult := hsame _ (.refl _)
    rw [topN_zero queue hne] at hresult
    exact nomatch hresult
  · rintro ⟨hn, hcut⟩
    obtain ⟨result, hresult⟩ :
        ∃ result, TopN.topN queue (entriesOfMap counter) n = some result := by
      by_cases hzero : n = 0
      · have hempty : entriesOfMap counter = [] :=
          List.map_eq_nil_iff.mpr (hn.resolve_left fun h => h hzero)
        rw [hempty]
        exact ⟨[], by simp [TopN.topN, TopN.drain]⟩
      · obtain ⟨result, hresult, -⟩ :=
          exists_topN queue (Nat.pos_of_ne_zero hzero) (entriesOfMap counter)
        exact ⟨result, hresult⟩
    refine ⟨result, fun visited hvisited => ?_⟩
    rw [← hresult]
    exact (topN_congr_of_not_tied hvisited.symm (nodup_entriesOfMap counter) hcut).symm

/-- Eleven files, each open once. -/
def elevenLinks : UnorderedMap String Int :=
  ⟨[⟨"/data/a", 1⟩, ⟨"/data/b", 1⟩, ⟨"/data/c", 1⟩, ⟨"/data/d", 1⟩, ⟨"/data/e", 1⟩,
    ⟨"/data/f", 1⟩, ⟨"/data/g", 1⟩, ⟨"/data/h", 1⟩, ⟨"/data/i", 1⟩, ⟨"/data/j", 1⟩,
    ⟨"/data/k", 1⟩], by decide⟩

/-- Which ten of them the report names depends on the order of the visit. -/
theorem not_sameForEveryOrder_elevenLinks :
    ¬SameForEveryOrder sortedQueue elevenLinks fdTopCnt :=
  not_sameForEveryOrder_of_tied sortedQueue ⟨1, by decide, by decide⟩

/-! ## The reports -/

/-- Two reports on the same links, with the same queue, name the same entries if there is no
    tie at the cut. -/
theorem topLeakedTypeList_congr (queue : CountQueue Nat) {env env' : FdEnv} {links : List FdLink}
    (henv : env.minHeap = minHeapOf queue) (henv' : env'.minHeap = minHeapOf queue)
    (hcut : ¬TiedAtCut (·.2) fdTopCnt
      (env.linkCountsOrder.visit (FdNums.counts env links).linkCounts)) :
    (FdNums.countFdNums env links).map (·.topLeakedTypeList) =
      (FdNums.countFdNums env' links).map (·.topLeakedTypeList) := by
  have htop : (FdNums.counts env links).topLinks = (FdNums.counts env' links).topLinks := by
    have hperm := (env.linkCountsOrder.visit_perm (FdNums.counts env links).linkCounts).trans
      (env'.linkCountsOrder.visit_perm (FdNums.counts env links).linkCounts).symm
    have hsame := @topN_congr_of_not_tied Nat _ queue fdTopCnt _ _ hperm
      (nodup_visit env.linkCountsOrder _).of_map hcut
    rw [topN_eq_fdCounter queue (by decide), topN_eq_fdCounter queue (by decide),
      Option.some.injEq] at hsame
    simp only [FdNums.counts, FdCounter.fdCounts, henv, henv']
    exact hsame
  unfold FdNums.countFdNums
  rw [htop]
  split
  · rfl
  · rfl

end HiDumper.Spec
