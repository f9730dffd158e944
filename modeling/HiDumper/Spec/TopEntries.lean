import Mathlib.Data.Int.Order.Basic
import Mathlib.Data.List.Sort
import HiDumper.ForStd.Largest
import HiDumper.ForStd.UnorderedMap
import HiDumper.Native.TopN

/-!
# What TopN returns

For `n` from 1 on, `TopN` returns `n` entries of the counter with the largest counts, or
all of them, by count and then by name, whichever order the counter is visited in and
whichever of several smallest entries the queue has on top. For `n = 0` it asks an empty
queue for its top, unless there is nothing to visit.

Key results:
* `foldlM_offer`: the queue holds the largest entries seen so far
* `topN_isTop_iff`: the entries returned
-/

namespace HiDumper.Spec

open HiDumper.Native

section Scan

variable {β : Type} [LinearOrder β] {queue : CountQueue β} {n : Nat}

/-- One turn, with room for at least one entry, keeps the largest entries in the queue. -/
private theorem offer_isLargest (hn : 0 < n) {seen minHeap : List (String × β)} (kv : String × β)
    (hheap : queue.IsHeap minHeap) (hlargest : IsLargest (·.2) n seen minHeap) :
    ∃ minHeap', TopN.offer queue n minHeap kv = some minHeap' ∧ queue.IsHeap minHeap' ∧
      IsLargest (·.2) n (seen ++ [kv]) minHeap' := by
  unfold TopN.offer
  by_cases hroom : minHeap.length < n
  · rw [if_pos hroom]
    refine ⟨_, rfl, queue.isHeap_push _ _ hheap, ?_⟩
    exact (hlargest.push hroom).congr (queue.push_perm minHeap kv)
  · rw [if_neg hroom]
    cases minHeap with
    | nil => simp at hroom; omega
    | cons top rest =>
      have hfull : n ≤ rest.length + 1 := by simpa using hroom
      have hleast := queue.top_le top rest hheap
      by_cases hlt : kv.2 > top.2
      · -- The top goes out.
        have hperm : (queue.push (queue.pop (top :: rest)) kv).Perm (kv :: rest) :=
          (queue.push_perm _ kv).trans ((queue.pop_perm (top :: rest)).cons kv)
        refine ⟨_, rfl, ?_, ?_⟩
        · rw [if_pos hlt]
          exact queue.isHeap_push _ _ (queue.isHeap_pop _ hheap)
        · rw [if_pos hlt]
          exact (hlargest.replace hfull hleast hlt).congr hperm
      · refine ⟨_, rfl, ?_, ?_⟩
        · rwa [if_neg hlt]
        · rw [if_neg hlt]
          exact hlargest.skip hfull hleast (not_lt.mp hlt)

/-- The scan of the counter keeps the largest entries seen so far in the queue. -/
theorem foldlM_offer (hn : 0 < n) (counter : List (String × β)) {seen minHeap : List (String × β)}
    (hheap : queue.IsHeap minHeap) (hlargest : IsLargest (·.2) n seen minHeap) :
    ∃ minHeap', counter.foldlM (TopN.offer queue n) minHeap = some minHeap' ∧
      IsLargest (·.2) n (seen ++ counter) minHeap' := by
  induction counter generalizing seen minHeap with
  | nil => exact ⟨minHeap, rfl, by rwa [List.append_nil]⟩
  | cons kv counter ih =>
    obtain ⟨next, hoffer, hheap', hlargest'⟩ := offer_isLargest hn kv hheap hlargest
    obtain ⟨minHeap', hrest, hresult⟩ := ih hheap' hlargest'
    refine ⟨minHeap', ?_, by simpa using hresult⟩
    rw [List.foldlM_cons, hoffer]
    exact hrest

/-- Emptying the queue gives what was in it. -/
theorem drain_perm (minHeap : List (String × β)) :
    (TopN.drain queue minHeap.length minHeap).Perm minHeap := by
  generalize hrounds : minHeap.length = rounds
  induction rounds generalizing minHeap with
  | zero =>
    rw [List.eq_nil_of_length_eq_zero hrounds]
    exact .refl _
  | succ rounds ih =>
    cases minHeap with
    | nil => simp at hrounds
    | cons top rest =>
      have hpop := queue.pop_perm (top :: rest)
      have hlength : (queue.pop (top :: rest)).length = rounds := by
        rw [hpop.length_eq]
        simpa using hrounds
      exact ((ih _ hlength).trans hpop).cons top

/-! ## The order of the result -/

/-- By count from the largest on, and by name among equal counts. -/
private theorem ranksBefore_iff {a b : String × β} :
    TopN.ranksBefore a b = true ↔ b.2 < a.2 ∨ (a.2 = b.2 ∧ a.1 < b.1) := by
  simp [TopN.ranksBefore, or_comm]

private theorem not_ranksBefore_iff {a b : String × β} :
    (!TopN.ranksBefore b a) = true ↔ b.2 < a.2 ∨ (a.2 = b.2 ∧ a.1 ≤ b.1) := by
  rw [Bool.not_eq_true', ← Bool.not_eq_true, ranksBefore_iff, not_or, not_lt, not_and, String.not_lt]
  constructor
  · rintro ⟨hle, hname⟩
    obtain hlt | heq := lt_or_eq_of_le hle
    · exact .inl hlt
    · exact .inr ⟨heq.symm, hname heq⟩
  · rintro (hlt | ⟨heq, hname⟩)
    · exact ⟨hlt.le, fun heq => absurd heq hlt.ne⟩
    · exact ⟨heq.ge, fun _ => hname⟩

/-- `std::sort` puts the entries in order. -/
private theorem pairwise_sorted (entries : List (String × β)) :
    (entries.mergeSort fun a b => !TopN.ranksBefore b a).Pairwise fun a b =>
      b.2 < a.2 ∨ (a.2 = b.2 ∧ a.1 ≤ b.1) := by
  have hsorted :=
    @List.pairwise_mergeSort (String × β) (fun a b => !TopN.ranksBefore b a) ?_ ?_ entries
  · exact hsorted.imp not_ranksBefore_iff.mp
  -- The order is transitive and total, as `mergeSort` needs: by count, then by name.
  · intro a b c hab hbc
    rw [not_ranksBefore_iff] at hab hbc ⊢
    obtain hab | ⟨hab, hab'⟩ := hab
    · obtain hbc | ⟨hbc, -⟩ := hbc
      · exact .inl (hbc.trans hab)
      · exact .inl (hbc ▸ hab)
    · obtain hbc | ⟨hbc, hbc'⟩ := hbc
      · exact .inl (hab ▸ hbc)
      · exact .inr ⟨hab.trans hbc, String.le_trans hab' hbc'⟩
  · intro a b
    rw [Bool.or_eq_true, not_ranksBefore_iff, not_ranksBefore_iff]
    obtain hlt | heq | hlt := lt_trichotomy a.2 b.2
    · exact .inr (.inl hlt)
    · exact (String.le_total a.1 b.1).imp (fun h => .inr ⟨heq, h⟩) fun h => .inr ⟨heq.symm, h⟩
    · exact .inl (.inl hlt)

/-- Asked for at least one entry, `TopN` returns the largest ones in order. -/
theorem exists_topN (queue : CountQueue β) (hn : 0 < n) (visited : List (String × β)) :
    ∃ result, TopN.topN queue visited n = some result ∧ IsLargest (·.2) n visited result ∧
      result.Pairwise fun a b => b.2 < a.2 ∨ (a.2 = b.2 ∧ a.1 ≤ b.1) := by
  obtain ⟨minHeap, hscan, hlargest⟩ := @foldlM_offer β _ queue n hn visited [] []
    queue.isHeap_nil (.nil _ n)
  have hperm := (List.mergeSort_perm (TopN.drain queue minHeap.length minHeap)
    fun a b => !TopN.ranksBefore b a).trans (drain_perm minHeap)
  refine ⟨_, by rw [TopN.topN, hscan]; rfl, ?_, pairwise_sorted _⟩
  exact hlargest.congr hperm

end Scan

/-! ## The entries returned -/

/-- The entries of a map, in the order of `entries`. -/
def entriesOfMap (counter : UnorderedMap String Int) : List (String × Int) :=
  counter.entries.map fun e => (e.1, e.2)

/-- The entries of a map are what is found in it. -/
private theorem mem_entriesOfMap {counter : UnorderedMap String Int} {entry : String × Int} :
    entry ∈ entriesOfMap counter ↔ counter.lookup entry.1 = some entry.2 := by
  rw [AList.lookup_eq_some_iff, entriesOfMap, List.mem_map]
  constructor
  · rintro ⟨e, hmem, rfl⟩
    exact hmem
  · exact fun hmem => ⟨⟨entry.1, entry.2⟩, hmem, rfl⟩

/-- What `TopN` is meant to return. -/
structure IsTop (counter : UnorderedMap String Int) (n : Nat) (result : List (String × Int)) :
    Prop where
  length : result.length = min n counter.entries.length
  distinct : result.Nodup
  entry : ∀ entry ∈ result, counter.lookup entry.1 = some entry.2
  /-- By count from the largest on, by name among equal counts. -/
  sorted : result.Pairwise fun a b => b.2 < a.2 ∨ (a.2 = b.2 ∧ a.1 < b.1)
  /-- No entry that is left out has a larger count than one that is returned. -/
  largest : ∀ name count, counter.lookup name = some count → (name, count) ∉ result →
    ∀ entry ∈ result, count ≤ entry.2

/-- The largest entries of a counter, sorted. -/
private theorem isTop_of_isLargest {counter : UnorderedMap String Int}
    {visited result : List (String × Int)}
    {n : Nat} (hvisited : visited.Perm (entriesOfMap counter))
    (hlargest : IsLargest (·.2) n visited result)
    (hsorted : result.Pairwise fun a b => b.2 < a.2 ∨ (a.2 = b.2 ∧ a.1 ≤ b.1)) :
    IsTop counter n result := by
  obtain ⟨left, hsplit, hle⟩ := hlargest.split
  have hall : (result ++ left).Perm (entriesOfMap counter) := hsplit.trans hvisited
  -- A counter has every name once, so a part of it has too.
  have hnames : (result.map (·.1)).Nodup := by
    have hkeys : ((entriesOfMap counter).map (·.1)).Nodup := by
      rw [entriesOfMap, List.map_map]
      exact counter.nodupKeys
    rw [← (hall.map (·.1)).nodup_iff, List.map_append] at hkeys
    exact hkeys.of_append_left
  constructor
  case length =>
    rw [hlargest.length, hvisited.length_eq, entriesOfMap, List.length_map]
  case distinct => exact hnames.of_map
  case entry =>
    intro entry hentry
    exact mem_entriesOfMap.mp (hall.subset (List.mem_append_left left hentry))
  case sorted =>
    have hne := List.pairwise_map.mp hnames
    refine hsorted.imp₂ ?_ hne
    intro a b hab hname
    obtain hlt | ⟨heq, hle⟩ := hab
    · exact .inl hlt
    · exact .inr ⟨heq, String.not_le.mp fun hge => hname (String.le_antisymm hle hge)⟩
  case largest =>
    intro name count hlookup hout entry hentry
    have hmem : (name, count) ∈ result ++ left := hall.symm.subset (mem_entriesOfMap.mpr hlookup)
    exact hle _ ((List.mem_append.mp hmem).resolve_left hout) entry hentry

/-- Asked for no entry, `TopN` looks at the top of an empty queue. -/
theorem topN_zero {β : Type} [LinearOrder β] (queue : CountQueue β) {visited : List (String × β)}
    (h : visited ≠ []) :
    TopN.topN queue visited 0 = none := by
  cases visited with
  | nil => exact absurd rfl h
  | cons kv visited => rfl

/-- `TopN` returns the top entries, for every order of the visit and every queue, exactly
    when it is asked for at least one entry or there is none. -/
theorem topN_isTop_iff (queue : CountQueue Int) (counter : UnorderedMap String Int)
    (visited : List (String × Int)) (hvisited : visited.Perm (entriesOfMap counter)) (n : Nat) :
    (∃ result, TopN.topN queue visited n = some result ∧ IsTop counter n result) ↔
      n ≠ 0 ∨ counter.entries = [] := by
  constructor
  · rintro ⟨result, hresult, -⟩
    by_contra hnot
    rw [not_or, not_not] at hnot
    obtain ⟨rfl, hcounter⟩ := hnot
    have hne : visited ≠ [] := by
      intro hnil
      rw [hnil] at hvisited
      have hentries := List.nil_perm.mp hvisited
      exact hcounter (List.map_eq_nil_iff.mp hentries)
    rw [topN_zero queue hne] at hresult
    exact nomatch hresult
  · intro h
    by_cases hn : n = 0
    · -- Nothing is visited.
      have hempty : entriesOfMap counter = [] :=
        List.map_eq_nil_iff.mpr (h.resolve_left fun h => h hn)
      rw [hempty, List.perm_nil] at hvisited
      subst hvisited
      have hresult : TopN.topN queue [] n = some [] := by
        simp [TopN.topN, TopN.drain]
      exact ⟨[], hresult, isTop_of_isLargest (by rw [hempty]) (.nil _ n) .nil⟩
    · obtain ⟨result, hresult, hlargest, hsorted⟩ :=
        exists_topN queue (Nat.pos_of_ne_zero hn) visited
      exact ⟨result, hresult, isTop_of_isLargest hvisited hlargest hsorted⟩

/-- A queue that keeps its entries sorted. -/
def sortedQueue : CountQueue Int where
  push minHeap entry := minHeap.orderedInsert (fun a b => a.2 ≤ b.2) entry
  pop minHeap := minHeap.tail
  IsHeap minHeap := minHeap.Pairwise fun a b => a.2 ≤ b.2
  isHeap_nil := .nil
  isHeap_push minHeap entry h := h.orderedInsert entry minHeap
  isHeap_pop _ h := h.tail
  push_perm minHeap entry := List.perm_orderedInsert _ entry minHeap
  pop_perm _ := .refl _
  top_le _ _ h := (List.pairwise_cons.mp h).1

/-- Three entries, two of them with equal counts. -/
def threeLinks : UnorderedMap String Int :=
  ⟨[⟨"pipe", 3⟩, ⟨"socket", 1⟩, ⟨"ashmem", 3⟩], by decide⟩

/-- Two of three entries, with a tie. -/
theorem topN_isTop_two :
    ∃ result, TopN.topN sortedQueue [("socket", 1), ("pipe", 3), ("ashmem", 3)] 2 = some result ∧
      IsTop threeLinks 2 result :=
  (topN_isTop_iff sortedQueue threeLinks [("socket", 1), ("pipe", 3), ("ashmem", 3)] (by decide)
    2).mpr (.inl (by decide))

/-- Asked for no entry of three, `TopN` reads the top of an empty queue. -/
theorem not_isTop_zero :
    ¬∃ result, TopN.topN sortedQueue [("socket", 1), ("pipe", 3), ("ashmem", 3)] 0 = some result ∧
      IsTop threeLinks 0 result := by
  rintro ⟨result, hresult, -⟩
  rw [topN_zero sortedQueue (by decide)] at hresult
  exact nomatch hresult

/-! ## The calls of the two classes -/

/-- The queue, as `FdLinks` has it. -/
def minHeapOf (queue : CountQueue Nat) : MinHeap :=
  ⟨queue.push, queue.pop, queue.push_perm, queue.pop_perm⟩

/-- Where at least one entry is asked for, as in both classes, this is the function that
    `FdLinks` has. -/
theorem topN_eq_fdCounter (queue : CountQueue Nat) {n : Nat} (hn : 0 < n) (counter : List FdEntry) :
    TopN.topN queue counter n = some (FdCounter.topN (minHeapOf queue) counter n) := by
  -- A queue that has room takes the entry in both; the top is only looked at behind that.
  have hoffer : ∀ minHeap kv, TopN.offer queue n minHeap kv =
      some (FdCounter.offer (minHeapOf queue) n minHeap kv) := by
    intro minHeap kv
    unfold TopN.offer FdCounter.offer
    cases minHeap with
    | nil => rw [if_pos (by simpa using hn), if_pos (by simpa using hn)]; rfl
    | cons top rest =>
      split
      · rfl
      · rfl
  have hscan : ∀ minHeap, counter.foldlM (TopN.offer queue n) minHeap =
      some (counter.foldl (FdCounter.offer (minHeapOf queue) n) minHeap) := by
    induction counter with
    | nil => exact fun _ => rfl
    | cons kv counter ih =>
      intro minHeap
      rw [List.foldlM_cons, hoffer]
      exact ih _
  have hdrain : ∀ rounds minHeap, TopN.drain queue rounds minHeap =
      FdCounter.drain (minHeapOf queue) rounds minHeap := by
    intro rounds
    induction rounds with
    | zero => exact fun _ => rfl
    | succ rounds ih =>
      intro minHeap
      cases minHeap with
      | nil => rfl
      | cons top rest => exact congrArg (top :: ·) (ih _)
  rw [TopN.topN, hscan]
  simp only [Option.bind_eq_bind, Option.bind_some, hdrain]
  rfl

end HiDumper.Spec
