import Mathlib.Data.List.AList

/-!
# Association lists as unordered maps

`std::unordered_map` is modelled by Mathlib's `AList` with a constant value
type: the keys are distinct and the order of `entries` is the iteration order.
This file adds the operations Mathlib does not have (`emplace`, `filterEntries`,
`mapVal`) together with the lookup lemma of each, so that later proofs never
look inside `entries`.
-/

/-- A map with an (arbitrary) iteration order: the order of `entries`. -/
abbrev UnorderedMap (α ν : Type*) := AList (fun _ : α => ν)

namespace AList

variable {α ν ν' : Type*}

/-! ## Filtering and mapping -/

/-- Keep the entries that satisfy `p`, in the same order. -/
def filterEntries (p : α → ν → Bool) (s : UnorderedMap α ν) : UnorderedMap α ν :=
  ⟨s.entries.filter (fun e => p e.1 e.2), s.nodupKeys.sublist List.filter_sublist⟩

/-- Apply `f` to every value, in the same order. -/
def mapVal (f : ν → ν') (s : UnorderedMap α ν) : UnorderedMap α ν' :=
  ⟨s.entries.map (fun e => ⟨e.1, f e.2⟩), by
    have hkeys : (s.entries.map (fun e => (⟨e.1, f e.2⟩ : Sigma fun _ : α => ν'))).keys
        = s.entries.keys := by
      simp [List.keys]
    rw [List.NodupKeys, hkeys]
    exact s.nodupKeys⟩

variable [DecidableEq α]

/-- Concrete maps are written as a list of entries with a decided side condition. -/
instance instDecidableNodupKeys (l : List (Sigma fun _ : α => ν)) : Decidable l.NodupKeys :=
  inferInstanceAs (Decidable l.keys.Nodup)

/-- Lookup and membership in `entries` say the same thing. -/
theorem lookup_eq_some_iff {a : α} {b : ν} {s : UnorderedMap α ν} :
    s.lookup a = some b ↔ (⟨a, b⟩ : Sigma fun _ : α => ν) ∈ s.entries :=
  mem_lookup_iff

/-- A filter keeps a value exactly if the value passes it under its key. -/
theorem lookup_filterEntries (p : α → ν → Bool) (s : UnorderedMap α ν) (a : α) :
    (s.filterEntries p).lookup a = (s.lookup a).filter (p a) := by
  ext b
  rw [lookup_eq_some_iff, Option.filter_eq_some_iff, lookup_eq_some_iff]
  simp [filterEntries]

/-- Mapping the values keeps the keys. -/
theorem lookup_mapVal (f : ν → ν') (s : UnorderedMap α ν) (a : α) :
    (s.mapVal f).lookup a = (s.lookup a).map f := by
  ext b
  rw [lookup_eq_some_iff, Option.map_eq_some_iff]
  simp only [mapVal, List.mem_map, lookup_eq_some_iff]
  constructor
  · rintro ⟨⟨a', b'⟩, hmem, heq⟩
    simp only [Sigma.mk.injEq, heq_eq_eq] at heq
    obtain ⟨rfl, rfl⟩ := heq
    exact ⟨b', hmem, rfl⟩
  · rintro ⟨b', hmem, rfl⟩
    exact ⟨⟨a, b'⟩, hmem, rfl⟩

/-! ## emplace -/

/-- `std::unordered_map::emplace`: insert only when the key is absent. -/
def emplace (a : α) (b : ν) (s : UnorderedMap α ν) : UnorderedMap α ν :=
  if a ∈ s then s else s.insert a b

/-- A key that is present keeps its value; only an absent key takes the new one. -/
theorem lookup_emplace (a : α) (b : ν) (s : UnorderedMap α ν) (k : α) :
    (s.emplace a b).lookup k = (s.lookup k).or (if k = a then some b else none) := by
  unfold emplace
  split
  · rename_i hmem
    by_cases hk : k = a
    · subst hk
      obtain ⟨v, hv⟩ := Option.isSome_iff_exists.mp (lookup_isSome.mpr hmem)
      simp [hv]
    · simp [hk]
  · rename_i hmem
    by_cases hk : k = a
    · subst hk
      simp [lookup_eq_none.mpr hmem]
    · simp [lookup_insert_ne hk, hk]

/-- An entry that is present survives any `emplace`. -/
theorem lookup_emplace_of_some {s : UnorderedMap α ν} {k : α} {v : ν}
    (h : s.lookup k = some v) (a : α) (b : ν) : (s.emplace a b).lookup k = some v := by
  rw [lookup_emplace, h, Option.some_or]

/-! ## Counting values -/

/-- A key with its value apart from the rest of the map. -/
theorem entries_perm_cons_erase {s : UnorderedMap α ν} {a : α} {v : ν}
    (h : s.lookup a = some v) : s.entries.Perm (⟨a, v⟩ :: (s.erase a).entries) := by
  have hmem : a ∈ s.entries.keys := mem_keys.mp (lookup_isSome.mp (by simp [h]))
  obtain ⟨b, before, after, hnot, hentries, herase⟩ := List.exists_of_kerase hmem
  have hentry : (⟨a, b⟩ : Sigma fun _ : α => ν) ∈ s.entries := by
    rw [hentries]
    exact List.mem_append_right _ List.mem_cons_self
  rw [lookup_eq_some_iff.mpr hentry, Option.some.injEq] at h
  subst h
  rw [show (s.erase a).entries = before ++ after from herase, hentries]
  exact List.perm_middle

/-- The number of entries whose value satisfies `p`. -/
def countVals (p : ν → Bool) (s : UnorderedMap α ν) : Nat := s.entries.countP fun e => p e.2

/-- A new key is counted when its value is. -/
theorem countVals_insert_of_notMem (p : ν → Bool) {s : UnorderedMap α ν} {a : α} (b : ν)
    (h : a ∉ s) : (s.insert a b).countVals p = s.countVals p + if p b then 1 else 0 := by
  unfold countVals
  rw [entries_insert_of_notMem h, List.countP_cons]

/-- Erasing an entry takes its value out of the count. -/
theorem countVals_erase (p : ν → Bool) {s : UnorderedMap α ν} {a : α} {v : ν}
    (h : s.lookup a = some v) :
    (s.erase a).countVals p + (if p v then 1 else 0) = s.countVals p := by
  unfold countVals
  rw [(entries_perm_cons_erase h).countP_eq, List.countP_cons]

/-- Replacing the value of a key. -/
theorem countVals_insert_of_lookup (p : ν → Bool) {s : UnorderedMap α ν} {a : α} {v : ν} (b : ν)
    (h : s.lookup a = some v) :
    (s.insert a b).countVals p + (if p v then 1 else 0) =
      s.countVals p + if p b then 1 else 0 := by
  rw [← countVals_erase p h]
  unfold countVals
  rw [show (s.insert a b).entries = ⟨a, b⟩ :: (s.erase a).entries from rfl, List.countP_cons]
  exact Nat.add_right_comm _ _ _

end AList
