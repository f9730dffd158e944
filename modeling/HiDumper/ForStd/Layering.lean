import Mathlib.Data.Fintype.Card
import Mathlib.Data.Set.Finite.List
import Mathlib.Order.WellFounded

/-!
# Layerings of a finite dependency relation

`dep x y` reads "`x` depends on `y`". A list of layers is `Layered` when every
layer holds new elements only and all dependencies of a layer lie in layers
strictly before it. This file proves the two facts a level-by-level scheduler
rests on: a relation without cycles has a ready element in every non-empty
finite list, and a relation that can be layered has no cycle.
-/

namespace Layering

open Relation

variable {α : Type*}

/-! ## Relations without cycles -/

/-- No element reaches itself by one or more steps of `r`. -/
def Acyclic (r : α → α → Prop) : Prop := ∀ x, ¬ TransGen r x x

/-- A relation inside an acyclic one is acyclic. -/
theorem Acyclic.mono {r s : α → α → Prop} (hs : Acyclic s) (h : ∀ x y, r x y → s x y) :
    Acyclic r := fun x hx => hs x (TransGen.mono h x x hx)

/-- In a non-empty list some element depends on nothing of the list. -/
theorem Acyclic.exists_ready {dep : α → α → Prop} (h : Acyclic dep) (l : List α)
    (hl : l ≠ []) : ∃ x ∈ l, ∀ y ∈ l, ¬ dep x y := by
  -- On the finite type of list elements the (reversed) closure is well founded.
  let below : {x // x ∈ l} → {x // x ∈ l} → Prop := fun y x => TransGen dep x.1 y.1
  have hfin : Finite {x // x ∈ l} := (List.finite_toSet l).to_subtype
  have htrans : IsTrans {x // x ∈ l} below := ⟨fun _ _ _ hab hbc => hbc.trans hab⟩
  have hirrefl : Std.Irrefl below := ⟨fun x hx => h x.1 hx⟩
  have hwf : WellFounded below := Finite.wellFounded_of_trans_of_irrefl below
  obtain ⟨a, ha⟩ := List.exists_mem_of_ne_nil l hl
  obtain ⟨m, -, hm⟩ := hwf.has_min Set.univ ⟨⟨a, ha⟩, trivial⟩
  exact ⟨m.1, m.2, fun y hy hdep => hm ⟨y, hy⟩ trivial (TransGen.single hdep)⟩

/-- A rank that drops along every dependency rules out cycles. -/
theorem acyclic_of_rank {dep : α → α → Prop} (rank : α → Nat)
    (h : ∀ x y, dep x y → rank y < rank x) : Acyclic dep := by
  have hlt : ∀ x y, TransGen dep x y → rank y < rank x := by
    intro x y hxy
    induction hxy with
    | single hxy => exact h _ _ hxy
    | tail _ hyz ih => exact (h _ _ hyz).trans ih
  exact fun x hx => (hlt x x hx).ne rfl

/-- Without cycles there is such a rank, bounded by the number of elements that
    depend on something. -/
theorem Acyclic.exists_rank {dep : α → α → Prop} (h : Acyclic dep) (l : List α)
    (hl : ∀ x y, dep x y → x ∈ l) :
    ∃ rank : α → Nat, (∀ x y, dep x y → rank y < rank x) ∧ ∀ x, rank x ≤ l.length := by
  classical
  -- The rank of `x` counts the elements of `l` that `x` reaches, `x` itself included.
  let reached : α → Finset α := fun x => l.toFinset.filter (ReflTransGen dep x ·)
  refine ⟨fun x => (reached x).card, ?_, fun x => ?_⟩
  · intro x y hxy
    have hsub : reached y ⊆ reached x := by
      intro z hz
      rw [Finset.mem_filter] at hz ⊢
      exact ⟨hz.1, hz.2.head hxy⟩
    have hx : x ∈ reached x := Finset.mem_filter.mpr ⟨List.mem_toFinset.mpr (hl x y hxy), .refl⟩
    have hy : x ∉ reached y := by
      intro hmem
      exact h x (TransGen.head'_iff.mpr ⟨y, hxy, (Finset.mem_filter.mp hmem).2⟩)
    exact Finset.card_lt_card ⟨hsub, fun hsup => hy (hsup hx)⟩
  · exact (Finset.card_filter_le _ _).trans (List.toFinset_card_le l)

/-- Consecutive elements of a list without repetitions have consecutive positions. -/
theorem idxOf_lt_of_pair [DecidableEq α] {l : List α} (hl : l.Nodup) {a b : α}
    (h : [a, b] <:+: l) : l.idxOf a < l.idxOf b := by
  obtain ⟨before, after, rfl⟩ := h
  simp only [List.append_assoc, List.cons_append, List.nil_append] at hl ⊢
  have hdisj := List.disjoint_of_nodup_append hl
  have ha : a ∉ before := fun hmem => hdisj hmem List.mem_cons_self
  have hb : b ∉ before := fun hmem => hdisj hmem (List.mem_cons_of_mem a List.mem_cons_self)
  have hab : a ≠ b := fun heq => (List.nodup_cons.mp hl.of_append_right).1 (heq ▸ List.mem_cons_self)
  rw [List.idxOf_append_of_notMem ha, List.idxOf_append_of_notMem hb, List.idxOf_cons_self,
    List.idxOf_cons_ne _ hab]
  omega

/-- Let every element of a list depend on the one before it as well. If no
    element of the list reaches another one, this closes no cycle among what the
    list reaches. -/
theorem Acyclic.sequence {dep : α → α → Prop} (h : Acyclic dep) {roots : List α}
    (hnodup : roots.Nodup) (hindep : ∀ a ∈ roots, ∀ b ∈ roots, ¬ TransGen dep a b) :
    Acyclic fun t d => (∃ root ∈ roots, ReflTransGen dep root t) ∧ (dep t d ∨ [d, t] <:+: roots) := by
  classical
  -- What lies strictly below a root is no root, so only dependencies lead on from it.
  have hstep : ∀ y z, (∃ a ∈ roots, TransGen dep a y) → dep y z ∨ [z, y] <:+: roots →
      dep y z ∧ ∃ a ∈ roots, TransGen dep a z := by
    intro y z hy hyz
    obtain ⟨a, ha, hay⟩ := hy
    rcases hyz with hyz | hyz
    · exact ⟨hyz, a, ha, hay.tail hyz⟩
    · exact absurd hay (hindep a ha y (hyz.subset (List.mem_cons_of_mem z List.mem_cons_self)))
  intro x hx
  obtain ⟨_, ⟨⟨root, hroot, hreach⟩, _⟩, _⟩ := TransGen.head'_iff.mp hx
  rcases reflTransGen_iff_eq_or_transGen.mp hreach with rfl | hbelow
  · -- From a root one gets to earlier roots and below roots only.
    have hroots : ∀ z, TransGen (fun t d => (∃ root ∈ roots, ReflTransGen dep root t) ∧
        (dep t d ∨ [d, t] <:+: roots)) x z →
        (∃ a ∈ roots, TransGen dep a z) ∨ (z ∈ roots ∧ roots.idxOf z < roots.idxOf x) := by
      intro z hz
      induction hz with
      | single hxz =>
        rcases hxz.2 with hdep | hpair
        · exact .inl ⟨x, hroot, TransGen.single hdep⟩
        · exact .inr ⟨hpair.subset List.mem_cons_self, idxOf_lt_of_pair hnodup hpair⟩
      | tail _ hyz ih =>
        rcases ih with hbelow | ⟨hy, hlt⟩
        · exact .inl (hstep _ _ hbelow hyz.2).2
        · rcases hyz.2 with hdep | hpair
          · exact .inl ⟨_, hy, TransGen.single hdep⟩
          · exact .inr ⟨hpair.subset List.mem_cons_self,
              (idxOf_lt_of_pair hnodup hpair).trans hlt⟩
    rcases hroots x hx with ⟨a, ha, hax⟩ | ⟨_, hlt⟩
    · exact hindep a ha x hroot hax
    · exact Nat.lt_irrefl _ hlt
  · have hdeps : ∀ z, TransGen (fun t d => (∃ root ∈ roots, ReflTransGen dep root t) ∧
        (dep t d ∨ [d, t] <:+: roots)) x z →
        TransGen dep x z ∧ ∃ a ∈ roots, TransGen dep a z := by
      intro z hz
      induction hz with
      | single hxz =>
        have hnext := hstep _ _ ⟨root, hroot, hbelow⟩ hxz.2
        exact ⟨TransGen.single hnext.1, hnext.2⟩
      | tail _ hyz ih =>
        have hnext := hstep _ _ ih.2 hyz.2
        exact ⟨ih.1.tail hnext.1, hnext.2⟩
    exact h x (hdeps x hx).1

/-! ## Layers -/

/-- The layers can be run one after the other once `done` has been run. -/
def Layered (dep : α → α → Prop) : List α → List (List α) → Prop
  | _, [] => True
  | done, l :: ls =>
    l.Nodup ∧ (∀ x ∈ l, x ∉ done ∧ ∀ y, dep x y → y ∈ done) ∧ Layered dep (l ++ done) ls

namespace Layered

variable {dep : α → α → Prop}

/-- Dropping dependencies keeps a layering. -/
theorem mono {dep' : α → α → Prop} {done : List α} {layers : List (List α)}
    (h : Layered dep done layers) (hdep : ∀ x y, dep' x y → dep x y) :
    Layered dep' done layers := by
  induction layers generalizing done with
  | nil => trivial
  | cons l ls ih =>
    obtain ⟨hnd, hready, hrest⟩ := h
    exact ⟨hnd, fun x hx => ⟨(hready x hx).1, fun y hy => (hready x hx).2 y (hdep x y hy)⟩,
      ih hrest⟩

/-- What is still to come in layers is not done. -/
theorem notMem_done {done : List α} {layers : List (List α)} (h : Layered dep done layers)
    {x : α} (hx : x ∈ layers.flatten) : x ∉ done := by
  induction layers generalizing done with
  | nil => simp at hx
  | cons l ls ih =>
    obtain ⟨_, hready, hrest⟩ := h
    rw [List.flatten_cons, List.mem_append] at hx
    rcases hx with hx | hx
    · exact (hready x hx).1
    · exact fun hd => ih hrest hx (List.mem_append_right _ hd)

/-- No element occurs twice, in one layer or across layers. -/
theorem nodup_flatten {done : List α} {layers : List (List α)} (h : Layered dep done layers) :
    layers.flatten.Nodup := by
  induction layers generalizing done with
  | nil => simp
  | cons l ls ih =>
    obtain ⟨hnd, _, hrest⟩ := h
    rw [List.flatten_cons, List.nodup_append]
    refine ⟨hnd, ih hrest, fun x hx y hy hxy => ?_⟩
    subst hxy
    exact hrest.notMem_done hy (List.mem_append_left _ hx)

/-- Every dependency of a layer has been run in a strictly earlier layer. -/
theorem dep_mem_take {done : List α} {layers : List (List α)} (h : Layered dep done layers)
    {i : Nat} {l : List α} (hi : layers[i]? = some l) {x y : α} (hx : x ∈ l)
    (hdep : dep x y) : y ∈ done ∨ y ∈ (layers.take i).flatten := by
  induction layers generalizing done i with
  | nil => simp at hi
  | cons l' ls ih =>
    obtain ⟨_, hready, hrest⟩ := h
    cases i with
    | zero =>
      simp only [List.getElem?_cons_zero, Option.some.injEq] at hi
      subst hi
      exact .inl ((hready x hx).2 y hdep)
    | succ i =>
      rw [List.getElem?_cons_succ] at hi
      have hy := ih hrest hi
      simp only [List.mem_append] at hy
      simp only [List.take_succ_cons, List.flatten_cons, List.mem_append]
      tauto

/-- A prefix of a layering is a layering. -/
theorem take {done : List α} {layers : List (List α)} (h : Layered dep done layers) (n : Nat) :
    Layered dep done (layers.take n) := by
  induction layers generalizing done n with
  | nil => simpa using h
  | cons l ls ih =>
    cases n with
    | zero => trivial
    | succ n => exact ⟨h.1, h.2.1, ih h.2.2 n⟩

/-- A relation whose elements are all layered has no cycle: the number of the
    layer an element lies in drops along every dependency. -/
theorem acyclic {layers : List (List α)} (h : Layered dep [] layers)
    (hall : ∀ x y, dep x y → x ∈ layers.flatten) : Acyclic dep := by
  classical
  apply acyclic_of_rank (fun x => layers.findIdx (fun l => decide (x ∈ l)))
  intro x y hdep
  obtain ⟨l, hl, hxl⟩ := List.mem_flatten.mp (hall x y hdep)
  -- The first layer of `x` exists, and `y` lies in one before it.
  have hlt : layers.findIdx (fun l => decide (x ∈ l)) < layers.length :=
    List.findIdx_lt_length_of_exists ⟨l, hl, by simpa using hxl⟩
  have hx : x ∈ layers[layers.findIdx (fun l => decide (x ∈ l))] := by
    simpa using List.findIdx_getElem (p := fun l => decide (x ∈ l)) (w := hlt)
  have hy := h.dep_mem_take (List.getElem?_eq_getElem hlt) hx hdep
  simp only [List.not_mem_nil, false_or, List.mem_flatten] at hy
  obtain ⟨l', hl', hyl'⟩ := hy
  obtain ⟨j, hj, hjl'⟩ := List.mem_take_iff_getElem.mp hl'
  have hjlt : j < layers.length := by omega
  have hle : layers.findIdx (fun l => decide (y ∈ l)) ≤ j := by
    by_contra hgt
    have hnot := List.not_of_lt_findIdx (Nat.lt_of_not_le hgt)
    rw [hjl'] at hnot
    simp [hyl'] at hnot
  omega

end Layered

/-- An element of one of the first `i` layers lies in some layer `j < i`. -/
theorem exists_lt_of_mem_flatten_take {layers : List (List α)} {i : Nat} {y : α}
    (h : y ∈ (layers.take i).flatten) : ∃ j, j < i ∧ ∃ l, layers[j]? = some l ∧ y ∈ l := by
  obtain ⟨l, hl, hyl⟩ := List.mem_flatten.mp h
  obtain ⟨j, hj, hjl⟩ := List.mem_take_iff_getElem.mp hl
  have hjlt : j < layers.length := by omega
  exact ⟨j, by omega, l, by rw [List.getElem?_eq_getElem hjlt, hjl], hyl⟩

end Layering
