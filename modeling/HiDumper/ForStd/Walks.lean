import HiDumper.ForStd.Layering

/-!
# Walks of a given length

A recursion whose calls follow a relation is as deep as the walks of the relation are
long. Where only finitely many elements are related to anything, the walks from an
element are bounded if and only if it leads to no cycle.
-/

namespace Layering

open Relation

variable {α : Type*} {r : α → α → Prop}

/-- `n` steps of `r` lead from one element to the other. -/
inductive Walk (r : α → α → Prop) : Nat → α → α → Prop
  | nil (x : α) : Walk r 0 x x
  | cons {n : Nat} {x y z : α} (hstep : r x y) (hrest : Walk r n y z) : Walk r (n + 1) x z

namespace Walk

/-- A longer walk is an edge and a walk from its end. -/
theorem succ_iff {n : Nat} {x z : α} : Walk r (n + 1) x z ↔ ∃ y, r x y ∧ Walk r n y z := by
  constructor
  · intro h
    cases h with
    | cons hstep hrest => exact ⟨_, hstep, hrest⟩
  · rintro ⟨y, hstep, hrest⟩
    exact cons hstep hrest

/-- A walk of one more step has a walk in it. -/
theorem exists_of_succ {n : Nat} {x z : α} (h : Walk r (n + 1) x z) : ∃ y, Walk r n x y := by
  induction n generalizing x with
  | zero => exact ⟨x, nil x⟩
  | succ n ih =>
    obtain ⟨y, hstep, hrest⟩ := succ_iff.mp h
    obtain ⟨w, hw⟩ := ih hrest
    exact ⟨w, cons hstep hw⟩

/-- A walk begins with walks of all smaller lengths. -/
theorem exists_of_le {m n : Nat} {x z : α} (h : Walk r n x z) (hle : m ≤ n) : ∃ y, Walk r m x y := by
  induction n generalizing z with
  | zero =>
    obtain rfl : m = 0 := by omega
    exact ⟨x, nil x⟩
  | succ n ih =>
    by_cases heq : m = n + 1
    · exact ⟨z, heq ▸ h⟩
    · obtain ⟨y, hy⟩ := h.exists_of_succ
      exact ih hy (by omega)

/-- A rank that falls along every edge bounds the length of the walks. -/
theorem rank_le {rank : α → Nat} (hrank : ∀ x y, r x y → rank y < rank x) {n : Nat} {x z : α}
    (h : Walk r n x z) : rank z + n ≤ rank x := by
  induction h with
  | nil x => omega
  | cons hstep _ ih =>
    have hlt := hrank _ _ hstep
    omega

end Walk

/-- An element that leads to a cycle. -/
def ReachesCycle (r : α → α → Prop) (x : α) : Prop :=
  ∃ y, ReflTransGen r x y ∧ TransGen r y y

/-- One can go on from such an element for ever. -/
theorem ReachesCycle.exists_step {x : α} (h : ReachesCycle r x) : ∃ y, r x y ∧ ReachesCycle r y := by
  obtain ⟨z, hreach, hcycle⟩ := h
  rcases ReflTransGen.cases_head hreach with rfl | ⟨y, hstep, hrest⟩
  · obtain ⟨y, hstep, hback⟩ := TransGen.head'_iff.mp hcycle
    exact ⟨y, hstep, x, hback, hcycle⟩
  · exact ⟨y, hstep, z, hrest, hcycle⟩

/-- From where a cycle is reached there are walks of every length. -/
theorem ReachesCycle.exists_walk {x : α} (h : ReachesCycle r x) (n : Nat) :
    ∃ y, Walk r n x y := by
  induction n generalizing x with
  | zero => exact ⟨x, .nil x⟩
  | succ n ih =>
    obtain ⟨y, hstep, hcycle⟩ := h.exists_step
    obtain ⟨z, hwalk⟩ := ih hcycle
    exact ⟨z, .cons hstep hwalk⟩

/-- Walks are bounded exactly where no cycle is reached. -/
theorem exists_no_walk_iff (l : List α) (hl : ∀ x y, r x y → x ∈ l) (x : α) :
    (∃ n, ¬∃ y, Walk r n x y) ↔ ¬ReachesCycle r x := by
  constructor
  · rintro ⟨n, hn⟩ hcycle
    exact hn (hcycle.exists_walk n)
  · intro hno
    -- The relation among what is reached has no cycle, so it has a rank.
    have hmono : ∀ a b, TransGen (fun a b => ReflTransGen r x a ∧ r a b) a b → TransGen r a b :=
      TransGen.mono fun _ _ h => h.2
    have hacyclic : Acyclic fun a b => ReflTransGen r x a ∧ r a b := by
      intro y hy
      obtain ⟨_, hfirst, -⟩ := TransGen.head'_iff.mp hy
      exact hno ⟨y, hfirst.1, hmono y y hy⟩
    obtain ⟨rank, hrank, -⟩ := hacyclic.exists_rank l fun a b h => hl a b h.2
    have hwalk : ∀ n a b, ReflTransGen r x a → Walk r n a b → n ≤ rank a := by
      intro n
      induction n with
      | zero => exact fun _ _ _ _ => Nat.zero_le _
      | succ n ih =>
        intro a b ha hab
        obtain ⟨c, hac, hcb⟩ := Walk.succ_iff.mp hab
        have hle := ih c b (ha.tail hac) hcb
        have hlt := hrank a c ⟨ha, hac⟩
        omega
    refine ⟨rank x + 1, fun ⟨y, hy⟩ => ?_⟩
    have hle := hwalk _ x y .refl hy
    omega

end Layering
