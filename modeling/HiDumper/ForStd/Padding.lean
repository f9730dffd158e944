import Mathlib.Data.List.Basic
import Mathlib.Algebra.GroupWithZero.Nat

/-!
# Texts that differ in their padding

Two writers put out the same pieces of text and end each with some repetitions of one
element, not always as many. The results may still be equal: what one writer has put out
too much of can be made up for later, as long as only padding stands in between.

## Key results

- `padded_eq_padded_iff`: two paddings of the same pieces give the same text
-/

namespace List

variable {ρ α : Type*} (pad : α) (text : ρ → List α)

/-- The pieces one after the other, each followed by its number of pad elements. -/
def padded (ends : ρ → Nat) (rows : List ρ) : List α :=
  rows.flatMap fun row => text row ++ replicate (ends row) pad

variable {pad text} {endsA endsB : ρ → Nat} {rows : List ρ}

@[simp] theorem padded_nil : padded pad text endsA [] = [] := rfl

@[simp] theorem padded_cons (row : ρ) :
    padded pad text endsA (row :: rows) =
      text row ++ (replicate (endsA row) pad ++ padded pad text endsA rows) := by
  simp [padded]

/-- More padding in front shifts a text that is not all padding. -/
theorem replicate_append_ne {k m n : Nat} {x : α} {rest restA restB : List α} (hx : x ≠ pad)
    (h : m < n) :
    replicate m pad ++ (replicate k pad ++ x :: rest ++ restA) ≠
      replicate n pad ++ (replicate k pad ++ x :: rest ++ restB) := by
  intro heq
  have hat := congrArg (fun l => l[m + k]?) heq
  have hleft : (replicate m pad ++ (replicate k pad ++ x :: rest ++ restA))[m + k]? =
      some x := by
    rw [getElem?_append_right (by simp), append_assoc,
      getElem?_append_right (by simp)]
    simp
  have hright : (replicate n pad ++ (replicate k pad ++ x :: rest ++ restB))[m + k]? =
      some pad := by
    rw [append_assoc, ← append_assoc, ← replicate_add,
      getElem?_append_left (by simp; omega), getElem?_replicate, if_pos (by omega)]
  rw [hleft, hright, Option.some.injEq] at hat
  exact hx hat

/-- A list that is not all padding has a first element that is not. -/
theorem exists_replicate_append {l : List α} (h : ¬∀ x ∈ l, x = pad) :
    ∃ k x rest, l = replicate k pad ++ x :: rest ∧ x ≠ pad := by
  induction l with
  | nil => exact absurd (by simp) h
  | cons y l ih =>
    by_cases hy : y = pad
    · subst hy
      obtain ⟨k, x, rest, rfl, hx⟩ := ih fun hall => h fun x hx => by
        rcases mem_cons.mp hx with rfl | hx
        · rfl
        · exact hall x hx
      exact ⟨k + 1, x, rest, rfl, hx⟩
    · exact ⟨0, y, l, rfl, hy⟩

/-- Taking the padding off a text that does not begin with it. -/
theorem dropWhile_replicate_append [DecidableEq α] (n : Nat) {l : List α}
    (h : l.head? ≠ some pad) : (replicate n pad ++ l).dropWhile (· = pad) = l := by
  have hpads : ∀ x ∈ replicate n pad, decide (x = pad) = true :=
    fun x hx => by simpa using eq_of_mem_replicate hx
  rw [dropWhile_append_of_pos hpads]
  cases l with
  | nil => rfl
  | cons x l =>
    have hx : x ≠ pad := by simpa using h
    rw [dropWhile_cons_of_neg (by simpa using hx)]

/-- The condition at every row of a list, for its first row and the others. -/
theorem forall_split_cons (row : ρ) {P : List ρ → ρ → Prop} :
    (∀ pre r post, row :: rows = pre ++ r :: post → P pre r) ↔
      P [] row ∧ ∀ pre r post, rows = pre ++ r :: post → P (row :: pre) r := by
  constructor
  · intro h
    refine ⟨h [] row rows rfl, fun pre r post heq => ?_⟩
    apply h (row :: pre) r post
    rw [heq, cons_append]
  · rintro ⟨hfirst, hrest⟩ pre r post heq
    cases pre with
    | nil =>
      rw [nil_append, cons.injEq] at heq
      exact heq.1 ▸ hfirst
    | cons q pre =>
      rw [cons_append, cons.injEq] at heq
      exact heq.1 ▸ hrest pre r post heq.2

/-- Two paddings after different leads: the texts are equal if both have as much padding
    in all, and as much before every row that is not all padding. -/
theorem lead_padded_eq_iff (m n : Nat) :
    replicate m pad ++ padded pad text endsA rows =
        replicate n pad ++ padded pad text endsB rows ↔
      m + (rows.map endsA).sum = n + (rows.map endsB).sum ∧
      ∀ pre row post, rows = pre ++ row :: post →
        m + (pre.map endsA).sum = n + (pre.map endsB).sum ∨ ∀ x ∈ text row, x = pad := by
  induction rows generalizing m n with
  | nil => simp
  | cons row rows ih =>
    rw [forall_split_cons]
    simp only [padded_cons, map_cons, sum_cons, map_nil, sum_nil, Nat.add_zero]
    by_cases hall : ∀ x ∈ text row, x = pad
    · -- The row is padding: it makes both leads longer.
      have htext : text row = replicate (text row).length pad :=
        eq_replicate_of_mem hall
      have hlead : ∀ (k a : Nat) (tail : List α),
          replicate k pad ++ (text row ++ (replicate a pad ++ tail)) =
            replicate (k + (text row).length + a) pad ++ tail := by
        intro k a tail
        rw [replicate_add, replicate_add, ← htext]
        simp only [append_assoc]
      rw [hlead, hlead, ih]
      constructor
      · rintro ⟨hsum, hrows⟩
        refine ⟨by omega, Or.inr hall, fun pre r post heq => ?_⟩
        rcases hrows pre r post heq with heven | hr
        · exact Or.inl (by omega)
        · exact Or.inr hr
      · rintro ⟨hsum, -, hrows⟩
        refine ⟨by omega, fun pre r post heq => ?_⟩
        rcases hrows pre r post heq with heven | hr
        · exact Or.inl (by omega)
        · exact Or.inr hr
    · by_cases hmn : m = n
      · subst hmn
        rw [append_cancel_left_eq, append_cancel_left_eq, ih]
        simp only [Nat.add_left_cancel_iff, true_or, true_and]
      · -- One lead is longer, and the row shows it.
        obtain ⟨k, x, rest, htext, hx⟩ := exists_replicate_append hall
        constructor
        · intro heq
          rw [htext] at heq
          rcases Nat.lt_or_gt_of_ne hmn with hlt | hlt
          · exact absurd heq (replicate_append_ne hx hlt)
          · exact absurd heq.symm (replicate_append_ne hx hlt)
        · rintro ⟨-, hfirst | hfirst, -⟩
          · exact absurd hfirst hmn
          · exact absurd hfirst hall

/-- Two paddings of the same rows give the same text if and only if they have as much
    padding in all, and as much before every row that is not all padding. -/
theorem padded_eq_padded_iff :
    padded pad text endsA rows = padded pad text endsB rows ↔
      (rows.map endsA).sum = (rows.map endsB).sum ∧
      ∀ pre row post, rows = pre ++ row :: post →
        (pre.map endsA).sum = (pre.map endsB).sum ∨ ∀ x ∈ text row, x = pad := by
  have h := @lead_padded_eq_iff _ _ pad text endsA endsB rows 0 0
  simpa using h

end List
