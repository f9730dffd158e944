import Mathlib.Logic.Basic

/-!
# Sequences of checks

A program that turns its input down at the first check that fails is an `Except`
computation. The lemmas say what an accepting run tells: every check on its way
passed.

A loop that may fail in every turn is described by a loop without checks, on states that
stand for those of the program, and a check for each turn (`foldlM_eq_ok_iff`).
-/

namespace Checks

variable {ε : Type*} {α β : Type}

/-- Fail with `e` if `p` holds. -/
def failIf (p : Bool) (e : ε) : Except ε Unit := if p then .error e else .ok ()

/-- Make a check if `p` holds. -/
def checkIf (p : Bool) (check : Except ε Unit) : Except ε Unit := if p then check else .ok ()

/-- Two computations succeed one after the other when both do. -/
@[simp] theorem bind_eq_ok {x : Except ε α} {f : α → Except ε β} {b : β} :
    (x >>= f) = .ok b ↔ ∃ a, x = .ok a ∧ f a = .ok b := by
  cases x with
  | error e => exact ⟨fun h => (nomatch h), fun ⟨_, h, _⟩ => (nomatch h)⟩
  | ok a => exact ⟨fun h => ⟨a, rfl, h⟩, fun ⟨_, ha, h⟩ => Except.ok.inj ha ▸ h⟩

/-- A check that fails on `p` passes when `p` does not hold. -/
@[simp] theorem failIf_eq_ok {p : Bool} {e : ε} {u : Unit} : failIf p e = .ok u ↔ p = false := by
  cases p
  · exact ⟨fun _ => rfl, fun _ => rfl⟩
  · exact ⟨fun h => (nomatch h), fun h => (nomatch h)⟩

/-- A check that is made only on `p` passes when `p` does not hold, too. -/
@[simp] theorem checkIf_eq_ok {p : Bool} {check : Except ε Unit} {u : Unit} :
    checkIf p check = .ok u ↔ (p = true → check = .ok ()) := by
  cases p
  · exact ⟨fun _ hp => (nomatch hp), fun _ => rfl⟩
  · exact ⟨fun h _ => h, fun h => h rfl⟩

/-! ## Loops -/

section Loops

variable {σ τ ι : Type} (next : τ → ι → τ)

/-- Every turn passes its check, `next` being the state after a turn. -/
def allTurns (check : τ → ι → Bool) : τ → List ι → Bool
  | _, [] => true
  | t, a :: as => check t a && allTurns check (next t a) as

/-- Two checks made at every turn pass together when each passes at all turns. -/
theorem allTurns_and (check check' : τ → ι → Bool) (t : τ) (as : List ι) :
    allTurns next (fun t a => check t a && check' t a) t as =
      (allTurns next check t as && allTurns next check' t as) := by
  induction as generalizing t with
  | nil => rfl
  | cons a as ih =>
    simp only [allTurns, ih]
    ac_rfl

/-- If a turn from the state that `t` stands for is the turn of `next` with a check, then
    so is the loop. -/
theorem foldlM_eq_ok_iff {step : σ → ι → Except ε σ} {repr : τ → σ} {check : τ → ι → Bool}
    {as : List ι}
    (hstep : ∀ t, ∀ a ∈ as, ∀ s, step (repr t) a = .ok s ↔ check t a = true ∧ s = repr (next t a))
    (t : τ) (s : σ) :
    as.foldlM step (repr t) = .ok s ↔
      allTurns next check t as = true ∧ s = repr (as.foldl next t) := by
  induction as generalizing t with
  | nil =>
    constructor
    · intro h
      exact ⟨rfl, (Except.ok.inj h).symm⟩
    · rintro ⟨-, rfl⟩
      rfl
  -- A turn succeeds into a represented state, so the next turn starts in one.
  | cons a as ih =>
    have ih := ih fun t a ha => hstep t a (List.mem_cons_of_mem _ ha)
    simp only [List.foldlM_cons, bind_eq_ok, allTurns, Bool.and_eq_true, List.foldl_cons,
      hstep t a List.mem_cons_self]
    constructor
    · rintro ⟨_, ⟨hcheck, rfl⟩, hrest⟩
      obtain ⟨hchecks, hs⟩ := (ih (next t a)).mp hrest
      exact ⟨⟨hcheck, hchecks⟩, hs⟩
    · rintro ⟨⟨hcheck, hchecks⟩, hs⟩
      exact ⟨_, ⟨hcheck, rfl⟩, (ih (next t a)).mpr ⟨hchecks, hs⟩⟩

end Loops

end Checks
