import Mathlib.Data.List.Basic
import Mathlib.Order.WellFounded

/-!
# Loops over sources, and loops with fuel

A `Source` delivers its items in portions: each read gives a result, some items and the
next state, and the result says whether there is more. `drain` is the do-while loop that
reads on as long as there is. Reading one portion at a time, with other work in between,
gets the same items: `Source.rec_reads` is the induction rule for that.

A loop whose number of rounds is not known is run with fuel. `Reaches` says that the
loop gets from one state to another whatever the fuel that is left, and `exists_end` is
the rule for a loop that comes to an end. A loop that never ends has a `Trace`, all of its
states one after the other: `diverges_iff_exists_trace`.
-/

/-- A state that is read in portions. Every read that announces more makes it smaller. -/
structure Source (σ τ ρ : Type) where
  read : σ → τ × List ρ × σ
  more : τ → Bool
  size : σ → Nat
  size_read_lt : ∀ s, more (read s).1 = true → size (read s).2.2 < size s

namespace Source

variable {σ τ ρ : Type} (src : Source σ τ ρ)

/-- Read until a result does not announce more: the last result, all items, and the
    state in the end. -/
def drain (s : σ) : τ × List ρ × σ :=
  if src.more (src.read s).1 = true then
    let rest := drain (src.read s).2.2
    (rest.1, (src.read s).2.1 ++ rest.2.1, rest.2.2)
  else src.read s
termination_by src.size s
decreasing_by exact src.size_read_lt s ‹_›

variable {src}

/-- While there is more, a drain is one read and a drain of the rest. -/
theorem drain_of_more {s : σ} (h : src.more (src.read s).1 = true) :
    src.drain s = ((src.drain (src.read s).2.2).1,
      (src.read s).2.1 ++ (src.drain (src.read s).2.2).2.1, (src.drain (src.read s).2.2).2.2) := by
  rw [drain, if_pos h]

/-- The drain ends with the read that finds no more. -/
theorem drain_of_last {s : σ} (h : src.more (src.read s).1 = false) : src.drain s = src.read s := by
  rw [drain, if_neg (by simp [h])]

/-- The last result does not announce more. -/
theorem more_drain (s : σ) : src.more (src.drain s).1 = false := by
  fun_induction drain src s with
  | case1 s hmore rest ih => exact ih
  | case2 s hlast => exact Bool.eq_false_iff.mpr hlast

/-- What holds of states that are read for the last time, and of all states whose next
    state has it, holds of every state. -/
theorem rec_reads (src : Source σ τ ρ) {P : σ → Prop}
    (last : ∀ s, src.more (src.read s).1 = false → P s)
    (more : ∀ s, src.more (src.read s).1 = true → P (src.read s).2.2 → P s) (s : σ) : P s := by
  fun_induction drain src s with
  | case1 s h rest ih => exact more s h ih
  | case2 s h => exact last s (Bool.eq_false_iff.mpr h)

end Source

namespace Loop

variable {σ : Type} (round : σ → Option σ)

/-- Run rounds until there is none to run; `none` if the fuel does not suffice. -/
def run : Nat → σ → Option σ
  | 0, _ => none
  | fuel + 1, s =>
    match round s with
    | none => some s
    | some s' => run fuel s'

/-- After some rounds from `s` the loop is in state `t`. -/
def Reaches (s t : σ) : Prop := ∃ rounds, ∀ fuel, run round (rounds + fuel) s = run round fuel t

variable {round}

theorem Reaches.refl (s : σ) : Reaches round s s := ⟨0, fun fuel => by rw [Nat.zero_add]⟩

/-- Rounds after rounds are rounds. -/
theorem Reaches.trans {s t u : σ} (h₁ : Reaches round s t) (h₂ : Reaches round t u) :
    Reaches round s u := by
  obtain ⟨m, hm⟩ := h₁
  obtain ⟨n, hn⟩ := h₂
  exact ⟨m + n, fun fuel => by rw [Nat.add_assoc, hm, hn]⟩

/-- One round reaches its result. -/
theorem Reaches.one {s t : σ} (h : round s = some t) : Reaches round s t := by
  refine ⟨1, fun fuel => ?_⟩
  rw [Nat.add_comm, run, h]

/-- A loop that reaches a state without a next round ends there, with any fuel from some
    amount on. -/
theorem Reaches.ends {s t : σ} (h : Reaches round s t) (hend : round t = none) :
    ∃ enough, ∀ fuel, enough ≤ fuel → run round fuel s = some t := by
  obtain ⟨rounds, hrounds⟩ := h
  refine ⟨rounds + 1, fun fuel hfuel => ?_⟩
  obtain ⟨rest, rfl⟩ := Nat.exists_eq_add_of_le hfuel
  rw [Nat.add_assoc, hrounds, Nat.add_comm, run, hend]

/-- A loop whose rounds make a measure smaller and keep an invariant ends in a state with
    the invariant. -/
theorem exists_end {Inv : σ → Prop} (size : σ → Nat)
    (hsize : ∀ s t, round s = some t → size t < size s)
    (hinv : ∀ s t, Inv s → round s = some t → Inv t) (s : σ) (hs : Inv s) :
    ∃ t, Inv t ∧ round t = none ∧ Reaches round s t := by
  induction hn : size s using Nat.strongRecOn generalizing s with
  | ind n ih =>
    cases hround : round s with
    | none => exact ⟨s, hs, hround, Reaches.refl s⟩
    | some next =>
      have hlt := hsize s next hround
      obtain ⟨t, ht, hend, hreach⟩ := ih (size next) (hn ▸ hlt) next (hinv s next hs hround) rfl
      exact ⟨t, ht, hend, (Reaches.one hround).trans hreach⟩

/-- What the rounds keep holds where the loop ends, and there is no next round there. -/
theorem of_run_eq_some {Inv : σ → Prop} (hinv : ∀ s t, Inv s → round s = some t → Inv t)
    {fuel : Nat} {s t : σ} (hs : Inv s) (hrun : run round fuel s = some t) :
    Inv t ∧ round t = none := by
  induction fuel generalizing s with
  | zero => exact absurd hrun (by simp [run])
  | succ fuel ih =>
    rw [run] at hrun
    cases hround : round s with
    | none =>
      rw [hround, Option.some.injEq] at hrun
      exact hrun ▸ ⟨hs, hround⟩
    | some next =>
      rw [hround] at hrun
      exact ih (hinv s next hs hround) hrun

/-! ## Loops that do not end -/

/-- No fuel suffices. -/
def Diverges (round : σ → Option σ) (s : σ) : Prop := ∀ fuel, run round fuel s = none

/-- All states of a loop that does not end. -/
structure Trace (round : σ → Option σ) (s : σ) where
  state : Nat → σ
  start : state 0 = s
  next : ∀ n, round (state n) = some (state (n + 1))

/-- A loop that runs forever has a next round, from which it runs forever. -/
theorem Diverges.exists_next {s : σ} (h : Diverges round s) :
    ∃ next, round s = some next ∧ Diverges round next := by
  cases hround : round s with
  | none =>
    have hrun := h 1
    simp [run, hround] at hrun
  | some next =>
    refine ⟨next, rfl, fun fuel => ?_⟩
    have hrun := h (fuel + 1)
    rwa [run, hround] at hrun

/-- A loop does not end if its rounds keep an invariant under which there is a next one. -/
theorem diverges_of_invariant (Inv : σ → Prop)
    (hinv : ∀ s, Inv s → ∃ t, round s = some t ∧ Inv t) {s : σ} (hs : Inv s) :
    Diverges round s := by
  intro fuel
  induction fuel generalizing s with
  | zero => rfl
  | succ fuel ih =>
    obtain ⟨next, hround, hnext⟩ := hinv s hs
    rw [run, hround]
    exact ih hnext

/-- A loop runs forever exactly when there is an infinite sequence of its rounds. -/
theorem diverges_iff_exists_trace {s : σ} : Diverges round s ↔ Nonempty (Trace round s) := by
  constructor
  · intro h
    -- Going on from a state, which stays where it is if there is no next round.
    have hall : ∀ n, Diverges round ((fun s => (round s).getD s)^[n] s) := by
      intro n
      induction n with
      | zero => exact h
      | succ n ih =>
        obtain ⟨next, hround, hnext⟩ := ih.exists_next
        rw [Function.iterate_succ_apply', hround]
        exact hnext
    refine ⟨⟨fun n => (fun s => (round s).getD s)^[n] s, rfl, fun n => ?_⟩⟩
    obtain ⟨next, hround, -⟩ := (hall n).exists_next
    rw [Function.iterate_succ_apply', hround, Option.getD_some]
  · intro ⟨trace⟩
    apply diverges_of_invariant fun t => ∃ n, t = trace.state n
    · intro t ⟨n, ht⟩
      exact ⟨trace.state (n + 1), ht ▸ trace.next n, n + 1, rfl⟩
    · exact ⟨0, trace.start.symm⟩

/-- Along a trace a measure that never grows is constant from some round on. -/
theorem Trace.exists_stable {s : σ} (trace : Trace round s) (size : σ → Nat)
    (hsize : ∀ s t, round s = some t → size t ≤ size s) :
    ∃ n, ∀ m, n ≤ m → size (trace.state m) = size (trace.state n) := by
  obtain ⟨n, hmin⟩ : ∃ n, ∀ m, size (trace.state n) ≤ size (trace.state m) :=
    ⟨_, fun m => Function.argmin_le (fun n => size (trace.state n)) m⟩
  refine ⟨n, fun m hm => ?_⟩
  have hle : size (trace.state m) ≤ size (trace.state n) := by
    induction m, hm using Nat.le_induction with
    | base => exact Nat.le_refl _
    | succ m _ ih => exact (hsize _ _ (trace.next m)).trans ih
  exact Nat.le_antisymm hle (hmin m)

end Loop
