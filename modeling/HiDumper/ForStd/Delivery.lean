import Mathlib.Data.List.Basic

/-!
# Calls over an unreliable connection

A server answers calls and keeps a state. A client reaches it through operations that may
fail before the server has seen the call, or after it. `Delivered` says what a session of
such operations may look like: every call is served at most once, in the order of the
session, and the client knows of a served call what the operation tells it.

Values travel as lists of units: a write appends to the message or fails, and `ReadsAs` says
that a read gives back what a write has put there.

## Key results

- `session_eq`: operations that agree call by call agree over a session
- `session_eq_map`: answers that do not depend on the calls before
- `Delivered.session`: if every operation serves its call at most once, so does a session
- `Delivered.all_served`: a session without the answer of a missed call was served whole
-/

namespace Delivery

variable {ρ σ β γ α τ υ : Type*}

/-! ## Messages -/

/-- Wherever the data of a write stands, the read gives `f` of the value and stops behind
    that data. -/
def ReadsAs (write : τ → Option (List α)) (read : List α → Option (υ × List α)) (f : τ → υ) :
    Prop :=
  ∀ value data, write value = some data → ∀ rest, read (data ++ rest) = some (f value, rest)

/-- The read of the last value of a message. -/
theorem ReadsAs.last {write : τ → Option (List α)} {read : List α → Option (υ × List α)}
    {f : τ → υ} (h : ReadsAs write read f) {value : τ} {data : List α}
    (hwrite : write value = some data) : read data = some (f value, []) := by
  have hread := h value data hwrite []
  rwa [List.append_nil] at hread

/-! ## Sessions -/

/-- The answers to a list of calls and the state after them. -/
def session (op : ρ → σ → β × σ) : List ρ → σ → List β × σ
  | [], s => ([], s)
  | call :: calls, s =>
    let first := op call s
    let rest := session op calls first.2
    (first.1 :: rest.1, rest.2)

@[simp] theorem session_nil (op : ρ → σ → β × σ) (s : σ) : session op [] s = ([], s) := rfl

theorem session_cons (op : ρ → σ → β × σ) (call : ρ) (calls : List ρ) (s : σ) :
    session op (call :: calls) s =
      ((op call s).1 :: (session op calls (op call s).2).1,
        (session op calls (op call s).2).2) := rfl

/-- Operations that agree call by call agree over a session. -/
theorem session_eq {op : ρ → σ → β × σ} {op' : ρ → σ → γ × σ} {f : ρ → γ → β} {calls : List ρ}
    (h : ∀ call ∈ calls, ∀ s, op call s = (f call (op' call s).1, (op' call s).2)) (s : σ) :
    session op calls s =
      (List.zipWith f calls (session op' calls s).1, (session op' calls s).2) := by
  induction calls generalizing s with
  | nil => rfl
  | cons call calls ih =>
    have hrest := ih (fun later hmem => h later (List.mem_cons_of_mem call hmem))
    rw [session_cons, session_cons, h call List.mem_cons_self, hrest, List.zipWith_cons_cons]

/-- Operations whose answers do not depend on the states that calls lead to. -/
theorem session_eq_map {op : ρ → σ → β × σ} {Inv : σ → Prop} {f : ρ → β}
    (hstep : ∀ call s, Inv s → Inv (op call s).2) (hanswer : ∀ call s, Inv s → (op call s).1 = f call)
    (calls : List ρ) {s : σ} (hs : Inv s) : (session op calls s).1 = calls.map f := by
  induction calls generalizing s with
  | nil => rfl
  | cons call calls ih =>
    rw [session_cons, List.map_cons, hanswer call s hs, ih (hstep call s hs)]

/-- The sessions that an unreliable connection to `serve` allows: calls, the state before,
    the answers, the state after. `tells call answer served` says that the answer may be
    given for a call that was served with that result, or not served. -/
inductive Delivered (serve : ρ → σ → γ × σ) (tells : ρ → β → Option γ → Prop) :
    List ρ → σ → List β → σ → Prop
  | nil (s : σ) : Delivered serve tells [] s [] s
  | missed {call : ρ} {calls : List ρ} {s s' : σ} {answer : β} {answers : List β} :
      tells call answer none → Delivered serve tells calls s answers s' →
      Delivered serve tells (call :: calls) s (answer :: answers) s'
  | served {call : ρ} {calls : List ρ} {s s' : σ} {answer : β} {answers : List β} :
      tells call answer (some (serve call s).1) →
      Delivered serve tells calls (serve call s).2 answers s' →
      Delivered serve tells (call :: calls) s (answer :: answers) s'

/-- The operation serves this call at most once, and says so as `tells` allows. -/
def AtMostOnce (op : ρ → σ → β × σ) (serve : ρ → σ → γ × σ) (tells : ρ → β → Option γ → Prop)
    (call : ρ) : Prop :=
  ∀ s, ((op call s).2 = s ∧ tells call (op call s).1 none) ∨
    ((op call s).2 = (serve call s).2 ∧ tells call (op call s).1 (some (serve call s).1))

namespace Delivered

variable {op : ρ → σ → β × σ} {serve : ρ → σ → γ × σ} {tells : ρ → β → Option γ → Prop}

/-- A session of calls, each delivered at most once, is delivered at most once and in order. -/
theorem session {calls : List ρ} (h : ∀ call ∈ calls, AtMostOnce op serve tells call) (s : σ) :
    Delivered serve tells calls s (session op calls s).1 (session op calls s).2 := by
  induction calls generalizing s with
  | nil => exact .nil s
  | cons call calls ih =>
    have hrest := ih (fun later hmem => h later (List.mem_cons_of_mem call hmem)) (op call s).2
    rw [session_cons]
    rcases h call List.mem_cons_self s with ⟨hstate, htells⟩ | ⟨hstate, htells⟩
    · rw [hstate] at hrest ⊢
      exact .missed htells hrest
    · rw [hstate] at hrest ⊢
      exact .served htells hrest

/-- When no answer is one of a missed call, the server has gone through all calls. -/
theorem all_served {calls : List ρ} {s s' : σ} {answers : List β}
    (h : Delivered serve tells calls s answers s')
    (hserved : ∀ answer ∈ answers, ∀ call ∈ calls, ¬tells call answer none) :
    s' = (Delivery.session serve calls s).2 ∧
      ∀ result ∈ (Delivery.session serve calls s).1, ∃ answer ∈ answers, ∃ call ∈ calls,
        tells call answer (some result) := by
  induction h with
  | nil s => exact ⟨rfl, fun result hmem => absurd hmem List.not_mem_nil⟩
  | missed htells _ _ =>
    exact absurd htells (hserved _ List.mem_cons_self _ List.mem_cons_self)
  | @served call calls s s' answer answers htells _ ih =>
    obtain ⟨hstate, hresults⟩ := ih fun answer hanswer call hcall =>
      hserved answer (List.mem_cons_of_mem _ hanswer) call (List.mem_cons_of_mem _ hcall)
    refine ⟨hstate, fun result hmem => ?_⟩
    rw [session_cons] at hmem
    rcases List.mem_cons.mp hmem with rfl | hlater
    · exact ⟨answer, List.mem_cons_self, call, List.mem_cons_self, htells⟩
    · obtain ⟨answer', hanswer, call', hcall, htells'⟩ := hresults result hlater
      exact ⟨answer', List.mem_cons_of_mem _ hanswer, call', List.mem_cons_of_mem _ hcall, htells'⟩

end Delivered

end Delivery
