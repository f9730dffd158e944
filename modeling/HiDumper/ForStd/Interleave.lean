import Mathlib.Data.List.Sigma
import Mathlib.Data.List.Perm.Basic

/-!
# Interleavings of event queues

Several threads, each with a queue of events to perform in order, run
concurrently. A list of picks says which thread moves next; a pick of a thread
that has nothing left is skipped, and whatever the picks leave over runs at the
end. Every interleaving of the queues is obtained from some list of picks, and
the lemmas below say what all of them share: no event is lost, added or repeated.
-/

namespace Interleave

variable {κ ε : Type*} [DecidableEq κ]

/-- The events of the queues, thread after thread. -/
def events (qs : List (κ × List ε)) : List (κ × ε) :=
  qs.flatMap fun q => q.2.map fun e => (q.1, e)

/-- Take the next event of thread `k`, if it has one left. -/
def pop (k : κ) : List (κ × List ε) → Option (ε × List (κ × List ε))
  | [] => none
  | (k', es) :: qs =>
    match es with
    | e :: es' =>
      if k' = k then some (e, (k', es') :: qs)
      else (pop k qs).map fun r => (r.1, (k', e :: es') :: r.2)
    | [] => (pop k qs).map fun r => (r.1, (k', []) :: r.2)

/-- Run the queues in the order the picks ask for. -/
def interleave : List κ → List (κ × List ε) → List (κ × ε)
  | [], qs => events qs
  | k :: ks, qs =>
    match pop k qs with
    | none => interleave ks qs
    | some (e, qs') => (k, e) :: interleave ks qs'

/-- Popping takes exactly one event out of the queues. -/
theorem events_perm_of_pop {k : κ} {qs qs' : List (κ × List ε)} {e : ε}
    (h : pop k qs = some (e, qs')) : (events qs).Perm ((k, e) :: events qs') := by
  induction qs generalizing qs' with
  | nil => exact nomatch h
  | cons q qs ih =>
    obtain ⟨k', es⟩ := q
    cases es with
    -- No party is left: nothing is popped.
    | nil =>
      simp only [pop, Option.map_eq_some_iff] at h
      obtain ⟨⟨e', r⟩, hpop, heq⟩ := h
      simp only [Prod.mk.injEq] at heq
      obtain ⟨rfl, rfl⟩ := heq
      simpa [events] using ih hpop
    -- The first queue gives the event if it is the party's own, else a later one does.
    | cons e₀ es =>
      simp only [pop] at h
      split at h
      · rename_i hk
        subst hk
        simp only [Option.some.injEq, Prod.mk.injEq] at h
        obtain ⟨rfl, rfl⟩ := h
        simp [events]
      · simp only [Option.map_eq_some_iff] at h
        obtain ⟨⟨e', r⟩, hpop, heq⟩ := h
        simp only [Prod.mk.injEq] at heq
        obtain ⟨rfl, rfl⟩ := heq
        -- The event moves over the events of the queue that was passed.
        have hrest := (ih hpop).append_left ((e₀ :: es).map fun x => (k', x))
        simp only [events, List.flatMap_cons] at hrest ⊢
        exact hrest.trans List.perm_middle

/-- An interleaving performs every event exactly once. -/
theorem interleave_perm (picks : List κ) (qs : List (κ × List ε)) :
    (interleave picks qs).Perm (events qs) := by
  induction picks generalizing qs with
  | nil => exact List.Perm.refl _
  | cons k ks ih =>
    simp only [interleave]
    cases hpop : pop k qs with
    | none => exact ih qs
    | some r =>
      obtain ⟨e, qs'⟩ := r
      exact ((ih qs').cons _).trans (events_perm_of_pop hpop).symm

/-- An interleaving has the elements of its queues and no others. -/
theorem mem_interleave {picks : List κ} {qs : List (κ × List ε)} {k : κ} {e : ε} :
    (k, e) ∈ interleave picks qs ↔ ∃ es, (k, es) ∈ qs ∧ e ∈ es := by
  rw [(interleave_perm picks qs).mem_iff]
  simp only [events, List.mem_flatMap, List.mem_map, Prod.mk.injEq, Prod.exists]
  constructor
  · rintro ⟨k', es, hmem, e', he', rfl, rfl⟩
    exact ⟨es, hmem, he'⟩
  · rintro ⟨es, hmem, he⟩
    exact ⟨k, es, hmem, e, he, rfl, rfl⟩

end Interleave
