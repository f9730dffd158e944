import Mathlib.Data.List.Basic

/-!
# Runs of a transition system

A system is a partial step function: `step s a` is the state after action `a`,
or `none` when `a` is not enabled in `s`. An interleaving of threads is a list
of actions, each naming the thread that moves. `run_invariant` is the induction
rule every safety proof goes through; `AllSteps` restricts a run to steps that
are taken in a state of a given kind.

A program is a fallible state transformer, `none` being failure; `Meets` is its
total correctness between a pre- and a postcondition.
-/

namespace Runs

variable {σ α : Type*} (step : σ → α → Option σ)

/-- The state after a list of actions, or `none` if one of them is not enabled. -/
def run : σ → List α → Option σ
  | s, [] => some s
  | s, a :: as => (step s a).bind fun s' => run s' as

/-- A run goes on from where its beginning has led. -/
theorem run_append {step : σ → α → Option σ} {s s₁ : σ} {front back : List α}
    (h : run step s front = some s₁) : run step s (front ++ back) = run step s₁ back := by
  induction front generalizing s with
  | nil =>
    simp only [run, Option.some.injEq] at h
    rw [List.nil_append, h]
  | cons a front ih =>
    simp only [run, Option.bind_eq_some_iff] at h
    obtain ⟨s', hs', hrest⟩ := h
    simp only [List.cons_append, run, hs', Option.bind_some]
    exact ih hrest

/-- Every step of the run is taken in a state that meets `ok` for its action. -/
def AllSteps (ok : σ → α → Prop) : σ → List α → Prop
  | _, [] => True
  | s, a :: as => ok s a ∧ ∀ s', step s a = some s' → AllSteps ok s' as

variable {step}

/-- A step in front of a run, with the property that holds where it is taken. -/
theorem AllSteps.cons {ok : σ → α → Prop} {s s' : σ} {a : α} {as : List α}
    (hok : ok s a) (hstep : step s a = some s') (hrest : AllSteps step ok s' as) :
    AllSteps step ok s (a :: as) := by
  refine ⟨hok, fun s'' hs'' => ?_⟩
  rw [hstep, Option.some.injEq] at hs''
  exact hs'' ▸ hrest

/-- What holds initially and is preserved by every admitted step holds after the run. -/
theorem run_invariant {Inv : σ → Prop} {ok : σ → α → Prop}
    (hstep : ∀ s a s', Inv s → ok s a → step s a = some s' → Inv s')
    {s s' : σ} {as : List α} (hs : Inv s) (hok : AllSteps step ok s as)
    (hrun : run step s as = some s') : Inv s' := by
  induction as generalizing s with
  | nil =>
    simp only [run, Option.some.injEq] at hrun
    exact hrun ▸ hs
  | cons a as ih =>
    simp only [run, Option.bind_eq_some_iff] at hrun
    obtain ⟨s₁, hs₁, hrest⟩ := hrun
    exact ih (hstep s a s₁ hs hok.1 hs₁) (hok.2 s₁ hs₁) hrest

/-- `run_invariant` where every step is admitted. -/
theorem run_preserves {Inv : σ → Prop}
    (hstep : ∀ s a s', Inv s → step s a = some s' → Inv s')
    {s s' : σ} {as : List α} (hs : Inv s) (hrun : run step s as = some s') : Inv s' := by
  induction as generalizing s with
  | nil =>
    simp only [run, Option.some.injEq] at hrun
    exact hrun ▸ hs
  | cons a as ih =>
    simp only [run, Option.bind_eq_some_iff] at hrun
    obtain ⟨s₁, hs₁, hrest⟩ := hrun
    exact ih (hstep s a s₁ hs hs₁) hrest

/-- If every admitted step is enabled where the invariant holds and keeps it, every run of
    admitted steps gets to its end. -/
theorem run_total {Inv : σ → Prop} {ok : σ → α → Prop}
    (hstep : ∀ s a, Inv s → ok s a → ∃ s', step s a = some s' ∧ Inv s')
    {s : σ} {as : List α} (hs : Inv s) (hok : AllSteps step ok s as) :
    ∃ s', run step s as = some s' ∧ Inv s' := by
  induction as generalizing s with
  | nil => exact ⟨s, rfl, hs⟩
  | cons a as ih =>
    obtain ⟨s₁, hs₁, hinv⟩ := hstep s a hs hok.1
    obtain ⟨s', hrun, hinv'⟩ := ih hinv (hok.2 s₁ hs₁)
    refine ⟨s', ?_, hinv'⟩
    rw [run, hs₁]
    exact hrun

/-- `run_invariant` for a property of the state and of the actions that led to it. -/
theorem run_history_invariant {Inv : List α → σ → Prop} {ok : σ → α → Prop}
    (hstep : ∀ past s a s', Inv past s → ok s a → step s a = some s' → Inv (past ++ [a]) s')
    {s s' : σ} {past as : List α} (hs : Inv past s) (hok : AllSteps step ok s as)
    (hrun : run step s as = some s') : Inv (past ++ as) s' := by
  induction as generalizing s past with
  | nil =>
    simp only [run, Option.some.injEq] at hrun
    rw [List.append_nil]
    exact hrun ▸ hs
  | cons a as ih =>
    simp only [run, Option.bind_eq_some_iff] at hrun
    obtain ⟨s₁, hs₁, hrest⟩ := hrun
    have hrun := ih (hstep past s a s₁ hs hok.1 hs₁) (hok.2 s₁ hs₁) hrest
    rwa [List.append_assoc] at hrun

/-! ## Runs that record events -/

/-- A run of a system whose steps report an event each: the events in order and the state
    in the end. -/
def runEvents {ε : Type*} (step : σ → α → Option (ε × σ)) : σ → List α → Option (List ε × σ)
  | s, [] => some ([], s)
  | s, a :: as =>
    (step s a).bind fun first => (runEvents step first.2 as).map fun rest =>
      (first.1 :: rest.1, rest.2)

/-- The first step of a run and the rest of it. -/
theorem runEvents_cons_eq_some {ε : Type*} {step : σ → α → Option (ε × σ)} {s s' : σ} {a : α}
    {as : List α} {events : List ε} (h : runEvents step s (a :: as) = some (events, s')) :
    ∃ e s₁ es, step s a = some (e, s₁) ∧ runEvents step s₁ as = some (es, s') ∧
      events = e :: es := by
  simp only [runEvents, Option.bind_eq_some_iff, Option.map_eq_some_iff, Prod.mk.injEq] at h
  obtain ⟨⟨e, s₁⟩, hstep, ⟨es, s₂⟩, hrest, rfl, rfl⟩ := h
  exact ⟨e, s₁, es, hstep, hrest, rfl⟩

/-! ## Total correctness of fallible programs -/

/-- Started in a state with `pre`, the program ends, in a state with `post`. -/
def Meets (pre : σ → Prop) (program : σ → Option σ) (post : σ → Prop) : Prop :=
  ∀ s, pre s → ∃ s', program s = some s' ∧ post s'

/-- The rule of sequence. -/
theorem Meets.seq {pre mid post : σ → Prop} {first second : σ → Option σ}
    (h₁ : Meets pre first mid) (h₂ : Meets mid second post) :
    Meets pre (fun s => (first s).bind second) post := by
  intro s hs
  obtain ⟨s₁, hrun₁, hs₁⟩ := h₁ s hs
  obtain ⟨s₂, hrun₂, hs₂⟩ := h₂ s₁ hs₁
  refine ⟨s₂, ?_, hs₂⟩
  show (first s).bind second = some s₂
  rw [hrun₁]
  exact hrun₂

/-- A loop whose body keeps an invariant keeps it. -/
theorem Meets.foldlM {inv : σ → Prop} {body : σ → α → Option σ} {l : List α}
    (h : ∀ a ∈ l, Meets inv (body · a) inv) : Meets inv (fun s => l.foldlM body s) inv := by
  induction l with
  | nil => exact fun s hs => ⟨s, rfl, hs⟩
  | cons a l ih =>
    have hrest := ih fun b hb => h b (List.mem_cons_of_mem a hb)
    exact (h a List.mem_cons_self).seq hrest

/-- If one round of a loop establishes `post` and all rounds keep it, the loop
    establishes it. -/
theorem Meets.foldlM_of_mem {inv post : σ → Prop} {body : σ → α → Option σ} {l : List α} {a : α}
    (ha : a ∈ l) (hinv : ∀ b ∈ l, Meets inv (body · b) inv) (hhit : Meets inv (body · a) post)
    (hpost : ∀ b ∈ l, Meets post (body · b) post) :
    Meets inv (fun s => l.foldlM body s) post := by
  induction l with
  | nil => exact nomatch ha
  | cons b l ih =>
    have hinv' : ∀ c ∈ l, Meets inv (body · c) inv := fun c hc => hinv c (List.mem_cons_of_mem b hc)
    have hpost' : ∀ c ∈ l, Meets post (body · c) post :=
      fun c hc => hpost c (List.mem_cons_of_mem b hc)
    cases List.mem_cons.mp ha with
    | inl heq => exact Meets.seq (heq ▸ hhit) (Meets.foldlM hpost')
    | inr hmem => exact Meets.seq (hinv b List.mem_cons_self) (ih hmem hinv' hpost')

/-! ## Loops that collect results -/

/-- `mapM` succeeds with `out` when `f` gives exactly the elements of `out`. -/
theorem mapM_eq_some_iff {β γ : Type} {f : β → Option γ} {l : List β} {out : List γ} :
    l.mapM f = some out ↔ l.map f = out.map some := by
  induction l generalizing out with
  | nil => cases out <;> simp
  | cons a l ih =>
    cases out with
    | nil => simp [List.mapM_cons, Option.bind_eq_some_iff]
    | cons b out => simp [List.mapM_cons, Option.bind_eq_some_iff, ih]

/-- A partial map that is defined on all elements is a map. -/
theorem mapM_eq_some_map {β γ : Type} {f : β → Option γ} {g : β → γ} {l : List β}
    (h : ∀ a ∈ l, f a = some (g a)) : l.mapM f = some (l.map g) := by
  rw [mapM_eq_some_iff, List.map_map]
  exact List.map_congr_left h

/-- A partial map that is defined on all elements is defined on the list. -/
theorem exists_mapM {β γ : Type} {f : β → Option γ} {l : List β}
    (h : ∀ a ∈ l, ∃ b, f a = some b) : ∃ out, l.mapM f = some out := by
  induction l with
  | nil => exact ⟨[], rfl⟩
  | cons a l ih =>
    obtain ⟨b, hb⟩ := h a List.mem_cons_self
    obtain ⟨out, hout⟩ := ih fun c hc => h c (List.mem_cons_of_mem a hc)
    exact ⟨b :: out, by rw [List.mapM_cons, hb, hout]; rfl⟩

/-- A computation goes on behind a collection that has all its results. -/
theorem isSome_mapM_bind {β γ δ : Type} {f : β → Option γ} {g : List γ → Option δ} {l : List β}
    (h : ∀ a ∈ l, ∃ b, f a = some b) (hg : ∀ out, (g out).isSome) : (l.mapM f >>= g).isSome := by
  obtain ⟨out, hout⟩ := exists_mapM h
  rw [hout]
  exact hg out

/-- A collected result comes from an element of the list. -/
theorem exists_of_mem_mapM {β γ : Type} {f : β → Option γ} {l : List β} {out : List γ}
    (h : l.mapM f = some out) {b : γ} (hb : b ∈ out) : ∃ a ∈ l, f a = some b := by
  have hmem : some b ∈ l.map f := mapM_eq_some_iff.mp h ▸ List.mem_map_of_mem hb
  exact List.mem_map.mp hmem

/-- Every element of the list has its result collected. -/
theorem mem_mapM {β γ : Type} {f : β → Option γ} {l : List β} {out : List γ}
    (h : l.mapM f = some out) {a : β} (ha : a ∈ l) : ∃ b ∈ out, f a = some b := by
  have hmem : f a ∈ out.map some := mapM_eq_some_iff.mp h ▸ List.mem_map_of_mem ha
  obtain ⟨b, hb, heq⟩ := List.mem_map.mp hmem
  exact ⟨b, hb, heq.symm⟩

/-- What is known of each result holds of the collected ones, in order. -/
theorem map_of_mapM {β γ δ : Type} {f : β → Option γ} {l : List β} {out : List γ} {p : γ → δ}
    {g : β → δ} (h : l.mapM f = some out) (hfg : ∀ a ∈ l, ∀ b, f a = some b → p b = g a) :
    out.map p = l.map g := by
  rw [mapM_eq_some_iff] at h
  induction l generalizing out with
  | nil =>
    obtain rfl : out = [] := by simpa using h.symm
    rfl
  | cons a l ih =>
    cases out with
    | nil => simp at h
    | cons b out =>
      simp only [List.map_cons, List.cons.injEq] at h ⊢
      have hrest := ih h.2 fun c hc => hfg c (List.mem_cons_of_mem a hc)
      exact ⟨hfg a List.mem_cons_self b h.1, hrest⟩

end Runs
