import Mathlib.Logic.Function.Basic
import Mathlib.Order.Basic

/-!
# Programs on a shared store

Programs run concurrently on one store. Their atomic steps are an insertion that leaves a
key that is taken alone, a lookup, and the writing of a text. `Runs` is the run of one program
over a stretch of time in which others move as well, and `alone` is its run by itself. On keys
that nobody else changes meanwhile the two agree.

## Key results

- `Runs.eq_alone`: a run among others on keys of its own
- `Program.runs_replay`: a run that is computed from the moves of a program
- `alone_congr`: a program depends on the keys it looks at only
-/

namespace StorePrograms

variable {κ υ ω α β : Type}

/-- A program that goes on according to what its steps return. -/
inductive Program (κ υ ω α : Type) where
  | done (result : α)
  | emplace (key : κ) (value : υ) (next : Bool → Program κ υ ω α)
  | find (key : κ) (next : Option υ → Program κ υ ω α)
  | write (text : ω) (next : Program κ υ ω α)

/-- What a run has come to: its result, what it has tried to insert and what it has written. -/
structure Report (κ υ ω α : Type) where
  result : α
  inserted : List (κ × υ)
  written : List ω
  deriving DecidableEq

namespace Program

def bind (program : Program κ υ ω α) (next : α → Program κ υ ω β) : Program κ υ ω β :=
  match program with
  | .done result => next result
  | .emplace key value rest => .emplace key value fun absent => (rest absent).bind next
  | .find key rest => .find key fun found => (rest found).bind next
  | .write text rest => .write text (rest.bind next)

instance : Monad (Program κ υ ω) where
  pure := .done
  bind := bind

@[simp] theorem pure_eq (result : α) : (pure result : Program κ υ ω α) = .done result := rfl

@[simp] theorem bind_eq (program : Program κ υ ω α) (next : α → Program κ υ ω β) :
    program >>= next = program.bind next := rfl

end Program

/-! ## Stores -/

section Stores

variable [DecidableEq κ]

/-- The store after an insertion. -/
def emplaced (store : κ → Option υ) (entry : κ × υ) : κ → Option υ :=
  Function.update store entry.1 ((store entry.1).or (some entry.2))

/-- The store after a list of insertions. -/
def left (store : κ → Option υ) (inserted : List (κ × υ)) : κ → Option υ :=
  inserted.foldl emplaced store

@[simp] theorem left_nil (store : κ → Option υ) : left store [] = store := rfl

@[simp] theorem left_cons (store : κ → Option υ) (entry : κ × υ) (inserted : List (κ × υ)) :
    left store (entry :: inserted) = left (emplaced store entry) inserted := rfl

/-- Insertions after insertions leave what the later ones make of the earlier ones. -/
theorem left_append (store : κ → Option υ) (first second : List (κ × υ)) :
    left store (first ++ second) = left (left store first) second :=
  List.foldl_append

/-- An insertion acts on its own key, according to what is there. -/
theorem emplaced_congr {store store' : κ → Option υ} {keys : κ → Prop}
    (h : ∀ k, keys k → store k = store' k) (entry : κ × υ) :
    ∀ k, keys k → emplaced store entry k = emplaced store' entry k := by
  intro k hk
  unfold emplaced
  by_cases hkey : k = entry.1
  · rw [← hkey, Function.update_self, Function.update_self, h k hk]
  · rw [Function.update_of_ne hkey, Function.update_of_ne hkey, h k hk]

/-- Insertions keep two stores equal on the keys where they were equal. -/
theorem left_congr {store store' : κ → Option υ} {keys : κ → Prop}
    (h : ∀ k, keys k → store k = store' k) (inserted : List (κ × υ)) :
    ∀ k, keys k → left store inserted k = left store' inserted k := by
  induction inserted generalizing store store' with
  | nil => exact h
  | cons entry inserted ih => exact ih (emplaced_congr h entry)

/-- An insertion is not seen under other keys. -/
theorem emplaced_of_ne {store : κ → Option υ} {entry : κ × υ} {k : κ} (h : k ≠ entry.1) :
    emplaced store entry k = store k :=
  Function.update_of_ne h _ _

/-- Insertions leave the other keys alone. -/
theorem left_of_notMem {inserted : List (κ × υ)} {store : κ → Option υ} {k : κ}
    (h : k ∉ inserted.map (·.1)) : left store inserted k = store k := by
  induction inserted generalizing store with
  | nil => rfl
  | cons entry inserted ih =>
    rw [List.map_cons, List.mem_cons, not_or] at h
    rw [left_cons, ih h.2, emplaced_of_ne h.1]

end Stores

/-! ## One program by itself -/

namespace Program

/-- What a program may do: the keys it may insert, the keys it may look at, and whether it
    may write. -/
def Only (inserts finds : κ → Prop) (writes : Prop) : Program κ υ ω α → Prop
  | .done _ => True
  | .emplace key _ next => inserts key ∧ ∀ absent, (next absent).Only inserts finds writes
  | .find key next => finds key ∧ ∀ found, (next found).Only inserts finds writes
  | .write _ next => writes ∧ next.Only inserts finds writes

variable {inserts finds : κ → Prop} {writes : Prop}

/-- What two programs may use, their sequence may use. -/
theorem only_bind {program : Program κ υ ω α} {next : α → Program κ υ ω β}
    (hfirst : program.Only inserts finds writes)
    (hnext : ∀ result, (next result).Only inserts finds writes) :
    (program.bind next).Only inserts finds writes := by
  induction program with
  | done result => exact hnext result
  | emplace key value rest ih => exact ⟨hfirst.1, fun absent => ih absent (hfirst.2 absent)⟩
  | find key rest ih => exact ⟨hfirst.1, fun found => ih found (hfirst.2 found)⟩
  | write text rest ih => exact ⟨hfirst.1, ih hfirst.2⟩

/-- A program that stays within a footprint stays within a larger one. -/
theorem Only.mono {inserts' finds' : κ → Prop} {writes' : Prop} {program : Program κ υ ω α}
    (h : program.Only inserts finds writes) (hinserts : ∀ k, inserts k → inserts' k)
    (hfinds : ∀ k, finds k → finds' k) (hwrites : writes → writes') :
    program.Only inserts' finds' writes' := by
  induction program with
  | done result => trivial
  | emplace key value rest ih => exact ⟨hinserts _ h.1, fun absent => ih absent (h.2 absent)⟩
  | find key rest ih => exact ⟨hfinds _ h.1, fun found => ih found (h.2 found)⟩
  | write text rest ih => exact ⟨hwrites h.1, ih h.2⟩

variable [DecidableEq κ]

/-- The program on a store that nobody else uses. -/
def alone : Program κ υ ω α → (κ → Option υ) → Report κ υ ω α
  | .done result, _ => ⟨result, [], []⟩
  | .emplace key value next, store =>
    let rest := (next (store key).isNone).alone (emplaced store (key, value))
    { rest with inserted := (key, value) :: rest.inserted }
  | .find key next, store => (next (store key)).alone store
  | .write text next, store =>
    let rest := next.alone store
    { rest with written := text :: rest.written }

/-- A program inserts what it may insert. -/
theorem Only.mem_inserted {program : Program κ υ ω α} (h : program.Only inserts finds writes)
    {store : κ → Option υ} {entry : κ × υ} (hentry : entry ∈ (program.alone store).inserted) :
    inserts entry.1 := by
  induction program generalizing store with
  | done result => exact nomatch hentry
  | emplace key value rest ih =>
    rcases List.mem_cons.mp hentry with rfl | hrest
    · exact h.1
    · exact ih _ (h.2 _) hrest
  | find key rest ih => exact ih _ (h.2 _) hentry
  | write text rest ih => exact ih h.2 hentry

/-- A program that may not write writes nothing. -/
theorem Only.written_eq_nil {program : Program κ υ ω α} (h : program.Only inserts finds False)
    (store : κ → Option υ) : (program.alone store).written = [] := by
  induction program generalizing store with
  | done result => rfl
  | emplace key value rest ih => exact ih _ (h.2 _) _
  | find key rest ih => exact ih _ (h.2 _) _
  | write text rest ih => exact h.1.elim

/-- A program depends on the keys it may use only. -/
theorem alone_congr {program : Program κ υ ω α} (h : program.Only inserts finds writes)
    {keys : κ → Prop} (hinserts : ∀ k, inserts k → keys k) (hfinds : ∀ k, finds k → keys k)
    {store store' : κ → Option υ} (heq : ∀ k, keys k → store k = store' k) :
    program.alone store = program.alone store' := by
  induction program generalizing store store' with
  | done result => rfl
  | emplace key value rest ih =>
    rw [alone, alone, heq key (hinserts key h.1),
      ih _ (h.2 _) (emplaced_congr heq (key, value))]
  | find key rest ih =>
    rw [alone, alone, heq key (hfinds key h.1)]
    exact ih _ (h.2 _) heq
  | write text rest ih => rw [alone, alone, ih h.2 heq]

end Program

/-! ## A program among others -/

/-- A run of the program from time `n` to time `m`. The store is `view i` at time `i`, and
    `moves i` is the insertion that the program makes at that time, if it makes one. -/
inductive Runs (view : Nat → κ → Option υ) (moves : Nat → Option (κ × υ)) :
    Nat → Nat → Program κ υ ω α → Report κ υ ω α → Prop where
  | done {n : Nat} {result : α} : Runs view moves n n (.done result) ⟨result, [], []⟩
  | wait {n m : Nat} {program : Program κ υ ω α} {report : Report κ υ ω α}
      (hmove : moves n = none) (hrest : Runs view moves (n + 1) m program report) :
      Runs view moves n m program report
  | emplace {n m : Nat} {key : κ} {value : υ} {next : Bool → Program κ υ ω α}
      {report : Report κ υ ω α} (hmove : moves n = some (key, value))
      (hrest : Runs view moves (n + 1) m (next (view n key).isNone) report) :
      Runs view moves n m (.emplace key value next)
        { report with inserted := (key, value) :: report.inserted }
  | find {n m : Nat} {key : κ} {next : Option υ → Program κ υ ω α} {report : Report κ υ ω α}
      (hrest : Runs view moves n m (next (view n key)) report) :
      Runs view moves n m (.find key next) report
  | write {n m : Nat} {text : ω} {next : Program κ υ ω α} {report : Report κ υ ω α}
      (hrest : Runs view moves n m next report) :
      Runs view moves n m (.write text next) { report with written := text :: report.written }

variable {view : Nat → κ → Option υ} {moves : Nat → Option (κ × υ)} {n m : Nat}
  {program : Program κ υ ω α} {report : Report κ υ ω α}

/-- A run ends no earlier than it begins. -/
theorem Runs.le (h : Runs view moves n m program report) : n ≤ m := by
  induction h with
  | done => exact Nat.le_refl _
  | wait _ _ ih => omega
  | emplace _ _ ih => omega
  | find _ ih => exact ih
  | write _ ih => exact ih

/-- A program inserts what it may insert, whatever it sees. -/
theorem Runs.mem_inserted (h : Runs view moves n m program report) {inserts finds : κ → Prop}
    {writes : Prop} (honly : program.Only inserts finds writes) {entry : κ × υ}
    (hentry : entry ∈ report.inserted) : inserts entry.1 := by
  induction h with
  | done => exact nomatch hentry
  | wait _ _ ih => exact ih honly hentry
  | emplace _ _ ih =>
    rcases List.mem_cons.mp hentry with rfl | hrest
    · exact honly.1
    · exact ih (honly.2 _) hrest
  | find _ ih => exact ih (honly.2 _) hentry
  | write _ ih => exact ih honly.2 hentry

/-- A program that is done may wait. -/
theorem Runs.stay {result : α} (hle : n ≤ m) (hmoves : ∀ i, n ≤ i → i < m → moves i = none) :
    Runs view moves n m (.done result : Program κ υ ω α) ⟨result, [], []⟩ := by
  obtain ⟨k, rfl⟩ := Nat.exists_eq_add_of_le hle
  induction k generalizing n with
  | zero => exact .done
  | succ k ih =>
    refine .wait (hmoves n (Nat.le_refl n) (by omega)) ?_
    have hrest := ih (Nat.le_add_right (n + 1) k) fun i hi him => hmoves i (by omega) (by omega)
    rwa [show n + 1 + k = n + (k + 1) by omega] at hrest

variable [DecidableEq κ]

/-- From time `n` to time `m` the moves are all that happens on the keys. -/
def Isolated (view : Nat → κ → Option υ) (moves : Nat → Option (κ × υ)) (keys : κ → Prop)
    (n m : Nat) : Prop :=
  ∀ i, n ≤ i → i < m → ∀ k, keys k → view (i + 1) k = left (view i) (moves i).toList k

/-- A program on keys of its own does what it does alone, and leaves on them what it leaves
    alone. -/
theorem Runs.eq_alone (h : Runs view moves n m program report) {keys : κ → Prop}
    {writes : Prop} (honly : program.Only keys keys writes)
    (hisolated : Isolated view moves keys n m) {store : κ → Option υ}
    (hstore : ∀ k, keys k → view n k = store k) :
    report = program.alone store ∧ ∀ k, keys k → view m k = left store report.inserted k := by
  -- Induction on the run: what the program sees next is the store of its run alone.
  induction h generalizing store with
  | done => exact ⟨rfl, hstore⟩
  | @wait n m _ _ hmove hrest ih =>
    have hle := hrest.le
    refine ih honly (fun i hi him => hisolated i (by omega) him) fun k hk => ?_
    rw [hisolated n (Nat.le_refl n) (by omega) k hk, hmove]
    exact hstore k hk
  | @emplace n m key value next _ hmove hrest ih =>
    have hle := hrest.le
    rw [hstore key honly.1] at hrest ih
    have hnext : ∀ k, keys k → view (n + 1) k = emplaced store (key, value) k := fun k hk => by
      rw [hisolated n (Nat.le_refl n) (by omega) k hk, hmove]
      exact emplaced_congr hstore (key, value) k hk
    obtain ⟨heq, hleft⟩ :=
      ih (honly.2 _) (fun i hi him => hisolated i (by omega) him) hnext
    exact ⟨by rw [heq, Program.alone], hleft⟩
  | find hrest ih =>
    rw [hstore _ honly.1] at hrest ih
    exact ih (honly.2 _) hisolated hstore
  | write hrest ih =>
    obtain ⟨heq, hleft⟩ := ih honly.2 hisolated hstore
    exact ⟨by rw [heq, Program.alone], hleft⟩

/-! ## Runs that are computed -/

/-- The first time from `n` on, and before `m`, at which the program moves. -/
def nextMove (moves : Nat → Option (κ × υ)) (n m : Nat) : Option Nat :=
  (List.range' n (m - n)).find? fun i => (moves i).isSome

omit [DecidableEq κ] in
/-- Until its next move a program may wait. -/
theorem Runs.of_nextMove {i : Nat} (hnext : nextMove moves n m = some i)
    (h : Runs view moves i m program report) : Runs view moves n m program report := by
  obtain ⟨-, hmem, hnone⟩ := List.find?_range'_eq_some.mp hnext
  obtain ⟨k, rfl⟩ := Nat.exists_eq_add_of_le (List.mem_range'_1.mp hmem).1
  clear hnext hmem
  -- Induction on the time until the move.
  induction k generalizing n with
  | zero => exact h
  | succ k ih =>
    rw [← Nat.add_assoc, Nat.add_right_comm] at h
    refine .wait ?_ (ih h fun j hj hlt => hnone j (by omega) (by omega))
    simpa using hnone n (Nat.le_refl n) (by omega)

variable [DecidableEq υ]

/-- The run of a program from time `n` to time `m`, if the moves are those of one. It looks as
    soon as it can; what it inserts must be what moves next. -/
def Program.replay (view : Nat → κ → Option υ) (moves : Nat → Option (κ × υ)) (m : Nat) :
    Program κ υ ω α → Nat → Option (Report κ υ ω α)
  | .done result, n =>
    if n ≤ m ∧ nextMove moves n m = none then some ⟨result, [], []⟩ else none
  | .emplace key value next, n =>
    match nextMove moves n m with
    | none => none
    | some i =>
      if moves i = some (key, value) then
        ((next (view i key).isNone).replay view moves m (i + 1)).map fun report =>
          { report with inserted := (key, value) :: report.inserted }
      else none
  | .find key next, n => (next (view n key)).replay view moves m n
  | .write text next, n =>
    (next.replay view moves m n).map fun report => { report with written := text :: report.written }

/-- What is computed is a run. -/
theorem Program.runs_replay (h : program.replay view moves m n = some report) :
    Runs view moves n m program report := by
  induction program generalizing n report with
  | done result =>
    rw [replay] at h
    split at h
    · rename_i hstay
      obtain rfl := Option.some.inj h
      refine .stay hstay.1 fun i hi him => ?_
      simpa using List.find?_range'_eq_none.mp hstay.2 i hi (by omega)
    · exact nomatch h
  | emplace key value next ih =>
    rw [replay] at h
    split at h
    -- The insertion is missing among the moves, or another one stands in its place.
    · exact nomatch h
    · rename_i i hnext
      split at h
      · rename_i hmove
        obtain ⟨rest, hrest, rfl⟩ := Option.map_eq_some_iff.mp h
        exact .of_nextMove hnext (.emplace hmove (ih _ hrest))
      · exact nomatch h
  | find key next ih => exact .find (ih _ h)
  | write text rest ih =>
    rw [replay] at h
    obtain ⟨rest, hrest, rfl⟩ := Option.map_eq_some_iff.mp h
    exact .write (ih hrest)

end StorePrograms
