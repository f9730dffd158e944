import HiDumper.ForStd.Runs
import HiDumper.Native.RawParam

/-!
# Arguments from the client to the service

The client accepts arguments of up to `SINGLE_ARG_MAXLEN` bytes. `RawParam::Init` has
room for that many and a terminator, but tells `sprintf_s` that there is one byte
less. An argument of exactly that length ends the loop, and `GetArgc` counts only the
arguments before it.

## Key results

- `clientMain_eq_some_iff`: the client accepts what `DumpImplement::CheckArgs` accepts
- `countArgs_fillArgHead_iff`: all arguments are counted when each leaves room for its
  terminator
- `argTable_transfers_iff`: when the service sees the arguments the client was given
-/

namespace HiDumper.Spec

open HiDumper.Native ArgTable

/-! ## What the client accepts -/

/-- The client passes an argument on if it is not empty and not too long. -/
private theorem clientArg_eq_some_iff {pointer : Option String} {arg : String} :
    clientArg pointer = some arg ↔
      pointer = some arg ∧ arg ≠ "" ∧ arg.utf8ByteSize ≤ singleArgMaxLen := by
  cases pointer with
  | none => simp [clientArg]
  | some text =>
    simp only [clientArg, Option.ite_none_left_eq_some, Bool.or_eq_true, decide_eq_true_eq,
      Option.some.injEq, not_or, Nat.not_lt]
    constructor
    · rintro ⟨hchecks, rfl⟩
      exact ⟨rfl, hchecks⟩
    · rintro ⟨rfl, hchecks⟩
      exact ⟨hchecks, rfl⟩

variable {Str16 : Type} (codec : Str16Codec Str16)

/-- The vectors the client transmits are those without null pointers that
    `DumpImplement::CheckArgs` accepts. -/
theorem clientMain_eq_some_iff {ppid : Int} {argv : List (Option String)} {sent : List Str16} :
    clientMain codec ppid argv = some sent ↔
      ∃ args, argv = args.map some ∧ checkArgs args = true ∧ setCmdArgs codec ppid args = sent := by
  -- The loop stops at a null pointer, and at an argument that is empty or too long.
  have hmapM : ∀ args, argv.mapM clientArg = some args ↔
      argv = args.map some ∧ ∀ arg ∈ args, arg ≠ "" ∧ arg.utf8ByteSize ≤ singleArgMaxLen := by
    intro args
    rw [Runs.mapM_eq_some_iff]
    induction argv generalizing args with
    | nil => cases args <;> simp
    | cons pointer argv ih =>
      cases args with
      | nil => simp
      | cons arg args =>
        simp only [List.map_cons, List.cons.injEq, clientArg_eq_some_iff, ih, List.forall_mem_cons]
        tauto
  have hcheck : ∀ args : List String, checkArgs args = true ↔
      args.length ≤ argMaxCount ∧ ∀ arg ∈ args, arg ≠ "" ∧ arg.utf8ByteSize ≤ singleArgMaxLen := by
    intro args
    simp [checkArgs]
  unfold clientMain
  split
  · rename_i hlong
    refine ⟨fun h => (nomatch h), fun ⟨args, hargv, hargs, _⟩ => ?_⟩
    have hlen : argv.length = args.length := by rw [hargv, List.length_map]
    have := ((hcheck args).mp hargs).1
    omega
  · rename_i hshort
    simp only [Option.map_eq_some_iff, hmapM, hcheck]
    constructor
    · rintro ⟨args, ⟨hargv, hargs⟩, hsent⟩
      have hlen : argv.length = args.length := by rw [hargv, List.length_map]
      exact ⟨args, hargv, ⟨by omega, hargs⟩, hsent⟩
    · rintro ⟨args, hargv, ⟨_, hargs⟩, hsent⟩
      exact ⟨args, ⟨hargv, hargs⟩, hsent⟩

/-! ## What the table holds -/

@[simp] theorem countArgs_replicate_none (n : Nat) :
    countArgs (List.replicate n none) = 0 := by
  cases n <;> rfl

/-- `sprintf_s` needs a place for the terminator. -/
private theorem sprintfS_eq_some_iff {destMax : Nat} {text value : String} :
    sprintfS destMax text = some value ↔ text.utf8ByteSize < destMax ∧ text = value := by
  unfold sprintfS
  split
  · rename_i hlong
    constructor
    · exact nofun
    · rintro ⟨hshort, -⟩
      omega
  · rename_i hshort
    rw [Option.some.injEq]
    constructor
    · exact fun htext => ⟨by omega, htext⟩
    · exact fun h => h.2

/-- Arguments that leave room for their terminator end up in the table, in order. -/
private theorem fillArgHead_of_short {slots : Nat} {args : List String} (hlen : args.length ≤ slots)
    (hargs : ∀ arg ∈ args, arg.utf8ByteSize < singleArgMaxLen) :
    fillArgHead codec slots (args.map codec.str8ToStr16) =
      args.map some ++ List.replicate (slots - args.length) none := by
  induction args generalizing slots with
  | nil => cases slots <;> rfl
  | cons arg args ih =>
    cases slots with
    | zero => simp at hlen
    | succ slots =>
      have hfits : sprintfS singleArgMaxLen arg = some arg :=
        sprintfS_eq_some_iff.mpr ⟨hargs arg List.mem_cons_self, rfl⟩
      have hrest := ih (by simpa using hlen) fun a ha => hargs a (List.mem_cons_of_mem arg ha)
      simp [fillArgHead, codec.lossless, hfits, hrest]

/-- Only arguments that leave room for their terminator are all counted. -/
theorem countArgs_fillArgHead_iff {slots : Nat} {args : List String}
    (hlen : args.length < slots) :
    countArgs ((fillArgHead codec slots (args.map codec.str8ToStr16)).take (slots - 1)) =
        args.length ↔
      ∀ arg ∈ args, arg.utf8ByteSize < singleArgMaxLen := by
  induction args generalizing slots with
  | nil =>
    obtain ⟨slots, rfl⟩ : ∃ n, slots = n + 1 := ⟨slots - 1, by simp at hlen; omega⟩
    simp [fillArgHead, List.take_replicate]
  | cons arg args ih =>
    obtain ⟨slots, rfl⟩ : ∃ n, slots = n + 2 := ⟨slots - 2, by simp at hlen; omega⟩
    have hlen' : args.length < slots + 1 := by simp at hlen; omega
    simp only [List.map_cons, fillArgHead, codec.lossless, List.forall_mem_cons]
    cases hfits : sprintfS singleArgMaxLen arg with
    | none =>
      -- The loop ends here: nothing is counted, and the argument is too long.
      have hlong : ¬ arg.utf8ByteSize < singleArgMaxLen := fun h => by
        rw [sprintfS_eq_some_iff.mpr ⟨h, rfl⟩] at hfits
        cases hfits
      simp [List.take_replicate, hlong]
    | some value =>
      have hshort := (sprintfS_eq_some_iff.mp hfits).1
      have hrest := ih hlen'
      simp only [Nat.add_sub_cancel] at hrest
      simp [countArgs, hrest, hshort]

/-- The table that `RawParam::Init` builds from the arguments and the parent's pid. -/
private theorem argHead_init (strings : StringEx) (ppid : Int) (args : List String) :
    (ArgTable.init codec strings (setCmdArgs codec ppid args)).argHead =
      fillArgHead codec (argMaxCount + 1) (args.map codec.str8ToStr16) := by
  have hlen : (setCmdArgs codec ppid args).length ≥ argMinCount := by
    simp [setCmdArgs, argMinCount]
  rw [ArgTable.init, if_pos hlen]
  simp [setCmdArgs]

/-- The service counts and holds the arguments the client accepted exactly if each of
    them is shorter than `SINGLE_ARG_MAXLEN`. -/
theorem argTable_transfers_iff (strings : StringEx) (ppid : Int) (argv : List (Option String))
    (sent : List Str16) (hsent : clientMain codec ppid argv = some sent) :
    ((ArgTable.init codec strings sent).getArgc = argv.length ∧
      ∀ i < argv.length, (ArgTable.init codec strings sent).getArgv[i]? = argv[i]?) ↔
    ∀ arg, some arg ∈ argv → arg.utf8ByteSize < singleArgMaxLen := by
  obtain ⟨args, rfl, hcheck, rfl⟩ := (clientMain_eq_some_iff codec).mp hsent
  have hlen : args.length ≤ argMaxCount := by
    simp only [checkArgs, Bool.and_eq_true, decide_eq_true_eq] at hcheck
    exact hcheck.1
  have hargs : (∀ arg, some arg ∈ args.map some → arg.utf8ByteSize < singleArgMaxLen) ↔
      ∀ arg ∈ args, arg.utf8ByteSize < singleArgMaxLen := by simp
  have hcount := countArgs_fillArgHead_iff codec (Nat.lt_succ_of_le hlen)
  rw [hargs, ← hcount, getArgc, argHead_init, List.length_map]
  refine ⟨fun h => h.1, fun h => ⟨h, fun i hi => ?_⟩⟩
  -- All arguments counted means that none was too long, so the table is known.
  have hfill := fillArgHead_of_short codec (Nat.le_succ_of_le hlen) (hcount.mp h)
  rw [getArgv, argHead_init, hfill, List.getElem?_append_left (by simpa using hi)]

/-- Strings that travel as they are. -/
def plainCodec : Str16Codec String := ⟨id, id, fun _ => rfl⟩

/-- Two short arguments come through. -/
theorem argTable_transfers_iff_listAbilities :
    ∃ sent, clientMain plainCodec 1 [some "hidumper", some "-ls"] = some sent ∧
      (ArgTable.init plainCodec .simple sent).getArgc = 2 ∧
      ∀ i < 2, (ArgTable.init plainCodec .simple sent).getArgv[i]? =
        [some "hidumper", some "-ls"][i]? := by
  refine ⟨["hidumper", "-ls", "1"], by decide, ?_⟩
  have hshort : ∀ arg, some arg ∈ [some "hidumper", some "-ls"] →
      arg.utf8ByteSize < singleArgMaxLen := by
    intro arg harg
    simp only [List.mem_cons, Option.some.injEq, List.not_mem_nil, or_false] at harg
    rcases harg with rfl | rfl <;> decide
  exact (argTable_transfers_iff plainCodec .simple 1 [some "hidumper", some "-ls"] _
    (by decide)).mpr hshort

/-- An argument of `SINGLE_ARG_MAXLEN` bytes. -/
def longestArg : String := String.ofList (List.replicate 256 'a')

/-- The client accepts the longest argument, and the service counts one argument less. -/
theorem argTable_loses_longestArg :
    ∃ sent, clientMain plainCodec 1 [some "hidumper", some longestArg] = some sent ∧
      (ArgTable.init plainCodec .simple sent).getArgc = 1 := by
  refine ⟨["hidumper", longestArg, "1"], ?_, ?_⟩
  · decide +kernel
  · decide +kernel

end HiDumper.Spec
