import HiDumper.Spec.ConfigSections

/-!
# What each section handler contributes

The handlers of `ConfigUtils` share one state: the current processes, the list of
all processes and the flag for the system cluster. This module says what a
handler appends to the list of configurations, with the parents counted from its
own first entry, and which part of the shared state that depends on.

Key results:
* `getConfig_eq`: `GetConfig` appends entries that depend on the current processes only
* `contribution_runSection`: the entries of a section are those of its own processes
* `contribution_runSection_congr`: what the state held before the section plays no part
-/

namespace HiDumper.Spec

open HiDumper.Native HiDumper.Native.ConfigUtils Runs

/-! ## Entries and their parents -/

/-- The entry with its parent `n` positions further on. -/
def shift (n : Nat) (entry : ListedCfg) : ListedCfg :=
  { entry with parent := entry.parent.map (· + n) }

/-- The entry with its parent counted from position `n`. -/
def rebase (n : Nat) (entry : ListedCfg) : ListedCfg :=
  { entry with parent := entry.parent.map (· - n) }

/-- Moving entries and taking the distance off again gives the entries back. -/
private theorem rebase_shift (n : Nat) (entry : ListedCfg) : rebase n (shift n entry) = entry := by
  obtain ⟨cfg, parent⟩ := entry
  cases parent <;> simp [rebase, shift]

/-- Distances add up. -/
private theorem shift_shift (n m : Nat) (entry : ListedCfg) :
    shift n (shift m entry) = shift (n + m) entry := by
  obtain ⟨cfg, parent⟩ := entry
  cases parent
  · rfl
  · simp only [shift, Option.map_some]
    congr 2
    omega

/-- Where the list of a tree begins only moves its positions. -/
private theorem convertTreeToList_shift (tree : Forest DumpCfg) (nest base n : Nat)
    (parent : Option Nat) :
    convertTreeToList tree nest (n + base) (parent.map (· + n)) =
      (convertTreeToList tree nest base parent).map (shift n) := by
  induction tree generalizing nest base parent with
  | nil => rfl
  | cons cfg childs rest ihc ihr =>
    simp only [convertTreeToList]
    split
    · rfl
    · have hchilds : convertTreeToList childs (nest + 1) (n + base + 1) (some (n + base)) =
          (convertTreeToList childs (nest + 1) (base + 1) (some base)).map (shift n) := by
        rw [← ihc, Option.map_some, Nat.add_assoc, Nat.add_comm base n]
      rw [hchilds, List.length_map, List.map_cons, List.map_append, ← ihr]
      simp only [shift, Nat.add_assoc]

/-- The entries a handler appends in a state, with parents counted from the first one. -/
def contribution (handle : ConfigUtils → Option ConfigUtils) (st : ConfigUtils) :
    Option (List ListedCfg) :=
  (handle st).map fun st' =>
    (st'.dumpCfgs.drop st.dumpCfgs.length).map (rebase st.dumpCfgs.length)

/-- What a handler adds behind the entries there are is its contribution. -/
theorem contribution_of_append {handle : ConfigUtils → Option ConfigUtils} {st st' : ConfigUtils}
    {entries : List ListedCfg} (hrun : handle st = some st')
    (happend : st'.dumpCfgs = st.dumpCfgs ++ entries.map (shift st.dumpCfgs.length)) :
    contribution handle st = some entries := by
  unfold contribution
  rw [hrun, Option.map_some, happend, List.drop_left, List.map_map]
  congr 1
  exact (List.map_congr_left fun entry _ => rebase_shift _ entry).trans (List.map_id _)

/-! ## GetConfig -/

/-- What `GetConfig` reads of the state. -/
structure SameView (st st' : ConfigUtils) : Prop where
  cpuInfos : st.cpuInfos = st'.cpuInfos
  currentPidInfo : st.currentPidInfo = st'.currentPidInfo
  currentPidInfos : st.currentPidInfos = st'.currentPidInfos

section GetConfig

variable {table : ConfigData} {uid : Int} {st st' : ConfigUtils}

/-- The tree of a name depends on the processes and CPUs in view only. -/
private theorem getGroup_congr (h : SameView st st') (fuel : Nat) :
    getGroup table st uid fuel = getGroup table st' uid fuel := by
  induction fuel with
  | zero => rfl
  | succ fuel ih =>
    simp only [getGroup, getGroupAt, expansions, ih, h.cpuInfos, h.currentPidInfo,
      h.currentPidInfos]

/-- The entries `GetConfig` appends, the first one at position 0. -/
def entriesOf (table : ConfigData) (uid : Int) (st : ConfigUtils) (args : Option OptionArgs)
    (name : String) : List ListedCfg :=
  if startWith name ConfigData.configDumper_ then
    (getDumper table name args .none).2.map fun cfg => ⟨cfg, none⟩
  else if startWith name ConfigData.configGroup_ then
    match getGroup table st uid (groupFuel table) name args .none 0 with
    | some (_, tree) => convertTreeToList (setSection tree (getSectionName name)) 0 0 none
    | none => []
  else []

/-- The entries of a name depend on the processes and CPUs in view only. -/
theorem entriesOf_congr (h : SameView st st') (args : Option OptionArgs) (name : String) :
    entriesOf table uid st args name = entriesOf table uid st' args name := by
  unfold entriesOf
  rw [getGroup_congr h]

/-- Looking up a name adds the entries of the name, moved behind those there are. -/
theorem getConfig_eq (hacyclic : Layering.Acyclic (Includes table)) (st : ConfigUtils)
    (name : String) (args : Option OptionArgs) :
    getConfig table uid st name args = some { st with
      dumpCfgs := st.dumpCfgs ++
        (entriesOf table uid st args name).map (shift st.dumpCfgs.length) } := by
  unfold getConfig entriesOf
  split
  · simp only [List.map_map]
    rfl
  split
  · obtain ⟨⟨status, tree⟩, hrun⟩ := @exists_getGroup_of_acyclic table st uid hacyclic name args
      .none 0
    have hlist := convertTreeToList_shift (setSection tree (getSectionName name)) 0 0
      st.dumpCfgs.length none
    rw [Option.map_none, Nat.add_zero] at hlist
    rw [hrun]
    simp only [Option.bind_eq_bind, Option.bind_some, hlist]
  · rw [List.map_nil, List.append_nil]

/-- The entries of several calls of `GetConfig`. -/
def entriesOfAll (table : ConfigData) (uid : Int) (st : ConfigUtils) (args : Option OptionArgs) :
    List String → List ListedCfg
  | [] => []
  | name :: rest =>
    let first := entriesOf table uid st args name
    first ++ (entriesOfAll table uid st args rest).map (shift first.length)

theorem entriesOfAll_congr (h : SameView st st') (args : Option OptionArgs)
    (names : List String) :
    entriesOfAll table uid st args names = entriesOfAll table uid st' args names := by
  induction names with
  | nil => rfl
  | cons name rest ih => simp only [entriesOfAll, entriesOf_congr h, ih]

/-- Looking up several names adds their entries in order. -/
theorem getConfigs_eq (hacyclic : Layering.Acyclic (Includes table)) (names : List String)
    (args : Option OptionArgs) (st : ConfigUtils) :
    getConfigs table uid names args st = some { st with
      dumpCfgs := st.dumpCfgs ++
        (entriesOfAll table uid st args names).map (shift st.dumpCfgs.length) } := by
  induction names generalizing st with
  | nil => simp [getConfigs, entriesOfAll]
  | cons name rest ih =>
    have hview : SameView { st with dumpCfgs := st.dumpCfgs ++
        (entriesOf table uid st args name).map (shift st.dumpCfgs.length) } st := ⟨rfl, rfl, rfl⟩
    have hrest := ih { st with dumpCfgs := st.dumpCfgs ++
      (entriesOf table uid st args name).map (shift st.dumpCfgs.length) }
    unfold getConfigs at hrest ⊢
    rw [List.foldlM_cons, getConfig_eq hacyclic, Option.bind_eq_bind, Option.bind_some, hrest,
      entriesOfAll_congr hview]
    simp [entriesOfAll, shift_shift, Function.comp_def]

end GetConfig

/-! ## Handlers -/

/-- What all handlers read of the state at their start. -/
structure SameStart (st st' : ConfigUtils) : Prop where
  cpuInfos : st.cpuInfos = st'.cpuInfos
  isDumpSystemSystem : st.isDumpSystemSystem = st'.isDumpSystemSystem

theorem SameStart.symm {st st' : ConfigUtils} (h : SameStart st st') : SameStart st' st :=
  ⟨h.cpuInfos.symm, h.isDumpSystemSystem.symm⟩

/-- After the reset, `choose` sets the current processes without regard to the
    rest of the state. -/
def ChoosesAfresh (choose : ConfigUtils → ConfigUtils) : Prop :=
  ChoosesOnly choose ∧ ∀ {st st' : ConfigUtils}, st.cpuInfos = st'.cpuInfos →
    SameView (choose st.resetCurrent) (choose st'.resetCurrent)

theorem choosesAfresh_id : ChoosesAfresh id :=
  ⟨choosesOnly_id, fun hcpu => ⟨hcpu, rfl, rfl⟩⟩

/-- What `MergePidInfos` chooses does not depend on what was chosen before. -/
theorem choosesAfresh_mergePidInfos (sys : System) (pid : Int) :
    ChoosesAfresh (mergePidInfos sys pid) := by
  refine ⟨choosesOnly_mergePidInfos pid, fun {st st'} hcpu => ?_⟩
  unfold mergePidInfos
  split
  · exact ⟨hcpu, rfl, rfl⟩
  · exact ⟨hcpu, rfl, rfl⟩

section Handlers

variable {table : ConfigData} {uid : Int} {st st' : ConfigUtils}
  {choose : ConfigUtils → ConfigUtils}

/-- A section that is selected adds the entries of its names, for what it has chosen. -/
theorem runSection_eq (hacyclic : Layering.Acyclic (Includes table))
    (hchoose : ChoosesOnly choose) (selected : Bool) (names : List String)
    (args : Option OptionArgs) (st : ConfigUtils) :
    runSection table uid selected choose names args st =
      some (if selected then { (choose st.resetCurrent).resetCurrent with
        dumpCfgs := st.dumpCfgs ++ (entriesOfAll table uid (choose st.resetCurrent) args names).map
          (shift st.dumpCfgs.length) }
      else st) := by
  have hcfgs : (choose st.resetCurrent).dumpCfgs = st.dumpCfgs := (hchoose _).2.1
  cases selected
  · rfl
  · simp only [runSection, if_true, getConfigs_eq hacyclic, Option.map_some, resetCurrent] at hcfgs ⊢
    rw [hcfgs]

theorem contribution_runSection (hacyclic : Layering.Acyclic (Includes table))
    (hchoose : ChoosesOnly choose) (selected : ConfigUtils → Bool) (names : List String)
    (args : Option OptionArgs) (st : ConfigUtils) :
    contribution (fun st => runSection table uid (selected st) choose names args st) st =
      some (if selected st then entriesOfAll table uid (choose st.resetCurrent) args names
        else []) := by
  refine contribution_of_append (runSection_eq hacyclic hchoose _ names args st) ?_
  split
  · rfl
  · simp

/-- Two states that a section starts from alike get the same contribution. -/
theorem contribution_runSection_congr (hacyclic : Layering.Acyclic (Includes table))
    (hchoose : ChoosesAfresh choose) {selected : ConfigUtils → Bool}
    (hselected : selected st = selected st') (h : SameStart st st') (names : List String)
    (args : Option OptionArgs) :
    contribution (fun st => runSection table uid (selected st) choose names args st) st =
      contribution (fun st => runSection table uid (selected st) choose names args st) st' := by
  rw [contribution_runSection hacyclic hchoose.1, contribution_runSection hacyclic hchoose.1,
    hselected, entriesOfAll_congr (hchoose.2 h.cpuInfos)]

/-- A dumper that is asked for without any process depends on nothing. -/
theorem contribution_dumper (hacyclic : Layering.Acyclic (Includes table)) {name : String}
    (hname : startWith name ConfigData.configDumper_ = true) (skip : Bool) (st : ConfigUtils) :
    contribution (fun st => if skip then some st else getConfig table uid st name none) st =
      some (if skip then [] else (getDumper table name none .none).2.map fun cfg => ⟨cfg, none⟩) := by
  cases skip
  · refine contribution_of_append (getConfig_eq hacyclic st name none) ?_
    simp only [entriesOf, hname, if_true, Bool.false_eq_true, if_false]
  · exact contribution_of_append rfl (by simp)

end Handlers

end HiDumper.Spec
