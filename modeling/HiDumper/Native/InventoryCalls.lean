import HiDumper.ForStd.Runs
import HiDumper.Native.DataInventory

/-!
# Concurrent calls on a DataInventory

`Inject`, `GetPtr` and `RemoveRestData` of `data_inventory/data_inventory.{h,cpp}` as
calls of any number of threads. A step is what a call does under one acquisition of
`rwMutex_`: `Inject` looks for the id in one critical section and emplaces its value in
another, the other two take the lock once. `pending` holds the `Inject` calls between
their two steps. Every step reports what its call has returned, if it has.
-/

namespace HiDumper.Native

/-- An inventory with the `Inject` calls that have passed their check, by call. -/
structure InventoryCalls (V : Type) where
  data : DataInventory V := ∅
  pending : UnorderedMap Nat (DataId × V) := ∅

/-- The steps of the calls. -/
inductive InventoryAction (V : Type) where
  /-- `Inject` up to its look for the id; a null pointer is `none`. -/
  | check (call : Nat) (dataId : DataId) (ptr : Option V)
  /-- `InputToData`, the rest of `Inject`. -/
  | emplace (call : Nat)
  | getPtr (dataId : DataId)
  | removeRestData (keepingDataType : List DataId)

/-- What a step reports. -/
inductive InventoryEvent (V : Type) where
  | checkPassed (call : Nat) (dataId : DataId) (value : V)
  | injectReturned (call : Nat) (dataId : DataId) (ptr : Option V) (result : Bool)
  | gotPtr (dataId : DataId) (result : Option V)
  | removedRest (keepingDataType : List DataId) (removedTypes : List DataId)

namespace InventoryCalls

variable {V : Type}

def step (s : InventoryCalls V) :
    InventoryAction V → Option (InventoryEvent V × InventoryCalls V)
  | .check call dataId ptr =>
    if call ∈ s.pending then none
    else
      match ptr with
      | none => some (.injectReturned call dataId none false, s)
      | some value =>
        if (s.data.getPtr dataId).isSome then
          some (.injectReturned call dataId (some value) false, s)
        else
          some (.checkPassed call dataId value,
            { s with pending := s.pending.insert call (dataId, value) })
  | .emplace call =>
    match s.pending.lookup call with
    | none => none
    | some (dataId, value) =>
      let ret := s.data.inputToData dataId value
      some (.injectReturned call dataId (some value) ret.1, ⟨ret.2, s.pending.erase call⟩)
  | .getPtr dataId => some (.gotPtr dataId (s.data.getPtr dataId), s)
  | .removeRestData keepingDataType =>
    let ret := s.data.removeRestData keepingDataType
    some (.removedRest keepingDataType ret.1, { s with data := ret.2 })

end InventoryCalls

end HiDumper.Native
