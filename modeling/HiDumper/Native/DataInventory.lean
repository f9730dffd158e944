import HiDumper.Native.TaskStruct

/-!
# DataInventory

Model of `data_inventory/data_inventory.{h,cpp}`. The inventory holds values of
an arbitrary type `V` (the `shared_ptr` payloads). Each operation that takes
`rwMutex_` exclusively is one atomic step, an `InventoryOp`; reads do not
change the inventory and are not steps.
-/

namespace HiDumper.Native

/-- `data_`: the values injected so far, by id. -/
abbrev DataInventory (V : Type) := UnorderedMap DataId V

namespace DataInventory

variable {V : Type}

/-- `DataInventory::GetPtr`. -/
def getPtr (inventory : DataInventory V) (dataId : DataId) : Option V :=
  inventory.lookup dataId

/-- `DataInventory::InputToData`: an `emplace`; `true` when the id was absent.
    `Inject` always passes a container it has just made, so the null check of
    the source never fires. -/
def inputToData (inventory : DataInventory V) (dataId : DataId) (value : V) :
    Bool × DataInventory V :=
  (decide (dataId ∉ inventory), inventory.emplace dataId value)

/-- `DataInventory::RemoveRestData`: the removed ids and the remaining data. -/
def removeRestData (inventory : DataInventory V) (keepingDataType : List DataId) :
    List DataId × DataInventory V :=
  (inventory.keys.filter (fun d => !keepingDataType.contains d),
    inventory.filterEntries (fun d _ => keepingDataType.contains d))

end DataInventory

/-- The atomic steps that change an inventory: the locked part of `Inject` and
    `RemoveRestData`. The unlocked existence check of `Inject` only decides
    whether its `inputToData` step is taken at all. -/
inductive InventoryOp (V : Type) where
  | inputToData (dataId : DataId) (value : V)
  | removeRestData (keepingDataType : List DataId)

/-- Effect of one atomic step. -/
def InventoryOp.apply {V : Type} (inventory : DataInventory V) : InventoryOp V → DataInventory V
  | .inputToData dataId value => (inventory.inputToData dataId value).2
  | .removeRestData keepingDataType => (inventory.removeRestData keepingDataType).2

end HiDumper.Native
