import LaneKernels.Binding
import LaneKernels.Capabilities

/-!
The partial table from tier, slot and type to the callable that fills the slot, with the register type
that holds the operands.

* A table is its two look-ups (`binding?`, `register?`); `bind`, `unbind` and `setRegister` change one
  place each and leave the others (`binding?_bind`, `binding?_unbind`, `register?_setRegister`).
* `check` walks the supported cells of a matrix and reports the first defect: a type wider than the
  register, no register type, no computation, or an empty memory slot.
* `size` counts the bindings; register types do not count.
-/

namespace LaneKernels

/-- The callables that are bound, and the register types. -/
@[ext] structure BindingTable where
  /-- The callable in a slot, if one is bound. -/
  binding? : Tier → Slot → ElementType → Option Binding
  /-- The register type of a tier for a type, if one is set. -/
  register? : Tier → ElementType → Option String

namespace BindingTable

/-- The table in which nothing is bound. -/
def empty : BindingTable :=
  ⟨fun _ _ _ => none, fun _ _ => none⟩

/-- The table with what a slot holds replaced. -/
def setSlot (table : BindingTable) (tier : Tier) (slot : Slot) (type : ElementType)
    (value : Option Binding) : BindingTable :=
  { table with
    binding? := fun r s t => if r = tier ∧ s = slot ∧ t = type then value else table.binding? r s t }

/-- The table with a callable bound to a slot. -/
def bind (table : BindingTable) (tier : Tier) (slot : Slot) (type : ElementType)
    (binding : Binding) : BindingTable :=
  table.setSlot tier slot type (some binding)

/-- The table with a slot left empty. -/
def unbind (table : BindingTable) (tier : Tier) (slot : Slot) (type : ElementType) : BindingTable :=
  table.setSlot tier slot type none

/-- The table with a register type set. -/
def setRegister (table : BindingTable) (tier : Tier) (type : ElementType) (register : String) :
    BindingTable :=
  { table with
    register? := fun r t => if r = tier ∧ t = type then some register else table.register? r t }

@[simp] theorem binding?_bind (table : BindingTable) (tier r : Tier) (slot s : Slot)
    (type t : ElementType) (binding : Binding) :
    (table.bind tier slot type binding).binding? r s t =
      if r = tier ∧ s = slot ∧ t = type then some binding else table.binding? r s t := rfl

@[simp] theorem binding?_unbind (table : BindingTable) (tier r : Tier) (slot s : Slot)
    (type t : ElementType) :
    (table.unbind tier slot type).binding? r s t =
      if r = tier ∧ s = slot ∧ t = type then none else table.binding? r s t := rfl

@[simp] theorem register?_bind (table : BindingTable) (tier r : Tier) (slot : Slot)
    (type t : ElementType) (binding : Binding) :
    (table.bind tier slot type binding).register? r t = table.register? r t := rfl

@[simp] theorem register?_unbind (table : BindingTable) (tier r : Tier) (slot : Slot)
    (type t : ElementType) : (table.unbind tier slot type).register? r t = table.register? r t := rfl

@[simp] theorem binding?_setRegister (table : BindingTable) (tier r : Tier) (s : Slot)
    (type t : ElementType) (register : String) :
    (table.setRegister tier type register).binding? r s t = table.binding? r s t := rfl

@[simp] theorem register?_setRegister (table : BindingTable) (tier r : Tier) (type t : ElementType)
    (register : String) :
    (table.setRegister tier type register).register? r t =
      if r = tier ∧ t = type then some register else table.register? r t := rfl

/-- The callable in a slot; an empty slot is a defect. -/
def binding (table : BindingTable) (tier : Tier) (slot : Slot) (type : ElementType) :
    Except Fault Binding :=
  match table.binding? tier slot type with
  | some binding => .ok binding
  | none => .error (.missingBinding tier slot type)

/-- The register type of a tier for a type; its absence is a defect. -/
def register (table : BindingTable) (tier : Tier) (type : ElementType) : Except Fault String :=
  match table.register? tier type with
  | some register => .ok register
  | none => .error (.missingRegister tier type)

/-- Every place for a callable. -/
def places : List (Tier × Slot × ElementType) :=
  Tier.all.flatMap fun tier => Slot.all.flatMap fun slot => ElementType.all.map fun type =>
    (tier, slot, type)

/-- How many slots hold a callable. -/
def size (table : BindingTable) : Nat :=
  places.countP fun (tier, slot, type) => (table.binding? tier slot type).isSome

/-- Whether no slot holds a callable. -/
def isEmpty (table : BindingTable) : Bool :=
  table.size = 0

/-- Asks that the table has what the kernel for one cell needs. -/
def checkCell (table : BindingTable) (cell : Capabilities.Cell) : Except Fault Unit := do
  if cell.tier.lanes cell.type = 0 then
    throw (.typeTooWide cell.tier cell.type)
  let _ ← table.register cell.tier cell.type
  let _ ← table.binding cell.tier (.compute cell.op) cell.type
  Slot.memory.forM fun slot => do
    let _ ← table.binding cell.tier slot cell.type

/-- Asks that the table has what every supported cell needs, and reports the first defect. -/
def check (table : BindingTable) (caps : Capabilities) : Except Fault Unit :=
  caps.cells.forM table.checkCell

end BindingTable

end LaneKernels
