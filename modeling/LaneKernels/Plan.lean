import LaneKernels.BindingTable
import LaneKernels.Log.Record
import LaneKernels.TierSet

/-!
The plan of a generated library: which kernels it has, and what each accelerated one is made of.

* A `Recipe` is what a plan is made from: the matrix, the table and the selected tiers.
* A `Routine` is one accelerated kernel with its register type, its callables and its stride. The stride is
  stored as the last lane, one less, which a register without a whole lane does not have.
* A `Cell` is one operation on one type with its routines, narrowest tier first (`acceleratedTiers`), and a
  `Chapter` is an operation with its cells.
* Planning looks everything up in the table and writes a log; it ends at the first gap.
-/

namespace LaneKernels

/-- What a library is generated from. -/
structure Recipe where
  capabilities : Capabilities
  table : BindingTable
  tiers : TierSet

/-- One accelerated kernel. -/
structure Routine where
  op : ArithOp
  type : ElementType
  tier : Tier
  register : String
  alignedLoad : Binding
  unalignedLoad : Binding
  compute : Binding
  alignedStore : Binding
  unalignedStore : Binding
  lastLane : Nat
  deriving DecidableEq, Repr

/-- Elements that one step of the main loop combines. -/
def Routine.stride (routine : Routine) : Nat :=
  routine.lastLane + 1

/-- One operation on one type, with its accelerated kernels. -/
structure Cell where
  op : ArithOp
  type : ElementType
  routines : List Routine
  deriving DecidableEq, Repr

/-- One operation, with a cell for each type. -/
structure Chapter where
  op : ArithOp
  cells : List Cell
  deriving DecidableEq, Repr

/-- The first part of the names of the kernels for an operation on a type. -/
def kernelName (op : ArithOp) (type : ElementType) : String :=
  s!"{op.name}_{type.shortName}"

/-- The name of the scalar kernel. -/
def defaultName (op : ArithOp) (type : ElementType) : String :=
  s!"{kernelName op type}_default"

/-- The name of the list of accelerated kernels. -/
def variantsName (op : ArithOp) (type : ElementType) : String :=
  s!"{kernelName op type}_variants"

/-- The name of the kernel for arrays. -/
def arrayName (op : ArithOp) (type : ElementType) : String :=
  s!"{kernelName op type}_array"

/-- The name of the kernel of a tier. -/
def routineName (op : ArithOp) (type : ElementType) (tier : Tier) : String :=
  s!"{kernelName op type}_{tier.name}"

/-- The name of a routine. -/
def Routine.name (routine : Routine) : String :=
  routineName routine.op routine.type routine.tier

/-! ### Planning -/

/-- Planning with a log, which may end early. -/
abbrev Planning := EStateM Stop (Array Log.Record)

namespace Planning

/-- Adds a record of the generator to the log. -/
def log (level : Log.Level) (message : String) : Planning Unit :=
  modify (·.push ⟨level, "lanewise_gen::emit", message⟩)

/-- Ends planning with a defect that was found. -/
def ofExcept {α : Type} : Except Fault α → Planning α
  | .ok value => pure value
  | .error fault => throw (.fault fault)

/-- The last of some lanes; without a lane there is none. -/
def lastOf : Nat → Planning Nat
  | 0 => throw (.crash .subtractionOverflow)
  | n + 1 => pure n

end Planning

namespace Recipe

/-- The tiers that get an accelerated kernel for an operation on a type, narrowest first. -/
def acceleratedTiers (recipe : Recipe) (op : ArithOp) (type : ElementType) : List Tier :=
  (recipe.capabilities.tiersFor op type).filter recipe.tiers.contains

/-- Plans the accelerated kernel of a tier. -/
def planRoutine (recipe : Recipe) (op : ArithOp) (type : ElementType) (tier : Tier) :
    Planning Routine := do
  let binding (slot : Slot) : Planning Binding := .ofExcept (recipe.table.binding tier slot type)
  let register ← .ofExcept (recipe.table.register tier type)
  let alignedLoad ← binding .alignedLoad
  let unalignedLoad ← binding .unalignedLoad
  let compute ← binding (.compute op)
  let alignedStore ← binding .alignedStore
  let unalignedStore ← binding .unalignedStore
  let lanes := tier.lanes type
  Planning.log .trace s!"  {routineName op type tier}: {lanes} lanes of {register}"
  let lastLane ← Planning.lastOf lanes
  return ⟨op, type, tier, register, alignedLoad, unalignedLoad, compute, alignedStore,
    unalignedStore, lastLane⟩

/-- Plans the kernels for an operation on a type. -/
def planCell (recipe : Recipe) (op : ArithOp) (type : ElementType) : Planning Cell := do
  Planning.log .debug s!"emitting {op.name}/{type.shortName}"
  Planning.log .trace s!"  {defaultName op type}"
  return ⟨op, type, ← (recipe.acceleratedTiers op type).mapM (recipe.planRoutine op type)⟩

/-- Plans the kernels for an operation. -/
def planChapter (recipe : Recipe) (op : ArithOp) : Planning Chapter := do
  return ⟨op, ← ElementType.emitted.mapM (recipe.planCell op)⟩

/-- Plans all kernels. -/
def plan (recipe : Recipe) : Planning (List Chapter) :=
  ArithOp.all.mapM recipe.planChapter

end Recipe

end LaneKernels
