import LaneKernels.Execution

/-!
The kernels: what the generated functions do on a machine.

* `defaultKernel` combines one element after the other.
* `Routine.kernel?` is an accelerated kernel. It probes the alignment of each array once, then combines
  whole registers as long as one fits, then the elements that are left, and releases the registers if its
  tier asks for that. It runs the same routine that the text is written from.
-/

namespace LaneKernels

/-- A function that combines two arrays into a third. -/
abbrev Kernel := Operands → Execution Unit

/-- The access to some elements of an array from an index on. -/
def accessAt (type : ElementType) (operands : Operands) (direction : Direction) (operand : Operand)
    (index count : Nat) (aligned : Bool) : Access :=
  ⟨direction, operand, index, count, operands.base operand + type.bytes * index, aligned⟩

/-- Combines the elements at an index. -/
def combineElement (op : ArithOp) (type : ElementType) (live : type.reserved = false)
    (operands : Operands) (index : Nat) : Execution Unit := do
  let access (direction : Direction) (operand : Operand) : Access :=
    accessAt type operands direction operand index 1 false
  let x ← Execution.load type.bytes (access .load .a)
  let y ← Execution.load type.bytes (access .load .b)
  let value ← Execution.ofExcept (type.combine live op x y)
  Execution.store type.bytes (access .store .c) value

/-- The kernel that combines one element after the other. -/
def defaultKernel (op : ArithOp) (type : ElementType) (live : type.reserved = false) : Kernel :=
  fun operands => (List.range operands.len).forM (combineElement op type live operands)

/-- Which arrays start at a multiple of the register's bytes. -/
structure Alignment where
  a : Bool
  b : Bool
  c : Bool
  deriving DecidableEq, Repr

namespace Routine

/-- Probes the alignment of the arrays. -/
def probe (routine : Routine) (operands : Operands) : Execution Alignment := do
  let isAligned (address : Nat) : Execution Bool :=
    Execution.ofExcept (isAligned address routine.tier.alignment)
  return ⟨← isAligned operands.a, ← isAligned operands.b, ← isAligned operands.c⟩

/-- Combines the registers at an index. -/
def combineRegisters (routine : Routine) (code : RegisterCode) (operands : Operands)
    (alignment : Alignment) (index : Nat) : Execution Unit := do
  let bytes := routine.tier.registerBytes
  let access (direction : Direction) (operand : Operand) (aligned : Bool) : Access :=
    accessAt routine.type operands direction operand index routine.stride aligned
  let x ← Execution.load bytes
    (access .load .a (if alignment.a then code.alignedLoad else code.unalignedLoad))
  let y ← Execution.load bytes
    (access .load .b (if alignment.b then code.alignedLoad else code.unalignedLoad))
  Execution.store bytes
    (access .store .c (if alignment.c then code.alignedStore else code.unalignedStore))
    (code.compute.apply x y)

/-- Runs the loop over whole registers from an index on; the answer is the index where it stops. -/
def mainLoop (routine : Routine) (code : RegisterCode) (operands : Operands) (alignment : Alignment)
    (index : Nat) : Execution Nat := do
  Execution.record (.tested (index + routine.lastLane))
  if index + routine.lastLane < operands.len then
    routine.combineRegisters code operands alignment index
    Execution.record (.advanced (index + routine.stride))
    routine.mainLoop code operands alignment (index + routine.stride)
  else
    return index
termination_by operands.len - index
decreasing_by
  simp only [stride]
  omega

/-- Runs the loop over single elements from an index on; the answer is the index where it stops. -/
def tailLoop (routine : Routine) (live : routine.type.reserved = false) (operands : Operands)
    (index : Nat) : Execution Nat := do
  Execution.record (.tested index)
  if index < operands.len then
    combineElement routine.op routine.type live operands index
    Execution.record (.advanced (index + 1))
    routine.tailLoop live operands (index + 1)
  else
    return index
termination_by operands.len - index

/-- The accelerated kernel of a routine whose callables are known. -/
def kernel (routine : Routine) (live : routine.type.reserved = false) (code : RegisterCode) :
    Kernel := fun operands => do
  let alignment ← routine.probe operands
  let index ← routine.mainLoop code operands alignment 0
  let _ ← routine.tailLoop live operands index
  if routine.tier.release?.isSome then
    Execution.record .released

/-- The accelerated kernel of a routine, if its type is not reserved and its callables are known. -/
def kernel? (routine : Routine) : Option Kernel :=
  if live : routine.type.reserved = false then routine.code?.map (routine.kernel live) else none

end Routine

end LaneKernels
