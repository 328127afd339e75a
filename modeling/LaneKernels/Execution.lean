import LaneKernels.Fault
import LaneKernels.Instruction
import LaneKernels.Memory

/-!
Running code on a machine that has memory and remembers what it did.

* `Operands` are the addresses of two inputs and an output and the number of elements.
* The machine records an `Event` for each test of a loop, each step of an index, and each access to memory
  with the elements that it touches.
* `load` and `store` move a word between memory and the machine; a crash leaves memory as it is then.
-/

namespace LaneKernels

/-- The arrays that a kernel works on. -/
inductive Operand where
  | a
  | b
  | c
  deriving DecidableEq, Repr

/-- Where the arrays of a kernel are, and how many elements it combines. -/
structure Operands where
  a : Nat
  b : Nat
  c : Nat
  len : Nat
  deriving DecidableEq, Repr

/-- The address of an array. -/
def Operands.base (operands : Operands) : Operand → Nat
  | .a => operands.a
  | .b => operands.b
  | .c => operands.c

/-- An access to some elements of an array. -/
structure Access where
  direction : Direction
  operand : Operand
  /-- The first element. -/
  index : Nat
  /-- The number of elements. -/
  count : Nat
  address : Nat
  /-- Whether the access asks for an address that is a multiple of the register's bytes. -/
  aligned : Bool
  deriving DecidableEq, Repr

/-- What a machine did. -/
inductive Event where
  /-- A loop compared a value with the number of elements. -/
  | tested (value : Nat)
  /-- The index of a loop was set to a value. -/
  | advanced (value : Nat)
  | accessed (access : Access)
  /-- The register file was released. -/
  | released
  deriving DecidableEq, Repr

/-- Memory, and what was done so far. -/
structure Machine where
  memory : Memory
  events : Array Event
  deriving Repr

/-- Code that runs on a machine and may crash. -/
abbrev Execution := EStateM Crash Machine

namespace Execution

/-- Records an event. -/
def record (event : Event) : Execution Unit :=
  modify fun machine => { machine with events := machine.events.push event }

/-- Goes on with a value, or crashes. -/
def ofExcept {α : Type} : Except Crash α → Execution α
  | .ok value => pure value
  | .error crash => throw crash

/-- Loads a word of some bytes. -/
def load (bytes : Nat) (access : Access) : Execution (BitVec (8 * bytes)) := do
  record (.accessed access)
  return (← get).memory.load access.address bytes

/-- Stores a word of some bytes. -/
def store (bytes : Nat) (access : Access) (word : BitVec (8 * bytes)) : Execution Unit := do
  record (.accessed access)
  modify fun machine => { machine with memory := machine.memory.store access.address bytes word }

end Execution

/-- Whether an address is a multiple of an alignment; no address is one of zero. -/
def isAligned (address alignment : Nat) : Except Crash Bool :=
  if alignment = 0 then .error .remainderByZero else .ok (address % alignment = 0)

/-- Elements of some bytes in one register of a tier; elements of no bytes cannot be counted. -/
def Tier.lanesOf (tier : Tier) (elementBytes : Nat) : Except Crash Nat :=
  if elementBytes = 0 then .error .divisionByZero else .ok (tier.alignment / elementBytes)

end LaneKernels
