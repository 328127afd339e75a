import LaneKernels.Lanes
import LaneKernels.PackedWord
import LaneKernels.Plan
import LaneKernels.Scalar

/-!
What the callables of a routine do.

* A `Computation` combines two registers: by modular or float arithmetic lane by lane, or by the packed
  arithmetic of one word. A `Transfer` moves one register from or to memory and may ask for alignment.
* `Computation.named?` and `Transfer.named?` know the callables by their paths.
* `RegisterCode` is what the callables of a routine mean together; `Routine.code?` finds it when every path
  is known and moves or combines registers of the tier's width.
-/

namespace LaneKernels

/-- Integer arithmetic that is the same for signed and unsigned lanes. -/
inductive ModularOp where
  | add
  | sub
  | mul
  deriving DecidableEq, Repr

/-- The operation on two lanes. -/
def ModularOp.apply {width : Nat} : ModularOp → BitVec width → BitVec width → BitVec width
  | add, x, y => x + y
  | sub, x, y => x - y
  | mul, x, y => x * y

/-- How two registers are combined. -/
inductive Computation where
  /-- Modular arithmetic on lanes of some bytes. -/
  | modular (registerBytes : Nat) (op : ModularOp) (laneBytes : Nat)
  /-- Float arithmetic on lanes of one format. -/
  | floats (registerBytes : Nat) (op : ArithOp) (format : FloatFormat)
  /-- Packed addition in one word, with lanes of some bytes. -/
  | packedAdd (laneBytes : Nat)
  /-- Packed subtraction in one word, with lanes of some bytes. -/
  | packedSub (laneBytes : Nat)
  /-- Packed multiplication in one word, with lanes of two bytes. -/
  | packedMulLow
  deriving DecidableEq, Repr

namespace Computation

/-- Bytes of the registers that are combined. -/
def registerBytes : Computation → Nat
  | modular bytes _ _ => bytes
  | floats bytes _ _ => bytes
  | packedAdd _ | packedSub _ | packedMulLow => 8

/-- Applies an operation on words to registers. -/
def onWords {n : Nat} (combine : BitVec 64 → BitVec 64 → BitVec 64) (x y : BitVec n) : BitVec n :=
  (combine (x.setWidth 64) (y.setWidth 64)).setWidth n

/-- The packed addition with lanes of some bytes. -/
def packedAddition : Nat → BitVec 64 → BitVec 64 → BitVec 64
  | 1 => PackedWord.add8
  | 2 => PackedWord.add16
  | _ => PackedWord.add32

/-- The packed subtraction with lanes of some bytes. -/
def packedSubtraction : Nat → BitVec 64 → BitVec 64 → BitVec 64
  | 1 => PackedWord.sub8
  | 2 => PackedWord.sub16
  | _ => PackedWord.sub32

/-- Combines two registers. -/
def apply {n : Nat} : Computation → BitVec n → BitVec n → BitVec n
  | modular _ op laneBytes => Lanes.lanewise (8 * laneBytes) op.apply
  | floats _ op format => Lanes.lanewise format.bits (format.apply op)
  | packedAdd laneBytes => onWords (packedAddition laneBytes)
  | packedSub laneBytes => onWords (packedSubtraction laneBytes)
  | packedMulLow => onWords PackedWord.mulLow16

/-- The computations on registers of 16 and 32 bytes, whose paths start alike. -/
def vectorPaths (stem : String) (bytes : Nat) : List (String × Computation) :=
  ([1, 2, 4, 8].flatMap fun lane =>
    [(s!"{stem}_add_epi{8 * lane}", modular bytes .add lane),
      (s!"{stem}_sub_epi{8 * lane}", modular bytes .sub lane)]) ++
  ([2, 4].map fun lane => (s!"{stem}_mullo_epi{8 * lane}", modular bytes .mul lane)) ++
  (ArithOp.all.flatMap fun op =>
    [(s!"{stem}_{op.name}_ps", floats bytes op .single),
      (s!"{stem}_{op.name}_pd", floats bytes op .double)])

/-- The computations in one word. -/
def wordPaths : List (String × Computation) :=
  ([1, 2, 4].flatMap fun lane =>
    [(s!"crate::mm64::add_pi{8 * lane}", packedAdd lane),
      (s!"crate::mm64::sub_pi{8 * lane}", packedSub lane)]) ++
  [("crate::mm64::mullo_pi16", packedMulLow)]

/-- The computations that are known, by path. -/
def paths : List (String × Computation) :=
  wordPaths ++ vectorPaths "_mm" 16 ++ vectorPaths "_mm256" 32

/-- The computation at a path. -/
def named? (path : String) : Option Computation :=
  paths.lookup path

end Computation

/-- The way of a register between memory and the machine. -/
inductive Direction where
  | load
  | store
  deriving DecidableEq, Repr

/-- A callable that moves one register. -/
structure Transfer where
  direction : Direction
  registerBytes : Nat
  /-- Whether the address must be a multiple of the register's bytes. -/
  aligned : Bool
  deriving DecidableEq, Repr

namespace Transfer

/-- The four transfers of one kind of register. -/
def kindPaths (stem suffix : String) (bytes : Nat) : List (String × Transfer) :=
  [(s!"{stem}load{suffix}", ⟨.load, bytes, true⟩),
    (s!"{stem}loadu{suffix}", ⟨.load, bytes, false⟩),
    (s!"{stem}store{suffix}", ⟨.store, bytes, true⟩),
    (s!"{stem}storeu{suffix}", ⟨.store, bytes, false⟩)]

/-- The transfers that are known, by path. -/
def paths : List (String × Transfer) :=
  kindPaths "crate::mm64::" "" 8 ++
    kindPaths "_mm_" "_ps" 16 ++ kindPaths "_mm_" "_pd" 16 ++ kindPaths "_mm_" "_si128" 16 ++
    kindPaths "_mm256_" "_ps" 32 ++ kindPaths "_mm256_" "_pd" 32 ++
    kindPaths "_mm256_" "_si256" 32

/-- The transfer at a path. -/
def named? (path : String) : Option Transfer :=
  paths.lookup path

end Transfer

/-- What the callables of a routine do: which transfers ask for alignment, and the computation. -/
structure RegisterCode where
  /-- Whether the load for aligned addresses asks for alignment. -/
  alignedLoad : Bool
  /-- Whether the load for any address asks for alignment. -/
  unalignedLoad : Bool
  compute : Computation
  /-- Whether the store for aligned addresses asks for alignment. -/
  alignedStore : Bool
  /-- Whether the store for any address asks for alignment. -/
  unalignedStore : Bool
  deriving DecidableEq, Repr

namespace Routine

/-- Whether the transfer of a binding asks for alignment, if it moves the tier's registers in a direction. -/
def transfer? (routine : Routine) (direction : Direction) (binding : Binding) : Option Bool := do
  let transfer ← Transfer.named? binding.path
  if transfer.direction = direction ∧ transfer.registerBytes = routine.tier.registerBytes then
    some transfer.aligned
  else none

/-- The computation of a routine, if it combines the tier's registers. -/
def computation? (routine : Routine) : Option Computation := do
  let computation ← Computation.named? routine.compute.path
  if computation.registerBytes = routine.tier.registerBytes then some computation else none

/-- What the callables of a routine do, if they are known and fit its tier. -/
def code? (routine : Routine) : Option RegisterCode := do
  let alignedLoad ← routine.transfer? .load routine.alignedLoad
  let unalignedLoad ← routine.transfer? .load routine.unalignedLoad
  let compute ← routine.computation?
  let alignedStore ← routine.transfer? .store routine.alignedStore
  let unalignedStore ← routine.transfer? .store routine.unalignedStore
  return ⟨alignedLoad, unalignedLoad, compute, alignedStore, unalignedStore⟩

end Routine

end LaneKernels
