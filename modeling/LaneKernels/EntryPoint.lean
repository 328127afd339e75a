import LaneKernels.Platform

/-!
The ways into a kernel.

* `raw` takes addresses and a number of elements, and promises nothing about them.
* `slice` takes arrays with their lengths: the inputs must be of one length and the output no shorter.
* `array` takes three arrays of one size.
* `macroCall?` is what the macro of an operation expands to: `array` on arrays that stand somewhere. Arrays
  of different sizes are not of one type, so there is no such call.
-/

namespace LaneKernels.EntryPoint

/-- An array in memory with its number of elements. -/
structure Slice where
  address : Nat
  length : Nat
  deriving DecidableEq, Repr

variable (platform : Platform) (op : ArithOp) (type : ElementType) (live : type.reserved = false)

/-- Combines a number of elements. -/
def raw : Kernel :=
  platform.kernel op type live

/-- Combines two arrays of one length into one that is no shorter. -/
def slice (a b c : Slice) : Execution Unit := do
  if a.length ≠ b.length then
    throw (.lengthsDiffer op a.length b.length)
  if c.length < a.length then
    throw (.outputTooShort op)
  raw platform op type live ⟨a.address, b.address, c.address, a.length⟩

/-- Combines two arrays into a third, all of one size. -/
def array (size a b c : Nat) : Execution Unit :=
  platform.kernel op type live ⟨a, b, c, size⟩

/-- The call of the macro of the operation on three arrays. -/
def macroCall? (a b c : Slice) : Option (Execution Unit) :=
  if a.length = b.length ∧ b.length = c.length then
    some (array platform op type live a.length a.address b.address c.address)
  else none

end LaneKernels.EntryPoint
