/-!
A callable bound to a slot, and how a call of it is spelled.

A binding is a path with the form in which it takes element pointers; loads and stores spell a cast to
a register pointer where they want one, and a computation takes register values whatever the form.
-/

namespace LaneKernels

/-- How a load or a store takes the pointer to its first element. -/
inductive PointerForm where
  /-- As it is. -/
  | element
  /-- Cast to a pointer to the register type. -/
  | register
  deriving DecidableEq, Repr

/-- The callable bound to a slot. -/
structure Binding where
  path : String
  pointer : PointerForm
  deriving DecidableEq, Repr

namespace Binding

/-- A binding for a computation, which takes no pointers. -/
def ofPath (path : String) : Binding :=
  ⟨path, .element⟩

/-- The pointer argument of a load or a store. -/
def pointerArgument (binding : Binding) (pointer register : String) : String :=
  match binding.pointer with
  | .element => pointer
  | .register => s!"{pointer}.cast::<{register}>()"

/-- The call that loads a register from a pointer. -/
def loadCall (binding : Binding) (pointer register : String) : String :=
  s!"{binding.path}({binding.pointerArgument pointer register})"

/-- The call that stores a register value to a pointer. -/
def storeCall (binding : Binding) (pointer register value : String) : String :=
  s!"{binding.path}({binding.pointerArgument pointer register}, {value})"

/-- The call that combines two register values. -/
def computeCall (binding : Binding) (lhs rhs : String) : String :=
  s!"{binding.path}({lhs}, {rhs})"

end Binding

end LaneKernels
