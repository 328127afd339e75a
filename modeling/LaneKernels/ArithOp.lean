import LaneKernels.ElementType

/-!
The four elementwise operations and the names that generated text gives them.

* `all` lists them in declaration order (`mem_all`).
* `elementExpression` spells one element's value: an operator between floats, a wrapping method between
  integers, which is the modular arithmetic of the vector units.
-/

namespace LaneKernels

/-- The elementwise binary operations. -/
inductive ArithOp where
  | add
  | sub
  | mul
  | div
  deriving DecidableEq, Repr

namespace ArithOp

/-- Every operation, in declaration order. -/
def all : List ArithOp :=
  [add, sub, mul, div]

@[simp] theorem mem_all (op : ArithOp) : op ∈ all := by
  cases op <;> decide

/-- The place of an operation in declaration order. -/
def index (op : ArithOp) : Nat :=
  all.idxOf op

/-- The name, which is also the first part of a kernel's name. -/
def name : ArithOp → String
  | add => "add"
  | sub => "sub"
  | mul => "mul"
  | div => "div"

/-- The generated trait with the operation's entry points. -/
def traitName : ArithOp → String
  | add => "SimdAdd"
  | sub => "SimdSub"
  | mul => "SimdMul"
  | div => "SimdDiv"

/-- The generated convenience macro. -/
def macroName : ArithOp → String
  | add => "simd_add"
  | sub => "simd_sub"
  | mul => "simd_mul"
  | div => "simd_div"

/-- The operator written between floats. -/
def symbol : ArithOp → String
  | add => "+"
  | sub => "-"
  | mul => "*"
  | div => "/"

/-- The method called on integers. -/
def wrappingMethod : ArithOp → String
  | add => "wrapping_add"
  | sub => "wrapping_sub"
  | mul => "wrapping_mul"
  | div => "wrapping_div"

/-- The expression for one element, given the expressions of its two operands. -/
def elementExpression (op : ArithOp) (type : ElementType) (lhs rhs : String) : String :=
  if type.isFloat then s!"{lhs} {op.symbol} {rhs}"
  else s!"({lhs}).{op.wrappingMethod}({rhs})"

end ArithOp

end LaneKernels
