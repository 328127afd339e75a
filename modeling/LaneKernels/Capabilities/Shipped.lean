import LaneKernels.Capabilities

/-!
The shipped matrix of the x86 vector extensions.

Packed integers of 64 bits are added and subtracted on the narrowest tier, with a low multiply for 16
bits; single precision comes with `sse`, integers and double precision with `sse2`, both float widths
with `avx`, and 256-bit integers with `avx2`. No tier divides integers or touches a reserved type
(`shipped_supports`). Every pair has its row, so the matrix can be built (`ofRows_shippedRows`).
-/

namespace LaneKernels.Capabilities

/-- The types that the shipped tiers accelerate, by tier and operation. -/
def shippedTypes : Tier → ArithOp → List ElementType
  | .mmx, .add | .mmx, .sub => ElementType.integersUpTo 32
  | .mmx, .mul => [.int16, .uint16]
  | .mmx, .div => []
  | .sse, _ => [.float32]
  | .sse2, .add | .sse2, .sub => ElementType.integersUpTo 64 ++ [.float64]
  | .sse2, .mul => [.int16, .uint16, .float64]
  | .sse2, .div => [.float64]
  | .avx, _ => [.float32, .float64]
  | .avx2, .add | .avx2, .sub => ElementType.integersUpTo 64
  | .avx2, .mul => [.int16, .int32, .uint16, .uint32]
  | .avx2, .div => []

/-- The shipped rows, one for each tier and operation. -/
def shippedRows : List Row :=
  pairs.map fun (tier, op) => ⟨tier, op, (shippedTypes tier op).contains⟩

/-- The shipped matrix. -/
def shipped : Capabilities :=
  ofLastRows shippedRows

theorem ofRows_shippedRows : ofRows shippedRows = .ok shipped := by
  have h : (Sheet.ofRows shippedRows).missingPair? = Option.none := by decide
  simp only [ofRows, h, Sheet.answers_ofRows, shipped]

/-- A supported cell of the shipped matrix is of no reserved type, and it divides only floats. -/
theorem shipped_supports {tier : Tier} {op : ArithOp} {type : ElementType}
    (h : shipped.supports tier op type = true) :
    type.reserved = false ∧ (op = .div → type.isFloat = true) := by
  revert h
  cases tier <;> cases op <;> cases type <;> decide

end LaneKernels.Capabilities
