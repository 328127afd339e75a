import LaneKernels.Fault

/-!
Arithmetic on single elements, given and returned as bits.

* Integers wrap; a division by zero is a crash, and the smallest signed number divided by minus one is
  itself (`integer_intMin_div_neg_one`).
* Floats follow the machine's single and double precision (`FloatFormat.apply`).
* `ElementType.combine` is the operation of a type. Reserved types have none.
-/

namespace LaneKernels

/-- The two float formats that can be computed with. -/
inductive FloatFormat where
  | single
  | double
  deriving DecidableEq, Repr

namespace FloatFormat

/-- Bits of a number in the format. -/
def bits : FloatFormat → Nat
  | single => 32
  | double => 64

/-- An operation on two numbers in single precision. -/
def applySingle (op : ArithOp) (x y : Float32) : Float32 :=
  match op with
  | .add => x + y
  | .sub => x - y
  | .mul => x * y
  | .div => x / y

/-- An operation on two numbers in double precision. -/
def applyDouble (op : ArithOp) (x y : Float) : Float :=
  match op with
  | .add => x + y
  | .sub => x - y
  | .mul => x * y
  | .div => x / y

/-- An operation on the bits of two numbers. -/
def apply : (format : FloatFormat) → ArithOp → BitVec format.bits → BitVec format.bits →
    BitVec format.bits
  | single, op, x, y =>
    (applySingle op (Float32.ofBits ⟨x⟩) (Float32.ofBits ⟨y⟩)).toBits.toBitVec
  | double, op, x, y =>
    (applyDouble op (Float.ofBits ⟨x⟩) (Float.ofBits ⟨y⟩)).toBits.toBitVec

end FloatFormat

/-- An operation on two integers of one width, which wraps. -/
def integer {width : Nat} (signed : Bool) (op : ArithOp) (x y : BitVec width) :
    Except Crash (BitVec width) :=
  match op with
  | .add => .ok (x + y)
  | .sub => .ok (x - y)
  | .mul => .ok (x * y)
  | .div =>
    if y = 0 then .error .divisionByZero
    else .ok (if signed then x.sdiv y else x / y)

/-- Dividing the smallest signed number by minus one wraps around to the same number. -/
theorem integer_intMin_div_neg_one {width : Nat} (h : 0 < width) :
    integer true .div (BitVec.intMin width) (-1) = .ok (BitVec.intMin width) := by
  have hne : width ≠ 0 := by omega
  simp [integer, hne, BitVec.intMin_sdiv_neg_one]

/-- The operation of a type on the bits of two elements. -/
def ElementType.combine : (type : ElementType) → type.reserved = false → ArithOp →
    BitVec type.bits → BitVec type.bits → Except Crash (BitVec type.bits)
  | .float32, _, op, x, y => .ok (FloatFormat.single.apply op x y)
  | .float64, _, op, x, y => .ok (FloatFormat.double.apply op x y)
  | .float16, reserved, _, _, _ => absurd reserved (by decide)
  | .float128, reserved, _, _, _ => absurd reserved (by decide)
  | .int8, _, op, x, y | .int16, _, op, x, y | .int32, _, op, x, y | .int64, _, op, x, y
  | .int128, _, op, x, y => integer true op x y
  | .uint8, _, op, x, y | .uint16, _, op, x, y | .uint32, _, op, x, y | .uint64, _, op, x, y
  | .uint128, _, op, x, y => integer false op x y

end LaneKernels
