/-!
The fourteen element types of the kernels.

* Each type has a width in whole bytes (`bytes`, `bits`), a kind (`NumberKind`), a long name for
  readers and a short one, which is also the last part of a kernel's name.
* `all` lists them in declaration order (`mem_all`), and `index` is the place in that list.
* Half and quad precision are reserved: they have metadata but no kernels, so `emitted` leaves
  them out (`mem_emitted`).
-/

namespace LaneKernels

/-- How the bits of an element are read. -/
inductive NumberKind where
  | signed
  | unsigned
  | float
  deriving DecidableEq, Repr

/-- The types of the elements that kernels combine. -/
inductive ElementType where
  | int8
  | int16
  | int32
  | int64
  | int128
  | uint8
  | uint16
  | uint32
  | uint64
  | uint128
  | float16
  | float32
  | float64
  | float128
  deriving DecidableEq, Repr

namespace ElementType

/-- Every type: signed widths ascending, then unsigned, then floats. -/
def all : List ElementType :=
  [int8, int16, int32, int64, int128, uint8, uint16, uint32, uint64, uint128,
    float16, float32, float64, float128]

@[simp] theorem mem_all (type : ElementType) : type ∈ all := by
  cases type <;> decide

/-- The place of a type in declaration order. -/
def index (type : ElementType) : Nat :=
  all.idxOf type

/-- Bytes that one element takes in memory. -/
def bytes : ElementType → Nat
  | int8 | uint8 => 1
  | int16 | uint16 | float16 => 2
  | int32 | uint32 | float32 => 4
  | int64 | uint64 | float64 => 8
  | int128 | uint128 | float128 => 16

/-- Bits of one element. -/
def bits (type : ElementType) : Nat :=
  8 * type.bytes

theorem bytes_pos (type : ElementType) : 0 < type.bytes := by
  cases type <;> decide

theorem bits_pos (type : ElementType) : 0 < type.bits := by
  cases type <;> decide

/-- How the bits of an element of the type are read. -/
def kind : ElementType → NumberKind
  | int8 | int16 | int32 | int64 | int128 => .signed
  | uint8 | uint16 | uint32 | uint64 | uint128 => .unsigned
  | float16 | float32 | float64 | float128 => .float

/-- Whether elements of the type are floating-point numbers. -/
def isFloat (type : ElementType) : Bool :=
  type.kind = .float

/-- Whether the type has no primitive to compute with, so that it is never emitted. -/
def reserved : ElementType → Bool
  | float16 | float128 => true
  | _ => false

/-- The long name: the kind and the width. -/
def longName : ElementType → String
  | int8 => "int8"
  | int16 => "int16"
  | int32 => "int32"
  | int64 => "int64"
  | int128 => "int128"
  | uint8 => "uint8"
  | uint16 => "uint16"
  | uint32 => "uint32"
  | uint64 => "uint64"
  | uint128 => "uint128"
  | float16 => "float16"
  | float32 => "float32"
  | float64 => "float64"
  | float128 => "float128"

/-- The name in generated text: one letter for the kind, and the width. -/
def shortName : ElementType → String
  | int8 => "i8"
  | int16 => "i16"
  | int32 => "i32"
  | int64 => "i64"
  | int128 => "i128"
  | uint8 => "u8"
  | uint16 => "u16"
  | uint32 => "u32"
  | uint64 => "u64"
  | uint128 => "u128"
  | float16 => "f16"
  | float32 => "f32"
  | float64 => "f64"
  | float128 => "f128"

/-- The integers of at most so many bits, in declaration order. -/
def integersUpTo (bits : Nat) : List ElementType :=
  all.filter fun type => !type.isFloat && type.bits ≤ bits

/-- The types that kernels are generated for, in declaration order. -/
def emitted : List ElementType :=
  all.filter (!·.reserved)

@[simp] theorem mem_emitted {type : ElementType} : type ∈ emitted ↔ type.reserved = false := by
  simp [emitted]

end ElementType

end LaneKernels
