/-!
Packed arithmetic inside one 64-bit word, for the tier whose registers are no wider.

* Lanes are added and subtracted with their top bits masked off, so that no carry or borrow leaves a lane,
  and the top bits are patched back in (`addWith`, `subWith`).
* Products are formed lane by lane, and the low half of each is kept (`mulLow16`).
-/

namespace LaneKernels.PackedWord

/-- The sum of the lanes whose top bits are given. -/
def addWith (high a b : BitVec 64) : BitVec 64 :=
  ((a &&& ~~~high) + (b &&& ~~~high)) ^^^ ((a ^^^ b) &&& high)

/-- The difference of the lanes whose top bits are given. -/
def subWith (high a b : BitVec 64) : BitVec 64 :=
  ((a ||| high) - (b &&& ~~~high)) ^^^ ((a ^^^ ~~~b) &&& high)

/-- The top bits of the lanes of 8 bits. -/
def high8 : BitVec 64 :=
  0x8080808080808080#64

/-- The top bits of the lanes of 16 bits. -/
def high16 : BitVec 64 :=
  0x8000800080008000#64

/-- The top bits of the lanes of 32 bits. -/
def high32 : BitVec 64 :=
  0x8000000080000000#64

/-- Adds eight lanes of 8 bits. -/
def add8 : BitVec 64 → BitVec 64 → BitVec 64 :=
  addWith high8

/-- Adds four lanes of 16 bits. -/
def add16 : BitVec 64 → BitVec 64 → BitVec 64 :=
  addWith high16

/-- Adds two lanes of 32 bits. -/
def add32 : BitVec 64 → BitVec 64 → BitVec 64 :=
  addWith high32

/-- Subtracts eight lanes of 8 bits. -/
def sub8 : BitVec 64 → BitVec 64 → BitVec 64 :=
  subWith high8

/-- Subtracts four lanes of 16 bits. -/
def sub16 : BitVec 64 → BitVec 64 → BitVec 64 :=
  subWith high16

/-- Subtracts two lanes of 32 bits. -/
def sub32 : BitVec 64 → BitVec 64 → BitVec 64 :=
  subWith high32

/-- The low half of the product of the 16 bits from a place on, put back in that place. -/
def productAt (a b : BitVec 64) (shift : Nat) : BitVec 64 :=
  (((a >>> shift).setWidth 16 * (b >>> shift).setWidth 16).setWidth 64) <<< shift

/-- Multiplies four lanes of 16 bits and keeps the low halves. -/
def mulLow16 (a b : BitVec 64) : BitVec 64 :=
  [0, 16, 32, 48].foldl (fun word shift => word ||| productAt a b shift) 0#64

end LaneKernels.PackedWord
