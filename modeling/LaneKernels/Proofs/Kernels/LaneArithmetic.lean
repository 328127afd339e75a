import Mathlib.Tactic
import LaneKernels.Kernel
import LaneKernels.Proofs.Generation.Planning
import LaneKernels.Proofs.Kernels.PackedLanes

/-!
What the callables of the shipped kernels compute, lane by lane.

* `Computation.serves` compares a computation with an operation on a type, and `Implements` says
  that the operation never crashes on the type and that the computation applies it to each lane.
* `exists_implements`: a computation that serves an operation on a type implements it, for modular,
  float and packed arithmetic alike.
* `shipped_code`: each kernel of the shipped tables has known callables. Its computation serves its
  operation on its type, and only the transfers for aligned addresses ask for alignment.
-/

namespace LaneKernels

open Lanes (lane)

/-- The operation of modular arithmetic. -/
def ModularOp.arith : ModularOp → ArithOp
  | add => .add
  | sub => .sub
  | mul => .mul

/-- The element type of a float format. -/
def FloatFormat.type : FloatFormat → ElementType
  | single => .float32
  | double => .float64

namespace Computation

/-- Whether the computation is the operation on lanes of a type. -/
def serves (op : ArithOp) (type : ElementType) : Computation → Bool
  | modular _ modularOp laneBytes =>
    !type.isFloat && modularOp.arith = op && laneBytes = type.bytes
  | floats _ floatOp format => floatOp = op && format.type = type
  | packedAdd laneBytes => !type.isFloat && op = .add && laneBytes = type.bytes && type.bytes ≤ 4
  | packedSub laneBytes => !type.isFloat && op = .sub && laneBytes = type.bytes && type.bytes ≤ 4
  | packedMulLow => !type.isFloat && op = .mul && type.bytes = 2

/-- The operation is `f` on the type, without a crash, and the computation applies it to each lane. -/
structure Implements (computation : Computation) (op : ArithOp) (type : ElementType)
    (live : type.reserved = false)
    (f : BitVec type.bits → BitVec type.bits → BitVec type.bits) : Prop where
  combine : ∀ x y, type.combine live op x y = .ok (f x y)
  lanes : ∀ (x y : BitVec (8 * computation.registerBytes)) (k : ℕ),
    type.bits * (k + 1) ≤ 8 * computation.registerBytes →
      lane type.bits k (computation.apply x y) = f (lane type.bits k x) (lane type.bits k y)

variable {op : ArithOp} {type : ElementType} {live : type.reserved = false}

/-- Modular arithmetic on integers is the same for signed and unsigned ones, and never crashes. -/
lemma combine_modular (hint : type.isFloat = false) (modularOp : ModularOp) (x y : BitVec type.bits) :
    type.combine live modularOp.arith x y = .ok (modularOp.apply x y) := by
  cases type with
  | float16 | float32 | float64 | float128 => exact absurd hint (by decide)
  | _ => cases modularOp <;> rfl

/-- Words of the full width pass through unchanged. -/
lemma onWords_eq (combine : BitVec 64 → BitVec 64 → BitVec 64) (x y : BitVec 64) :
    onWords combine x y = combine x y := by
  simp [onWords]

lemma lane_packedAddition (hint : type.isFloat = false) (hbytes : type.bytes ≤ 4) {k : ℕ}
    (hfit : type.bits * (k + 1) ≤ 64) (x y : BitVec 64) :
    lane type.bits k (packedAddition type.bytes x y) = lane type.bits k x + lane type.bits k y := by
  cases type with
  | float16 | float32 | float64 | float128 => exact absurd hint (by decide)
  | int64 | int128 | uint64 | uint128 => exact absurd hbytes (by decide)
  | int8 | uint8 =>
      exact PackedWord.lane_addWith PackedWord.isTopMask_high8 (by decide) hfit x y
  | int16 | uint16 =>
      exact PackedWord.lane_addWith PackedWord.isTopMask_high16 (by decide) hfit x y
  | int32 | uint32 =>
      exact PackedWord.lane_addWith PackedWord.isTopMask_high32 (by decide) hfit x y

lemma lane_packedSubtraction (hint : type.isFloat = false) (hbytes : type.bytes ≤ 4) {k : ℕ}
    (hfit : type.bits * (k + 1) ≤ 64) (x y : BitVec 64) :
    lane type.bits k (packedSubtraction type.bytes x y) = lane type.bits k x - lane type.bits k y := by
  cases type with
  | float16 | float32 | float64 | float128 => exact absurd hint (by decide)
  | int64 | int128 | uint64 | uint128 => exact absurd hbytes (by decide)
  | int8 | uint8 =>
      exact PackedWord.lane_subWith PackedWord.isTopMask_high8 (by decide) hfit x y
  | int16 | uint16 =>
      exact PackedWord.lane_subWith PackedWord.isTopMask_high16 (by decide) hfit x y
  | int32 | uint32 =>
      exact PackedWord.lane_subWith PackedWord.isTopMask_high32 (by decide) hfit x y

lemma lane_packedProduct (hint : type.isFloat = false) (hbytes : type.bytes = 2) {k : ℕ}
    (hfit : type.bits * (k + 1) ≤ 64) (x y : BitVec 64) :
    lane type.bits k (PackedWord.mulLow16 x y) = lane type.bits k x * lane type.bits k y := by
  have hbits : type.bits = 16 := by rw [ElementType.bits, hbytes]
  have hk : k < 4 := by
    rw [hbits] at hfit
    omega
  cases type with
  | float16 | float32 | float64 | float128 => exact absurd hint (by decide)
  | int16 | uint16 => exact PackedWord.lane_mulLow16 hk x y
  | _ => exact absurd hbytes (by decide)

/-- A computation that serves an operation on a type implements it. -/
theorem exists_implements {computation : Computation} (h : computation.serves op type = true)
    (live : type.reserved = false) : ∃ f, computation.Implements op type live f := by
  cases computation with
  | modular bytes modularOp laneBytes =>
      simp only [serves, Bool.and_eq_true, Bool.not_eq_true', decide_eq_true_eq] at h
      obtain ⟨⟨hint, rfl⟩, rfl⟩ := h
      refine ⟨modularOp.apply, combine_modular hint modularOp, fun x y k hfit => ?_⟩
      exact Lanes.lane_lanewise type.bits_pos modularOp.apply x y hfit
  | floats bytes floatOp format =>
      simp only [serves, Bool.and_eq_true, decide_eq_true_eq] at h
      obtain ⟨rfl, rfl⟩ := h
      cases format with
      | single =>
          refine ⟨FloatFormat.single.apply floatOp, fun x y => rfl, fun x y k hfit => ?_⟩
          exact Lanes.lane_lanewise (by decide) (FloatFormat.single.apply floatOp) x y hfit
      | double =>
          refine ⟨FloatFormat.double.apply floatOp, fun x y => rfl, fun x y k hfit => ?_⟩
          exact Lanes.lane_lanewise (by decide) (FloatFormat.double.apply floatOp) x y hfit
  | packedAdd laneBytes =>
      simp only [serves, Bool.and_eq_true, Bool.not_eq_true', decide_eq_true_eq] at h
      obtain ⟨⟨⟨hint, rfl⟩, rfl⟩, hbytes⟩ := h
      refine ⟨ModularOp.add.apply, combine_modular hint .add, fun x y k hfit => ?_⟩
      exact (congrArg (lane type.bits k) (onWords_eq _ x y)).trans
        (lane_packedAddition hint hbytes hfit x y)
  | packedSub laneBytes =>
      simp only [serves, Bool.and_eq_true, Bool.not_eq_true', decide_eq_true_eq] at h
      obtain ⟨⟨⟨hint, rfl⟩, rfl⟩, hbytes⟩ := h
      refine ⟨ModularOp.sub.apply, combine_modular hint .sub, fun x y k hfit => ?_⟩
      exact (congrArg (lane type.bits k) (onWords_eq _ x y)).trans
        (lane_packedSubtraction hint hbytes hfit x y)
  | packedMulLow =>
      simp only [serves, Bool.and_eq_true, Bool.not_eq_true', decide_eq_true_eq] at h
      obtain ⟨⟨hint, rfl⟩, hbytes⟩ := h
      refine ⟨ModularOp.mul.apply, combine_modular hint .mul, fun x y k hfit => ?_⟩
      exact (congrArg (lane type.bits k) (onWords_eq _ x y)).trans
        (lane_packedProduct hint hbytes hfit x y)

end Computation

/-! ### The shipped kernels -/

/-- The code fits a kernel: its computation serves the operation on the type in the tier's
registers, and exactly the transfers for aligned addresses ask for alignment. -/
def RegisterCode.fits (code : RegisterCode) (routine : Routine) : Bool :=
  code.compute.serves routine.op routine.type &&
    code.compute.registerBytes = routine.tier.registerBytes &&
    code.alignedLoad && !code.unalignedLoad && code.alignedStore && !code.unalignedStore

/-- Each kernel of the shipped tables has known callables, and they fit it. -/
lemma shipped_code {tier : Tier} {op : ArithOp} {type : ElementType}
    (h : Capabilities.shipped.supports tier op type = true) :
    ∃ code, (BindingTable.shipped.routine op type tier).code? = some code ∧
      code.fits (BindingTable.shipped.routine op type tier) = true := by
  have hall : ∀ cell ∈ Capabilities.shipped.cells,
      ((BindingTable.shipped.routine cell.op cell.type cell.tier).code?.any
        (·.fits (BindingTable.shipped.routine cell.op cell.type cell.tier))) = true := by
    decide +kernel
  have hcell := hall ⟨tier, op, type⟩ (Capabilities.mem_cells.mpr h)
  rw [Option.any_eq_true] at hcell
  exact hcell

end LaneKernels
