import Mathlib.Tactic
import LaneKernels.Platform
import LaneKernels.Proofs.Kernels.Runs

/-!
The accelerated kernels of the shipped tables against the scalar kernels.

* `Combined` says what memory holds after the elements of two arrays were combined into a third: each
  element of the output is the operation on the inputs as they were, and no other byte has changed.
* `Sound.aligned_trace`: a kernel whose callables are right asks for alignment only where it finds it.
* `mem_compiledVariants`: the kernels that are compiled in are those of the supported tiers that are
  selected, and the callables of each are right.
* `variant_eq_default`: each of them leaves the memory that the scalar kernel leaves.
-/

namespace LaneKernels

open Execution

/-- The elements of the inputs were combined into the output, and no byte outside of the output's
elements has changed. -/
structure Combined (op : ArithOp) (type : ElementType) (live : type.reserved = false)
    (operands : Operands) (before after : Memory) : Prop where
  size : after.size = before.size
  element : ∀ index < operands.len, type.combine live op (before.element type operands.a index)
    (before.element type operands.b index) = .ok (after.element type operands.c index)
  byte : ∀ p, p < operands.c ∨ operands.c + type.bytes * operands.len ≤ p →
    after.byte p = before.byte p

variable {op : ArithOp} {type : ElementType} {live : type.reserved = false} {operands : Operands}
  {memory : Memory}

/-- Combining some elements one after the other is the operation on each of their indices. -/
lemma combined_before {f : BitVec type.bits → BitVec type.bits → BitVec type.bits} {count : ℕ}
    (hfit : operands.Fit type memory) (hcount : count ≤ operands.len)
    (hf : ∀ index < count, type.combine live op (memory.element type operands.a index)
      (memory.element type operands.b index) =
        .ok (f (memory.element type operands.a index) (memory.element type operands.b index))) :
    Combined op type live { operands with len := count } memory
      (combineRange f operands memory 0 count) where
  size := size_combineRange f 0 count
  element := fun index (hindex : index < count) => by
    rw [hf index hindex, element_combineRange f hfit (by omega) (Nat.zero_le index) (by omega)]
  byte := fun p hp => byte_combineRange f (by rw [Nat.zero_add]; exact hp)

/-- Combining all elements one after the other is the operation on each index. -/
lemma combined_combineRange {f : BitVec type.bits → BitVec type.bits → BitVec type.bits}
    (hf : ∀ x y, type.combine live op x y = .ok (f x y)) (hfit : operands.Fit type memory) :
    Combined op type live operands memory (combineRange f operands memory 0 operands.len) :=
  combined_before hfit le_rfl fun _ _ => hf _ _

/-! ### Alignment -/

/-- An access that asks for an address at a multiple of some bytes gets one. -/
def Access.Granted (bytes : ℕ) (access : Access) : Prop :=
  access.aligned = true → bytes ∣ access.address

/-- An element is never asked for with an alignment. -/
lemma granted_of_mem_elementEvents {access : Access} {index bytes : ℕ}
    (h : .accessed access ∈ elementEvents type operands index) : access.Granted bytes := by
  simp only [elementEvents, List.mem_cons, Event.accessed.injEq, List.not_mem_nil, or_false] at h
  obtain rfl | rfl | rfl := h <;> exact fun haligned => absurd haligned (by simp [accessAt])

namespace Routine

variable {routine : Routine} {reserved : routine.type.reserved = false} {code : RegisterCode}
  {f : BitVec routine.type.bits → BitVec routine.type.bits → BitVec routine.type.bits}

/-- The transfer that a kernel takes asks for alignment only where the array has it. -/
lemma Sound.granted_of_mem_registerEvents (h : routine.Sound reserved code f) {access : Access}
    {turn : ℕ}
    (hmem : .accessed access ∈ routine.registerEvents code operands (routine.stride * turn)) :
    access.Granted routine.tier.registerBytes := by
  have hfits := h.fits
  simp only [RegisterCode.fits, Bool.and_eq_true, Bool.not_eq_true', decide_eq_true_eq] at hfits
  obtain ⟨⟨⟨_, hload⟩, _⟩, hstore⟩ := hfits
  have hplace : ∀ base, base % routine.tier.alignment = 0 → routine.tier.registerBytes ∣
      base + routine.type.bytes * (routine.stride * turn) := fun base hbase => by
    rw [← Nat.mul_assoc, h.bytes_mul_stride]
    exact Nat.dvd_add (Nat.dvd_of_mod_eq_zero hbase) (Nat.dvd_mul_right _ _)
  simp only [registerEvents, List.mem_cons, Event.accessed.injEq, List.not_mem_nil, or_false] at hmem
  obtain rfl | rfl | rfl := hmem
  · intro haligned
    by_cases ha : operands.a % routine.tier.alignment = 0
    · exact hplace operands.a ha
    · simp [accessAt, alignmentOf, ha, hload] at haligned
  · intro haligned
    by_cases hb : operands.b % routine.tier.alignment = 0
    · exact hplace operands.b hb
    · simp [accessAt, alignmentOf, hb, hload] at haligned
  · intro haligned
    by_cases hc : operands.c % routine.tier.alignment = 0
    · exact hplace operands.c hc
    · simp [accessAt, alignmentOf, hc, hstore] at haligned

/-- A kernel whose callables are right asks for alignment only where it finds it. -/
lemma Sound.aligned_trace (h : routine.Sound reserved code f) {access : Access}
    (hmem : .accessed access ∈ routine.trace code operands) :
    access.Granted routine.tier.registerBytes := by
  obtain ⟨turn, -, hregister⟩ | ⟨index, -, -, helement⟩ := accessed_mem_trace.mp hmem
  · exact h.granted_of_mem_registerEvents hregister
  · exact granted_of_mem_elementEvents helement

end Routine

/-! ### The kernels that are compiled in -/

lemma Routine.kernel?_eq {routine : Routine} {code : RegisterCode}
    (live : routine.type.reserved = false) (hcode : routine.code? = some code) :
    routine.kernel? = some (routine.kernel live code) := by
  rw [kernel?, dif_pos live, hcode]
  rfl

lemma Recipe.routines_shipped (compiled : TierSet) (op : ArithOp) (type : ElementType) :
    (Recipe.shipped compiled).routines op type =
      ((Recipe.shipped compiled).acceleratedTiers op type).map
        (BindingTable.shipped.routine op type) := by
  have hcell : Planning.Gives ((Recipe.shipped compiled).planCell op type) _ _ :=
    Recipe.planCell_eq BindingTable.check_shipped
  rw [Recipe.routines, hcell]
  rfl

/-- Each kernel of the shipped tables is there, and its callables are right. -/
lemma shipped_sound {tier : Tier} (h : Capabilities.shipped.supports tier op type = true)
    (live : type.reserved = false) :
    ∃ code f, (BindingTable.shipped.routine op type tier).kernel? =
        some ((BindingTable.shipped.routine op type tier).kernel live code) ∧
      (BindingTable.shipped.routine op type tier).Sound live code f := by
  obtain ⟨code, hcode, hfits⟩ := shipped_code h
  have hserves : code.compute.serves op type = true := by
    simp only [RegisterCode.fits, Bool.and_eq_true] at hfits
    exact hfits.1.1.1.1.1
  obtain ⟨f, himplements⟩ := Computation.exists_implements hserves live
  have hcovers := BindingTable.check_eq_ok_iff.mp BindingTable.check_shipped tier op type h
  refine ⟨code, f, Routine.kernel?_eq live hcode, hfits, himplements, ?_⟩
  rw [hcovers.stride_routine, Nat.mul_comm]
  exact Tier.lanes_mul_bytes hcovers.lanes_pos

/-- The kernels that are compiled in are those of the supported tiers that are selected. -/
lemma mem_compiledVariants {compiled : TierSet} {tier : Tier} {kernel : Kernel} :
    ⟨tier, kernel⟩ ∈ compiledVariants compiled op type ↔
      Capabilities.shipped.supports tier op type = true ∧ compiled.contains tier = true ∧
        (BindingTable.shipped.routine op type tier).kernel? = some kernel := by
  simp only [compiledVariants, Recipe.routines_shipped, List.mem_filterMap, List.mem_map,
    Recipe.mem_acceleratedTiers, Option.map_eq_some_iff, Variant.mk.injEq]
  constructor
  · rintro ⟨_, ⟨found, hfound, rfl⟩, _, hkernel, rfl, rfl⟩
    exact ⟨hfound.1, hfound.2, hkernel⟩
  · rintro ⟨hsupports, hcontains, hkernel⟩
    exact ⟨_, ⟨tier, ⟨hsupports, hcontains⟩, rfl⟩, kernel, hkernel, rfl, rfl⟩

/-- A kernel that is compiled in is made of callables that are right. -/
lemma exists_sound {compiled : TierSet} {tier : Tier} {kernel : Kernel}
    (hmem : ⟨tier, kernel⟩ ∈ compiledVariants compiled op type) (live : type.reserved = false) :
    ∃ code f, kernel = (BindingTable.shipped.routine op type tier).kernel live code ∧
      (BindingTable.shipped.routine op type tier).Sound live code f := by
  obtain ⟨hsupports, -, hfound⟩ := mem_compiledVariants.mp hmem
  obtain ⟨code, f, hkernel?, hsound⟩ := shipped_sound hsupports live
  rw [hfound] at hkernel?
  exact ⟨code, f, Option.some.inj hkernel?, hsound⟩

/-- A supported tier that is compiled in has a kernel, and each of its kernels succeeds wherever the
arrays fit. It leaves the memory that the scalar kernel leaves, in which each element of the output
is the operation on the inputs and nothing else has changed, and it asks for alignment only where it
finds it. -/
theorem variant_eq_default (tier : Tier) (op : ArithOp) (type : ElementType)
    (h : Capabilities.shipped.supports tier op type = true) (live : type.reserved = false)
    (compiled : TierSet) (hcompiled : compiled.contains tier = true) :
    (∃ kernel, ⟨tier, kernel⟩ ∈ compiledVariants compiled op type) ∧
      ∀ kernel, ⟨tier, kernel⟩ ∈ compiledVariants compiled op type →
        ∀ (operands : Operands) (memory : Memory), operands.Fit type memory →
          ∃ after events scalarEvents, Runs (kernel operands) memory () after events ∧
            Runs (defaultKernel op type live operands) memory () after scalarEvents ∧
            Combined op type live operands memory after ∧
            ∀ access, .accessed access ∈ events → access.Granted tier.registerBytes := by
  constructor
  · obtain ⟨code, f, hkernel?, _⟩ := shipped_sound h live
    exact ⟨_, mem_compiledVariants.mpr ⟨h, hcompiled, hkernel?⟩⟩
  · intro kernel hmem operands memory hfit
    obtain ⟨code, f, rfl, hsound⟩ := exists_sound hmem live
    have hcombine : ∀ x y, type.combine live op x y = .ok (f x y) := hsound.implements.combine
    refine ⟨combineRange f operands memory 0 operands.len, _, _, hsound.runs_kernel hfit,
      runs_defaultKernel hcombine operands memory, combined_combineRange hcombine hfit, ?_⟩
    exact fun access haccess => hsound.aligned_trace haccess

/-- Nine bytes from an odd address, one register and one element: the sums wrap. -/
theorem variant_eq_default_nine_bytes :
    ∃ kernel, ⟨.mmx, kernel⟩ ∈ compiledVariants .full .add .int8 ∧
      ∃ after events, Runs (kernel ⟨1, 1, 16, 9⟩) ⟨Array.replicate 32 200⟩ () after events ∧
        after.element .int8 16 8 = 144 ∧ after.byte 25 = 200 := by
  have hshipped := variant_eq_default .mmx .add .int8 (by decide) rfl .full rfl
  obtain ⟨⟨kernel, hmem⟩, hkernels⟩ := hshipped
  obtain ⟨after, events, _, hruns, _, hcombined, _⟩ := hkernels kernel hmem ⟨1, 1, 16, 9⟩
    ⟨Array.replicate 32 200⟩ ⟨by decide, by decide, by decide, by decide, by decide⟩
  refine ⟨kernel, hmem, after, events, hruns, ?_, ?_⟩
  · have hsum := hcombined.element 8 (by decide)
    exact (Except.ok.inj hsum).symm
  · rw [hcombined.byte 25 (by decide)]
    decide

end LaneKernels
