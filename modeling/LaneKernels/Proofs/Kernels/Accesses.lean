import Mathlib.Tactic
import LaneKernels.Proofs.Kernels.Acceleration

/-!
Where the accelerated kernels of the shipped tables read and write.

Nothing here depends on what memory holds or on where the arrays are, so the results are about every run,
also where the arrays overlap or do not lie in memory.

* `Access.Proper` says that an access keeps to the elements of its array, and to the alignment that it
  asks for. All accesses of a run do (`Sound.proper_of_mem_trace`).
* `Event.storesTo` recognizes the stores that cover an element. Turns of a loop one after the other cover
  each element of their stretch once (`countP_turns`), and so does a run (`countP_trace`).
* `variant_accesses` puts both together for each kernel that is compiled in.
-/

namespace LaneKernels

open Execution

/-! ### Proper accesses -/

/-- An access of a kernel that it has a right to: it moves one element or a whole register between the
machine and elements below the number of elements, at an address with the alignment that it asks for. It
reads only inputs and writes only the output. -/
structure Access.Proper (tier : Tier) (type : ElementType) (operands : Operands) (access : Access) :
    Prop where
  whole : access.count = 1 ∨ type.bytes * access.count = tier.registerBytes
  placed : access.address = operands.base access.operand + type.bytes * access.index
  inside : access.index + access.count ≤ operands.len
  granted : access.Granted tier.registerBytes
  output : access.operand = .c ↔ access.direction = .store

/-- The event is a store to some elements of which one has the given index. -/
def Event.storesTo (index : ℕ) : Event → Bool
  | .accessed access =>
    access.direction = .store && access.index ≤ index && index < access.index + access.count
  | _ => false

variable {op : ArithOp} {type : ElementType} {operands : Operands}

lemma proper_of_mem_elementEvents {tier : Tier} {access : Access} {index : ℕ}
    (hindex : index < operands.len) (h : .accessed access ∈ elementEvents type operands index) :
    access.Proper tier type operands := by
  have hgranted : access.Granted tier.registerBytes := granted_of_mem_elementEvents h
  simp only [elementEvents, List.mem_cons, Event.accessed.injEq, List.not_mem_nil, or_false] at h
  obtain rfl | rfl | rfl := h <;> exact ⟨.inl rfl, rfl, hindex, hgranted, by simp [accessAt]⟩

lemma countP_elementEvents (first index : ℕ) :
    (elementEvents type operands first).countP (·.storesTo index) =
      if first ≤ index ∧ index < first + 1 then 1 else 0 := by
  by_cases h : first ≤ index ∧ index < first + 1 <;>
    simp [elementEvents, accessAt, Event.storesTo, h]

/-- Turns one after the other store to each index of their stretch once if each turn does. -/
lemma countP_turns {step index : ℕ} {turn : ℕ → List Event}
    (hturn : ∀ i, (turn i).countP (·.storesTo index) = if i ≤ index ∧ index < i + step then 1 else 0)
    (first n : ℕ) :
    ((List.range' first n step).flatMap turn).countP (·.storesTo index) =
      if first ≤ index ∧ index < first + step * n then 1 else 0 := by
  induction n generalizing first with
  | zero =>
      rw [Nat.mul_zero, Nat.add_zero, if_neg (by omega)]
      rfl
  | succ n ih =>
      rw [List.range'_succ, List.flatMap_cons, List.countP_append, hturn, ih, Nat.mul_add_one]
      split_ifs <;> omega

namespace Routine

variable {routine : Routine} {live : routine.type.reserved = false} {code : RegisterCode}
  {f : BitVec routine.type.bits → BitVec routine.type.bits → BitVec routine.type.bits}

lemma Sound.proper_of_mem_registerEvents (h : routine.Sound live code f) {access : Access} {turn : ℕ}
    (hturn : turn < operands.len / routine.stride)
    (hmem : .accessed access ∈ routine.registerEvents code operands (routine.stride * turn)) :
    access.Proper routine.tier routine.type operands := by
  have hgranted : access.Granted routine.tier.registerBytes := h.granted_of_mem_registerEvents hmem
  have hinside : routine.stride * turn + routine.stride ≤ operands.len :=
    calc routine.stride * turn + routine.stride = routine.stride * (turn + 1) :=
          (Nat.mul_add_one _ _).symm
      _ ≤ routine.stride * (operands.len / routine.stride) := Nat.mul_le_mul_left _ hturn
      _ ≤ operands.len := Nat.mul_div_le _ _
  simp only [registerEvents, List.mem_cons, Event.accessed.injEq, List.not_mem_nil, or_false] at hmem
  obtain rfl | rfl | rfl := hmem <;>
    exact ⟨.inr h.bytes_mul_stride, rfl, hinside, hgranted, by simp [accessAt]⟩

/-- A kernel whose callables are right makes only accesses that it has a right to. -/
lemma Sound.proper_of_mem_trace (h : routine.Sound live code f) {access : Access}
    (hmem : .accessed access ∈ routine.trace code operands) :
    access.Proper routine.tier routine.type operands := by
  obtain ⟨turn, hturn, hregister⟩ | ⟨index, -, hindex, helement⟩ := accessed_mem_trace.mp hmem
  · exact h.proper_of_mem_registerEvents hturn hregister
  · exact proper_of_mem_elementEvents hindex helement

/-! ### Stores -/

lemma countP_mainEvents (first index : ℕ) :
    (routine.mainEvents code operands first).countP (·.storesTo index) =
      if first ≤ index ∧ index < first + routine.stride then 1 else 0 := by
  by_cases h : first ≤ index ∧ index < first + routine.stride <;>
    simp [mainEvents, registerEvents, accessAt, Event.storesTo, h]

lemma countP_tailEvents (first index : ℕ) :
    (routine.tailEvents operands first).countP (·.storesTo index) =
      if first ≤ index ∧ index < first + 1 then 1 else 0 := by
  simpa [tailEvents, Event.storesTo] using countP_elementEvents first index

/-- A run stores once to each element below the number of elements, and to no other. -/
lemma countP_trace (index : ℕ) :
    (routine.trace code operands).countP (·.storesTo index) = if index < operands.len then 1 else 0 := by
  have hsplit : routine.stride * (operands.len / routine.stride) + operands.len % routine.stride =
      operands.len := Nat.div_add_mod operands.len routine.stride
  have hrelease : (if routine.tier.release?.isSome then [Event.released] else []).countP
      (·.storesTo index) = 0 := by
    split <;> rfl
  have htested : ∀ value, [Event.tested value].countP (·.storesTo index) = 0 := fun _ => rfl
  simp only [trace, List.countP_append, countP_turns (countP_mainEvents · index),
    countP_turns (countP_tailEvents · index), hrelease, htested, Nat.one_mul, hsplit]
  split_ifs <;> omega

/-- Bytes outside of the registers that are stored stay as they are. -/
lemma Sound.byte_storeTurns (h : routine.Sound live code f) {p n : ℕ} :
    ∀ (memory : Memory) (index : ℕ), p < operands.c + routine.type.bytes * index ∨
      operands.c + routine.type.bytes * (index + routine.stride * n) ≤ p →
      (routine.storeTurns code operands memory index n).byte p = memory.byte p := by
  induction n with
  | zero => exact fun _ _ _ => rfl
  | succ n ih =>
      intro memory index hp
      have hnext : index + routine.stride * (n + 1) =
          index + routine.stride + routine.stride * n := by
        rw [Nat.mul_add_one]
        omega
      have hwidth : routine.type.bytes * (index + routine.stride) =
          routine.type.bytes * index + routine.tier.registerBytes := by
        rw [Nat.mul_add, h.bytes_mul_stride]
      have hmore : routine.type.bytes * (index + routine.stride) ≤
          routine.type.bytes * (index + routine.stride + routine.stride * n) :=
        Nat.mul_le_mul_left _ (Nat.le_add_right _ _)
      rw [hnext] at hp
      rw [storeTurns, List.range'_succ, List.foldl_cons]
      refine (ih _ _ (by omega)).trans ?_
      rw [storeRegisters, Memory.byte_store_apart (by omega)]

/-- A run leaves all bytes outside of the output's elements as they are. -/
lemma Sound.byte_result (h : routine.Sound live code f) (memory : Memory) {p : ℕ}
    (hp : p < operands.c ∨ operands.c + routine.type.bytes * operands.len ≤ p) :
    (routine.result code f operands memory).byte p = memory.byte p := by
  have hsplit : routine.stride * (operands.len / routine.stride) + operands.len % routine.stride =
      operands.len := Nat.div_add_mod operands.len routine.stride
  have hturns : routine.type.bytes * (routine.stride * (operands.len / routine.stride)) ≤
      routine.type.bytes * operands.len := Nat.mul_le_mul_left _ (by omega)
  rw [result, byte_combineRange f (by rw [hsplit]; omega), h.byte_storeTurns memory 0]
  rw [Nat.mul_zero, Nat.zero_add]
  omega

end Routine

/-! ### The kernels that are compiled in -/

/-- A supported tier that is compiled in has a kernel, and each of its kernels runs to its end whatever the
arrays and their addresses are. All its accesses are proper. It stores once to each element of the output
below the number of elements and to none beyond, and leaves all other bytes as they are. -/
theorem variant_accesses (tier : Tier) (op : ArithOp) (type : ElementType)
    (h : Capabilities.shipped.supports tier op type = true) (compiled : TierSet)
    (hcompiled : compiled.contains tier = true) :
    (∃ kernel, ⟨tier, kernel⟩ ∈ compiledVariants compiled op type) ∧
      ∀ kernel, ⟨tier, kernel⟩ ∈ compiledVariants compiled op type →
        ∀ (operands : Operands) (memory : Memory),
          ∃ after events, Runs (kernel operands) memory () after events ∧
            (∀ access, .accessed access ∈ events → access.Proper tier type operands) ∧
            (∀ index, events.countP (·.storesTo index) = if index < operands.len then 1 else 0) ∧
            ∀ p, p < operands.c ∨ operands.c + type.bytes * operands.len ≤ p →
              after.byte p = memory.byte p := by
  have live : type.reserved = false := (Capabilities.shipped_supports h).1
  constructor
  · obtain ⟨code, f, hkernel?, _⟩ := shipped_sound h live
    exact ⟨_, mem_compiledVariants.mpr ⟨h, hcompiled, hkernel?⟩⟩
  · intro kernel hmem operands memory
    obtain ⟨code, f, rfl, hsound⟩ := exists_sound hmem live
    refine ⟨_, _, Routine.runs_kernel hsound.implements.combine code operands memory,
      fun access haccess => hsound.proper_of_mem_trace haccess, Routine.countP_trace,
      fun p hp => hsound.byte_result memory hp⟩

/-- Nine bytes on a tier with registers of eight, the output at an odd address: the byte behind the
register is stored to once, and the tenth byte is not. -/
theorem variant_accesses_nine_bytes :
    ∃ kernel, ⟨.mmx, kernel⟩ ∈ compiledVariants .full .add .int8 ∧
      ∃ after events, Runs (kernel ⟨0, 8, 17, 9⟩) (.zeros 32) () after events ∧
        events.countP (·.storesTo 8) = 1 ∧ events.countP (·.storesTo 9) = 0 := by
  obtain ⟨⟨kernel, hmem⟩, hkernels⟩ := variant_accesses .mmx .add .int8 (by decide) .full rfl
  obtain ⟨after, events, hruns, -, hstores, -⟩ := hkernels kernel hmem ⟨0, 8, 17, 9⟩ (.zeros 32)
  exact ⟨kernel, hmem, after, events, hruns, hstores 8, hstores 9⟩

end LaneKernels
