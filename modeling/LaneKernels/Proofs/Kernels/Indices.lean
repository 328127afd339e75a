import Mathlib.Tactic
import LaneKernels.Proofs.Kernels.Acceleration

/-!
The indices of the accelerated kernels of the shipped tables.

A loop compares the last index that a step needs with the number of elements, and this may lie beyond all
elements. A machine word still holds it, since an array in memory is far smaller than there are words.

* `loopEvents` are the tests and the advances of a loop that takes some turns. None of their values goes
  beyond the end of the loop by a whole step (`lt_of_mem_loopEvents`).
* `Routine.Passes` is how a kernel goes through its indices, first by whole registers and then by single
  elements. Every run does so (`Routine.exists_passes`), and no value on its way is as large as the number of
  elements and a stride (`Routine.Passes.lt`).
* `variant_index_arithmetic` says how often the two loops of each kernel that is compiled in turn, where they
  end, and that no value on the way is too large for a machine word.
-/

namespace LaneKernels

open Execution

/-! ### Loops -/

/-- Whether a loop was tested or its index was advanced. -/
def Event.isLoop : Event → Bool
  | .tested _ | .advanced _ => true
  | _ => false

/-- The tests and the advances of a loop that starts at an index and takes some turns. Before each turn, and
once more at the end, it tests the last index that a step needs. -/
def loopEvents (step first turns : ℕ) : List Event :=
  ((List.range' first turns step).flatMap fun index =>
    [.tested (index + (step - 1)), .advanced (index + step)]) ++
  [.tested (first + step * turns + (step - 1))]

section

variable {step first turns value : ℕ}

/-- The indices of the turns. -/
lemma exists_mem_range'_iff {p : ℕ → Prop} : (∃ index ∈ List.range' first turns step, p index) ↔
    ∃ turn < turns, p (first + step * turn) := by
  constructor
  · rintro ⟨_, hindex, h⟩
    obtain ⟨turn, hturn, rfl⟩ := List.mem_range'.mp hindex
    exact ⟨turn, hturn, h⟩
  · rintro ⟨turn, hturn, h⟩
    exact ⟨_, List.mem_range'.mpr ⟨turn, hturn, rfl⟩, h⟩

lemma tested_mem_loopEvents : .tested value ∈ loopEvents step first turns ↔
    ∃ turn ≤ turns, value = first + step * turn + (step - 1) := by
  simp only [loopEvents, List.mem_append, List.mem_flatMap, exists_mem_range'_iff, List.mem_cons,
    Event.tested.injEq, reduceCtorEq, List.not_mem_nil, or_false, Nat.le_iff_lt_or_eq, or_and_right,
    exists_or, exists_eq_left]

lemma advanced_mem_loopEvents : .advanced value ∈ loopEvents step first turns ↔
    ∃ turn < turns, value = first + step * (turn + 1) := by
  simp only [loopEvents, List.mem_append, List.mem_flatMap, exists_mem_range'_iff, List.mem_cons,
    Event.advanced.injEq, reduceCtorEq, List.not_mem_nil, or_false, false_or, Nat.mul_add_one,
    Nat.add_assoc]

/-- No value goes beyond the end of the loop by a whole step. -/
lemma lt_of_mem_loopEvents (hstep : 0 < step) (h : .tested value ∈ loopEvents step first turns ∨
    .advanced value ∈ loopEvents step first turns) : value < first + step * turns + step := by
  obtain htested | hadvanced := h
  · obtain ⟨turn, hturn, rfl⟩ := tested_mem_loopEvents.mp htested
    have hle : step * turn ≤ step * turns := Nat.mul_le_mul_left step hturn
    omega
  · obtain ⟨turn, hturn, rfl⟩ := advanced_mem_loopEvents.mp hadvanced
    have hle : step * (turn + 1) ≤ step * turns := Nat.mul_le_mul_left step hturn
    omega

/-- Turns one after the other and the last test are a loop if each turn is a test and an advance. -/
lemma filter_turns (step first turns : ℕ) {turn : ℕ → List Event}
    (hturn : ∀ index, (turn index).filter Event.isLoop =
      [.tested (index + (step - 1)), .advanced (index + step)]) :
    ((List.range' first turns step).flatMap turn ++
      [Event.tested (first + step * turns + (step - 1))]).filter Event.isLoop =
        loopEvents step first turns := by
  rw [List.filter_append, List.filter_flatMap, loopEvents]
  exact congrArg₂ (· ++ ·) (List.flatMap_congr fun index _ => hturn index) rfl

end

/-! ### The loops of a kernel -/

namespace Routine

variable {routine : Routine} {live : routine.type.reserved = false} {code : RegisterCode}
  {f : BitVec routine.type.bits → BitVec routine.type.bits → BitVec routine.type.bits}
  {operands : Operands} {memory middle after : Memory} {main tail release : List Event}

/-- How a kernel goes through the indices of its elements. -/
structure Passes (routine : Routine) (live : routine.type.reserved = false) (code : RegisterCode)
    (operands : Operands) (memory middle after : Memory) (main tail release : List Event) : Prop where
  /-- A run is the loop over whole registers, the loop over single elements, and the release if one is
  due. -/
  kernel : Runs (routine.kernel live code operands) memory () after (main ++ tail ++ release)
  /-- The first loop starts at zero and ends where less than a register is left. -/
  mainLoop : Runs (routine.mainLoop code operands (routine.alignmentOf operands) 0) memory
    (routine.stride * (operands.len / routine.stride)) middle main
  /-- The second loop starts there and ends behind the last element. -/
  tailLoop : Runs (routine.tailLoop live operands (routine.stride * (operands.len / routine.stride)))
    middle operands.len after tail
  /-- The first loop takes a turn for each register that is full. -/
  mainTurns : main.filter Event.isLoop = loopEvents routine.stride 0 (operands.len / routine.stride)
  /-- The second loop takes a turn for each element that is left. -/
  tailTurns : tail.filter Event.isLoop = loopEvents 1
    (routine.stride * (operands.len / routine.stride)) (operands.len % routine.stride)
  /-- No loop follows. -/
  noMore : release.filter Event.isLoop = []

/-- Every run goes through its indices like this. -/
lemma exists_passes (hf : ∀ x y, routine.type.combine live routine.op x y = .ok (f x y))
    (code : RegisterCode) (operands : Operands) (memory : Memory) :
    ∃ middle after main tail release,
      routine.Passes live code operands memory middle after main tail release := by
  have hsplit : routine.stride * (operands.len / routine.stride) + operands.len % routine.stride =
      operands.len := Nat.div_add_mod operands.len routine.stride
  have hmod : operands.len % routine.stride < routine.stride := Nat.mod_lt _ (Nat.succ_pos _)
  have hmain := runs_mainLoop (n := operands.len / routine.stride) routine code operands memory 0
    (by omega) (by omega)
  rw [Nat.zero_add] at hmain
  -- the second loop goes on where the first one ends, with the elements that it has left over
  have htail := runs_tailLoop hf
    (routine.storeTurns code operands memory 0 (operands.len / routine.stride)) _ hsplit
  have hkernel := runs_kernel hf code operands memory
  rw [trace, ← List.append_assoc] at hkernel
  refine ⟨_, _, _, _, _, hkernel, hmain, htail, ?_, ?_, ?_⟩
  · have hturns := filter_turns routine.stride 0 (operands.len / routine.stride)
      fun index => show (routine.mainEvents code operands index).filter Event.isLoop = _ from rfl
    rwa [Nat.zero_add] at hturns
  · have hturns := filter_turns 1 (routine.stride * (operands.len / routine.stride))
      (operands.len % routine.stride)
      fun index => show (routine.tailEvents operands index).filter Event.isLoop = _ from rfl
    rwa [Nat.one_mul, hsplit] at hturns
  · split <;> rfl

/-- The index of the first loop is a multiple of the stride throughout. -/
lemma Passes.dvd (h : routine.Passes live code operands memory middle after main tail release) {value : ℕ}
    (hmem : .advanced value ∈ main) : routine.stride ∣ value := by
  have hloop : .advanced value ∈ main.filter Event.isLoop := List.mem_filter.mpr ⟨hmem, rfl⟩
  rw [h.mainTurns] at hloop
  obtain ⟨turn, -, rfl⟩ := advanced_mem_loopEvents.mp hloop
  rw [Nat.zero_add]
  exact Nat.dvd_mul_right _ _

/-- No value of a loop goes beyond the number of elements by a whole stride. -/
lemma Passes.lt (h : routine.Passes live code operands memory middle after main tail release) {value : ℕ}
    (hmem : .tested value ∈ main ++ tail ++ release ∨ .advanced value ∈ main ++ tail ++ release) :
    value < operands.len + routine.stride := by
  have hstride : 0 < routine.stride := Nat.succ_pos _
  have hsplit : routine.stride * (operands.len / routine.stride) + operands.len % routine.stride =
      operands.len := Nat.div_add_mod operands.len routine.stride
  have hfilter : (main ++ tail ++ release).filter Event.isLoop =
      loopEvents routine.stride 0 (operands.len / routine.stride) ++
        loopEvents 1 (routine.stride * (operands.len / routine.stride))
          (operands.len % routine.stride) := by
    rw [List.filter_append, List.filter_append, h.mainTurns, h.tailTurns, h.noMore, List.append_nil]
  have hloop : ∀ event : Event, event.isLoop = true → event ∈ main ++ tail ++ release →
      event ∈ loopEvents routine.stride 0 (operands.len / routine.stride) ∨
        event ∈ loopEvents 1 (routine.stride * (operands.len / routine.stride))
          (operands.len % routine.stride) := fun event hevent hmem => by
    rw [← List.mem_append, ← hfilter]
    exact List.mem_filter.mpr ⟨hmem, hevent⟩
  have hcases := hmem.imp (hloop _ rfl) (hloop _ rfl)
  rw [or_or_or_comm] at hcases
  obtain hmain | htail := hcases
  · have hlt := lt_of_mem_loopEvents hstride hmain
    omega
  · have hlt := lt_of_mem_loopEvents Nat.one_pos htail
    omega

end Routine

/-- No register has more than 32 lanes. -/
lemma Tier.lanes_le (tier : Tier) (type : ElementType) : tier.lanes type ≤ 32 := by
  cases tier <;> cases type <;> decide

/-! ### The kernels that are compiled in -/

/-- A supported tier that is compiled in has a kernel, and each of its kernels has the lanes of the tier as
its stride. Whatever the arrays are, its first loop takes as many turns as there are full registers, its
second one as many as there are elements left, and it ends behind the last element. The index of the first
loop is a multiple of the stride throughout. If the elements span less bytes than half of the addresses, no
value that a loop tests or sets its index to is too large for a machine word of 64 bits. -/
theorem variant_index_arithmetic (tier : Tier) (op : ArithOp) (type : ElementType)
    (h : Capabilities.shipped.supports tier op type = true) (compiled : TierSet)
    (hcompiled : compiled.contains tier = true) :
    (∃ kernel, ⟨tier, kernel⟩ ∈ compiledVariants compiled op type) ∧
      ∀ kernel, ⟨tier, kernel⟩ ∈ compiledVariants compiled op type →
        ∃ (routine : Routine) (live : routine.type.reserved = false) (code : RegisterCode),
          kernel = routine.kernel live code ∧ routine.stride = tier.lanes type ∧
          ∀ (operands : Operands) (memory : Memory), ∃ middle after main tail release,
            routine.Passes live code operands memory middle after main tail release ∧
            (∀ value, .advanced value ∈ main → tier.lanes type ∣ value) ∧
            (type.bytes * operands.len ≤ 2 ^ 63 - 1 → ∀ value,
              .tested value ∈ main ++ tail ++ release ∨ .advanced value ∈ main ++ tail ++ release →
                value ≤ 2 ^ 64 - 1) := by
  have live : type.reserved = false := (Capabilities.shipped_supports h).1
  have hcovers := BindingTable.check_eq_ok_iff.mp BindingTable.check_shipped tier op type h
  have hstride : (BindingTable.shipped.routine op type tier).stride = tier.lanes type :=
    hcovers.stride_routine
  constructor
  · obtain ⟨code, f, hkernel?, _⟩ := shipped_sound h live
    exact ⟨_, mem_compiledVariants.mpr ⟨h, hcompiled, hkernel?⟩⟩
  · intro kernel hmem
    obtain ⟨code, f, rfl, hsound⟩ := exists_sound hmem live
    refine ⟨_, live, code, rfl, hstride, fun operands memory => ?_⟩
    obtain ⟨middle, after, main, tail, release, hpasses⟩ :=
      Routine.exists_passes hsound.implements.combine code operands memory
    refine ⟨middle, after, main, tail, release, hpasses, fun value hvalue => ?_, fun hspan value hvalue => ?_⟩
    · rw [← hstride]
      exact hpasses.dvd hvalue
    · have hlen : operands.len ≤ 2 ^ 63 - 1 :=
        le_trans (Nat.le_mul_of_pos_left _ type.bytes_pos) hspan
      have hlt := hpasses.lt hvalue
      have hlanes := tier.lanes_le type
      omega

/-- Nine bytes on a tier with registers of eight: the first loop takes one turn, its last test is of the last
index of a second register, and the second loop takes one turn from the ninth byte on. -/
theorem variant_index_arithmetic_nine_bytes :
    ∃ kernel, ⟨.mmx, kernel⟩ ∈ compiledVariants .full .add .int8 ∧
      ∃ after main tail release,
        Runs (kernel ⟨0, 8, 17, 9⟩) (.zeros 32) () after (main ++ tail ++ release) ∧
        main.filter Event.isLoop = [.tested 7, .advanced 8, .tested 15] ∧
        tail.filter Event.isLoop = [.tested 8, .advanced 9, .tested 9] ∧
        ∀ value, .tested value ∈ main ++ tail ++ release ∨ .advanced value ∈ main ++ tail ++ release →
          value ≤ 2 ^ 64 - 1 := by
  obtain ⟨⟨kernel, hmem⟩, hkernels⟩ := variant_index_arithmetic .mmx .add .int8 (by decide) .full rfl
  obtain ⟨routine, live, code, rfl, hstride, hruns⟩ := hkernels kernel hmem
  obtain ⟨_, after, main, tail, release, hpasses, -, hbound⟩ := hruns ⟨0, 8, 17, 9⟩ (.zeros 32)
  have hmain := hpasses.mainTurns
  have htail := hpasses.tailTurns
  rw [hstride] at hmain htail
  exact ⟨_, hmem, after, main, tail, release, hpasses.kernel, hmain, htail, hbound (by decide)⟩

end LaneKernels
