import Mathlib.Tactic
import LaneKernels.Proofs.Kernels.Elements
import LaneKernels.Proofs.Kernels.LaneArithmetic
import LaneKernels.Proofs.Stateful

/-!
What a run of a kernel does to memory, and the events on its way.

* `Execution.Runs` says that code succeeds from a memory with a value, the memory after it and the
  events that it records. There is one lemma for each operation of the machine, and `Runs.bind`
  composes them.
* `runs_combineElement` and `runs_combineRegisters` are the steps of the two loops, and `runs_mainLoop`,
  `runs_tailLoop` and `runs_defaultKernel` the loops, by induction on their steps. They say what happens
  wherever the arrays are, even where they overlap.
* `Sound.storeRegisters_eq`: where the arrays are apart, a step on whole registers leaves the memory that
  its elements would leave one after the other.
* `Sound.runs_kernel`: a kernel whose callables are right leaves the memory in which all elements were
  combined.
-/

namespace LaneKernels

namespace Execution

/-- The code succeeds from a memory with a value, leaves a memory and records some events. -/
def Runs {α : Type} (code : Execution α) (memory : Memory) (value : α) (after : Memory)
    (events : List Event) : Prop :=
  ∀ past, code ⟨memory, past⟩ = .ok value ⟨after, past ++ events.toArray⟩

section

variable {α β : Type} {memory middle after : Memory} {value : α} {events more : List Event}

lemma runs_pure (memory : Memory) (value : α) :
    Runs (pure value) memory value memory [] := fun past => by
  show EStateM.Result.ok value (Machine.mk memory past) = .ok value ⟨memory, past ++ #[]⟩
  rw [Array.append_empty]

lemma runs_record (memory : Memory) (event : Event) : Runs (record event) memory () memory [event] :=
  fun past => by
    show EStateM.Result.ok () (Machine.mk memory (past.push event)) = _
    rw [Array.push_eq_append]

lemma runs_ofExcept {result : Except Crash α} (h : result = .ok value) (memory : Memory) :
    Runs (ofExcept result) memory value memory [] := by
  rw [h]
  exact runs_pure memory value

lemma runs_load (memory : Memory) (bytes : ℕ) (access : Access) :
    Runs (load bytes access) memory (memory.load access.address bytes) memory [.accessed access] :=
  fun past => by
    show EStateM.Result.ok (memory.load access.address bytes) (Machine.mk memory (past.push _)) = _
    rw [Array.push_eq_append]

lemma runs_store (memory : Memory) (bytes : ℕ) (access : Access) (word : BitVec (8 * bytes)) :
    Runs (store bytes access word) memory () (memory.store access.address bytes word)
      [.accessed access] := fun past => by
  show EStateM.Result.ok () (Machine.mk (memory.store access.address bytes word) (past.push _)) = _
  rw [Array.push_eq_append]

/-- Code after code starts from the memory that the first one leaves. -/
lemma Runs.bind {code : Execution α} {next : α → Execution β} {answer : β}
    (hcode : Runs code memory value middle events)
    (hnext : Runs (next value) middle answer after more) :
    Runs (code >>= next) memory answer after (events ++ more) := fun past => by
  rw [run_bind (hcode past) (hnext _), Array.append_assoc, List.append_toArray events more]

end

end Execution

open Execution

/-! ### Single elements -/

/-- The accesses that combine the elements at an index. -/
def elementEvents (type : ElementType) (operands : Operands) (index : ℕ) : List Event :=
  [.accessed (accessAt type operands .load .a index 1 false),
    .accessed (accessAt type operands .load .b index 1 false),
    .accessed (accessAt type operands .store .c index 1 false)]

section

variable {op : ArithOp} {type : ElementType} {live : type.reserved = false}
  {f : BitVec type.bits → BitVec type.bits → BitVec type.bits}

lemma runs_combineElement {operands : Operands} {memory : Memory} {index : ℕ}
    (hf : type.combine live op (memory.element type operands.a index)
        (memory.element type operands.b index) =
      .ok (f (memory.element type operands.a index) (memory.element type operands.b index))) :
    Runs (combineElement op type live operands index) memory () (combineAt f operands memory index)
      (elementEvents type operands index) := by
  refine (runs_load memory type.bytes _).bind ?_
  refine (runs_load memory type.bytes _).bind ?_
  refine (runs_ofExcept hf memory).bind ?_
  exact runs_store memory type.bytes _ _

/-- The scalar kernel combines all elements in order. -/
lemma runs_defaultKernel (hf : ∀ x y, type.combine live op x y = .ok (f x y)) (operands : Operands)
    (memory : Memory) :
    Runs (defaultKernel op type live operands) memory () (combineRange f operands memory 0 operands.len)
      ((List.range operands.len).flatMap (elementEvents type operands)) := by
  have key : ∀ count first memory,
      Runs ((List.range' first count).forM (combineElement op type live operands))
      memory () (combineRange f operands memory first count)
      ((List.range' first count).flatMap (elementEvents type operands)) := by
    intro count
    induction count with
    | zero => exact fun first memory => runs_pure memory ()
    | succ count ih =>
        intro first memory
        rw [List.range'_succ, List.flatMap_cons, combineRange_succ']
        exact (runs_combineElement (hf _ _)).bind (ih (first + 1) _)
  have hall := key operands.len 0 memory
  rw [← List.range_eq_range'] at hall
  exact hall

end

namespace Routine

variable (routine : Routine)

/-! ### Whole registers -/

/-- Which arrays start at a multiple of the register's bytes. -/
def alignmentOf (operands : Operands) : Alignment where
  a := operands.a % routine.tier.alignment = 0
  b := operands.b % routine.tier.alignment = 0
  c := operands.c % routine.tier.alignment = 0

/-- The accesses that combine the registers at an index. -/
def registerEvents (code : RegisterCode) (operands : Operands) (index : ℕ) : List Event :=
  let alignment := routine.alignmentOf operands
  let access (direction : Direction) (operand : Operand) (aligned : Bool) : Event :=
    .accessed (accessAt routine.type operands direction operand index routine.stride aligned)
  [access .load .a (if alignment.a then code.alignedLoad else code.unalignedLoad),
    access .load .b (if alignment.b then code.alignedLoad else code.unalignedLoad),
    access .store .c (if alignment.c then code.alignedStore else code.unalignedStore)]

/-- Memory with the registers at an index combined into the output. -/
def storeRegisters (code : RegisterCode) (operands : Operands) (memory : Memory) (index : ℕ) : Memory :=
  memory.store (operands.c + routine.type.bytes * index) routine.tier.registerBytes
    (code.compute.apply
      (memory.load (operands.a + routine.type.bytes * index) routine.tier.registerBytes)
      (memory.load (operands.b + routine.type.bytes * index) routine.tier.registerBytes))

/-- Memory with some consecutive registers combined into the output, one after the other. -/
def storeTurns (code : RegisterCode) (operands : Operands) (memory : Memory) (index turns : ℕ) : Memory :=
  (List.range' index turns routine.stride).foldl (routine.storeRegisters code operands) memory

/-- The events of one turn of the main loop. -/
def mainEvents (code : RegisterCode) (operands : Operands) (index : ℕ) : List Event :=
  .tested (index + routine.lastLane) ::
    (routine.registerEvents code operands index ++ [.advanced (index + routine.stride)])

/-- The events of one turn of the tail loop. -/
def tailEvents (operands : Operands) (index : ℕ) : List Event :=
  .tested index :: (elementEvents routine.type operands index ++ [.advanced (index + 1)])

/-- The callables of a kernel are right: its computation is `f` in each lane, the lanes fill the
register, and exactly the transfers for aligned addresses ask for alignment. -/
structure Sound (live : routine.type.reserved = false) (code : RegisterCode)
    (f : BitVec routine.type.bits → BitVec routine.type.bits → BitVec routine.type.bits) : Prop where
  fits : code.fits routine = true
  implements : code.compute.Implements routine.op routine.type live f
  bytes_mul_stride : routine.type.bytes * routine.stride = routine.tier.registerBytes

variable {routine} {live : routine.type.reserved = false} {code : RegisterCode}
  {f : BitVec routine.type.bits → BitVec routine.type.bits → BitVec routine.type.bits}

lemma Sound.registerBytes (h : routine.Sound live code f) :
    code.compute.registerBytes = routine.tier.registerBytes := by
  have hfits := h.fits
  simp only [RegisterCode.fits, Bool.and_eq_true, decide_eq_true_eq] at hfits
  exact hfits.1.1.1.1.2

/-- The computation is `f` in each lane of the tier's registers. -/
lemma Sound.lane_apply (h : routine.Sound live code f) {k : ℕ} (hk : k < routine.stride)
    (x y : BitVec (8 * routine.tier.registerBytes)) :
    Lanes.lane routine.type.bits k (code.compute.apply x y) =
      f (Lanes.lane routine.type.bits k x) (Lanes.lane routine.type.bits k y) := by
  have hlanes := h.implements.lanes
  rw [h.registerBytes] at hlanes
  refine hlanes x y k ?_
  rw [ElementType.bits, Nat.mul_assoc, ← h.bytes_mul_stride]
  exact Nat.mul_le_mul_left 8 (Nat.mul_le_mul_left _ hk)

/-- Combining registers leaves the memory that combining their elements one after the other leaves. -/
lemma Sound.storeRegisters_eq (h : routine.Sound live code f) {operands : Operands} {memory : Memory}
    (hfit : operands.Fit routine.type memory) {index : ℕ}
    (hindex : index + routine.stride ≤ operands.len) :
    routine.storeRegisters code operands memory index =
      combineRange f operands memory index routine.stride := by
  have hend : routine.type.bytes * (index + routine.stride) ≤ routine.type.bytes * operands.len :=
    Nat.mul_le_mul_left _ hindex
  have hwidth : routine.type.bytes * (index + routine.stride) =
      routine.type.bytes * index + routine.tier.registerBytes := by
    rw [Nat.mul_add, h.bytes_mul_stride]
  have hroom : operands.c + routine.type.bytes * index + routine.tier.registerBytes ≤ memory.size :=
    le_trans (by omega) hfit.c_le
  refine Memory.eq_of_elements routine.type operands.c index routine.stride ?_
    (fun place hfirst hlast => ?_) (fun p hp => ?_)
  · rw [storeRegisters, Memory.size_store, size_combineRange]
  · obtain ⟨k, rfl⟩ := Nat.exists_eq_add_of_le hfirst
    have hk : k < routine.stride := by omega
    have hlane : routine.type.bytes * (k + 1) ≤ routine.tier.registerBytes := by
      rw [← h.bytes_mul_stride]
      exact Nat.mul_le_mul_left _ hk
    have hload : ∀ base, Lanes.lane routine.type.bits k
        (memory.load (base + routine.type.bytes * index) routine.tier.registerBytes) =
          memory.element routine.type base (index + k) := fun base => by
      rw [Memory.element, Nat.mul_add, ← Nat.add_assoc]
      exact Memory.lane_load hlane
    rw [element_combineRange f hfit hindex hfirst hlast, ← hload, ← hload, ← h.lane_apply hk,
      storeRegisters, Memory.element, Nat.mul_add, ← Nat.add_assoc]
    exact Memory.load_store_lane hroom hlane _
  · rw [byte_combineRange f hp, storeRegisters, Memory.byte_store_apart (by omega)]

/-- So does combining registers one after the other. -/
lemma Sound.storeTurns_eq (h : routine.Sound live code f) {operands : Operands} {n : ℕ} :
    ∀ (memory : Memory) (index : ℕ), operands.Fit routine.type memory →
      index + routine.stride * n ≤ operands.len →
      routine.storeTurns code operands memory index n =
        combineRange f operands memory index (routine.stride * n) := by
  induction n with
  | zero => exact fun _ _ _ _ => rfl
  | succ n ih =>
      intro memory index hfit hlen
      rw [Nat.mul_add_one, Nat.add_comm _ routine.stride] at hlen ⊢
      rw [storeTurns, List.range'_succ, List.foldl_cons, h.storeRegisters_eq hfit (by omega),
        ← combineRange_add]
      exact ih _ _ (hfit.of_size (size_combineRange f index routine.stride)) (by omega)

lemma runs_probe (operands : Operands) (memory : Memory) :
    Runs (routine.probe operands) memory (routine.alignmentOf operands) memory [] := by
  have hprobe : ∀ address, isAligned address routine.tier.alignment =
      .ok (address % routine.tier.alignment = 0) := fun address => by
    rw [isAligned, if_neg (Nat.ne_of_gt routine.tier.alignment_pos)]
  refine (runs_ofExcept (hprobe operands.a) memory).bind ?_
  refine (runs_ofExcept (hprobe operands.b) memory).bind ?_
  refine (runs_ofExcept (hprobe operands.c) memory).bind ?_
  exact runs_pure memory _

/-- A turn of the main loop combines one register of each input. -/
lemma runs_combineRegisters (code : RegisterCode) (operands : Operands) (memory : Memory) (index : ℕ) :
    Runs (routine.combineRegisters code operands (routine.alignmentOf operands) index) memory ()
      (routine.storeRegisters code operands memory index)
      (routine.registerEvents code operands index) := by
  refine (runs_load memory routine.tier.registerBytes _).bind ?_
  refine (runs_load memory routine.tier.registerBytes _).bind ?_
  exact runs_store memory routine.tier.registerBytes _ _

/-! ### The loops -/

/-- The main loop takes whole registers as long as one fits. -/
lemma runs_mainLoop (routine : Routine) (code : RegisterCode) (operands : Operands) {n : ℕ} :
    ∀ (memory : Memory) (index : ℕ), index + routine.stride * n ≤ operands.len →
      operands.len < index + routine.stride * n + routine.stride →
      Runs (routine.mainLoop code operands (routine.alignmentOf operands) index) memory
        (index + routine.stride * n) (routine.storeTurns code operands memory index n)
        ((List.range' index n routine.stride).flatMap (routine.mainEvents code operands) ++
          [.tested (index + routine.stride * n + routine.lastLane)]) := by
  have hstride : routine.stride = routine.lastLane + 1 := rfl
  induction n with
  | zero =>
      intro memory index hle hlt
      rw [Nat.mul_zero, Nat.add_zero] at *
      rw [mainLoop, if_neg (by omega)]
      exact (runs_record memory _).bind (runs_pure memory index)
  | succ n ih =>
      intro memory index hle hlt
      have hlong : routine.stride * (n + 1) = routine.stride + routine.stride * n := by
        rw [Nat.mul_add_one, Nat.add_comm]
      have hnext := ih (routine.storeRegisters code operands memory index) (index + routine.stride)
        (by omega) (by omega)
      rw [Nat.add_assoc index, ← hlong] at hnext
      -- a turn is the test, the accesses and the step of the index, before the turns that follow
      rw [storeTurns, List.range'_succ, List.flatMap_cons, List.foldl_cons, List.append_assoc,
        mainEvents, List.cons_append, List.append_assoc, ← List.singleton_append, mainLoop,
        if_pos (by omega)]
      refine (runs_record memory _).bind ?_
      refine (runs_combineRegisters code operands memory index).bind ?_
      exact (runs_record _ _).bind hnext

/-- The tail loop takes the elements that are left. -/
lemma runs_tailLoop (hf : ∀ x y, routine.type.combine live routine.op x y = .ok (f x y))
    {operands : Operands} {count : ℕ} :
    ∀ (memory : Memory) (index : ℕ), index + count = operands.len →
      Runs (routine.tailLoop live operands index) memory operands.len
        (combineRange f operands memory index count)
        ((List.range' index count).flatMap (routine.tailEvents operands) ++
          [.tested operands.len]) := by
  induction count with
  | zero =>
      intro memory index hlen
      obtain rfl : index = operands.len := by omega
      rw [tailLoop, if_neg (by omega)]
      exact (runs_record memory _).bind (runs_pure memory operands.len)
  | succ count ih =>
      intro memory index hlen
      rw [List.range'_succ, List.flatMap_cons, List.append_assoc, tailEvents, List.cons_append,
        List.append_assoc, ← List.singleton_append, tailLoop, if_pos (by omega), combineRange_succ']
      refine (runs_record memory _).bind ?_
      refine (runs_combineElement (hf _ _)).bind ?_
      exact (runs_record _ _).bind (ih _ _ (by omega))

/-! ### The whole kernel -/

/-- The events of a run: whole registers, the elements that are left, and the release if one is due. -/
def trace (routine : Routine) (code : RegisterCode) (operands : Operands) : List Event :=
  let turns := operands.len / routine.stride
  let mainTurns := (List.range' 0 turns routine.stride).flatMap (routine.mainEvents code operands)
  let tailTurns := (List.range' (routine.stride * turns) (operands.len % routine.stride)).flatMap
    (routine.tailEvents operands)
  mainTurns ++ [.tested (routine.stride * turns + routine.lastLane)] ++
    (tailTurns ++ [.tested operands.len] ++ if routine.tier.release?.isSome then [.released] else [])

/-- The memory after a run: whole registers were combined, and then the elements that are left. -/
def result (routine : Routine) (code : RegisterCode)
    (f : BitVec routine.type.bits → BitVec routine.type.bits → BitVec routine.type.bits)
    (operands : Operands) (memory : Memory) : Memory :=
  let turns := operands.len / routine.stride
  combineRange f operands (routine.storeTurns code operands memory 0 turns) (routine.stride * turns)
    (operands.len % routine.stride)

/-- A kernel runs to its end wherever its arrays are. -/
lemma runs_kernel (hf : ∀ x y, routine.type.combine live routine.op x y = .ok (f x y))
    (code : RegisterCode) (operands : Operands) (memory : Memory) :
    Runs (routine.kernel live code operands) memory () (routine.result code f operands memory)
      (routine.trace code operands) := by
  have hsplit : routine.stride * (operands.len / routine.stride) + operands.len % routine.stride =
      operands.len := Nat.div_add_mod operands.len routine.stride
  have hmod : operands.len % routine.stride < routine.stride := Nat.mod_lt _ (Nat.succ_pos _)
  have hmain := runs_mainLoop (n := operands.len / routine.stride) routine code operands memory 0
    (by omega) (by omega)
  rw [Nat.zero_add] at hmain
  have htail := runs_tailLoop hf
    (routine.storeTurns code operands memory 0 (operands.len / routine.stride)) _ hsplit
  have hrelease : ∀ after, Runs (if routine.tier.release?.isSome then record .released else pure ())
      after () after (if routine.tier.release?.isSome then [.released] else []) := by
    intro after
    split
    · exact runs_record _ _
    · exact runs_pure _ ()
  rw [trace, ← List.nil_append (_ ++ _ ++ _)]
  exact (runs_probe operands memory).bind (hmain.bind (htail.bind (hrelease _)))

/-- Where the arrays are apart, the memory after a run is the one in which all elements were combined. -/
lemma Sound.result_eq (h : routine.Sound live code f) {operands : Operands} {memory : Memory}
    (hfit : operands.Fit routine.type memory) :
    routine.result code f operands memory = combineRange f operands memory 0 operands.len := by
  have hsplit : routine.stride * (operands.len / routine.stride) + operands.len % routine.stride =
      operands.len := Nat.div_add_mod operands.len routine.stride
  have hall := combineRange_add f operands memory 0 (routine.stride * (operands.len / routine.stride))
    (operands.len % routine.stride)
  rw [Nat.zero_add, hsplit] at hall
  rw [result, h.storeTurns_eq memory 0 hfit (by omega), hall]

/-- A kernel whose callables are right combines all elements. -/
theorem Sound.runs_kernel (h : routine.Sound live code f) {operands : Operands} {memory : Memory}
    (hfit : operands.Fit routine.type memory) :
    Runs (routine.kernel live code operands) memory () (combineRange f operands memory 0 operands.len)
      (routine.trace code operands) := by
  rw [← h.result_eq hfit]
  exact Routine.runs_kernel h.implements.combine code operands memory

/-- An access of a run is one of a turn on whole registers, or one to an element that is left. -/
lemma accessed_mem_trace {operands : Operands} {access : Access} :
    .accessed access ∈ routine.trace code operands ↔
      (∃ turn < operands.len / routine.stride,
        .accessed access ∈ routine.registerEvents code operands (routine.stride * turn)) ∨
      ∃ index, routine.stride * (operands.len / routine.stride) ≤ index ∧ index < operands.len ∧
        .accessed access ∈ elementEvents routine.type operands index := by
  have hsplit : routine.stride * (operands.len / routine.stride) + operands.len % routine.stride =
      operands.len := Nat.div_add_mod operands.len routine.stride
  have hrelease :
      Event.accessed access ∉ if routine.tier.release?.isSome then [Event.released] else [] := by
    split <;> simp
  simp only [trace, mainEvents, tailEvents, List.mem_append, List.mem_flatMap, List.mem_cons,
    List.not_mem_nil, or_false, reduceCtorEq, false_or, hrelease]
  refine or_congr ⟨?_, ?_⟩ (exists_congr fun index => ?_)
  · rintro ⟨_, hindex, hmem⟩
    obtain ⟨turn, hturn, rfl⟩ := List.mem_range'.mp hindex
    exact ⟨turn, hturn, by rwa [Nat.zero_add] at hmem⟩
  · rintro ⟨turn, hturn, hmem⟩
    exact ⟨_, List.mem_range'.mpr ⟨turn, hturn, rfl⟩, by rwa [Nat.zero_add]⟩
  · rw [List.mem_range'_1, hsplit, and_assoc]

end Routine

end LaneKernels
