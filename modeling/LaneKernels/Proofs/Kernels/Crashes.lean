import Mathlib.Tactic
import LaneKernels.Proofs.Kernels.Dispatch

/-!
When a call of the kernels crashes, and what it leaves then.

Only an integer that is divided by zero crashes, and since no tier divides integers, it is the scalar
kernel that does. It has combined the elements before that one by then, and no others.

* `Execution.Crashes` says that code crashes from a memory and what memory it leaves. Code that runs may
  go before it (`Runs.crashes`), and nothing comes after it (`Crashes.bind`).
* `DividesByZero` is the condition at one index: without it the elements can be combined
  (`combine_eq_ok`), with it they cannot (`combine_eq_error`).
* `runs_defaultKernel_before` and `crashes_defaultKernel`: the scalar kernel up to an index, and the crash
  there.
* `EntryPoint.Enters` lists the ways into a kernel. `entry_points_crash` says of all of them when they
  crash, and what they leave.
-/

namespace LaneKernels

namespace Execution

/-- The code crashes from a memory and leaves a memory. -/
def Crashes {α : Type} (code : Execution α) (memory : Memory) (crash : Crash) (after : Memory) : Prop :=
  ∀ past, ∃ events, code ⟨memory, past⟩ = .error crash ⟨after, events⟩

section

variable {α β : Type} {memory middle after : Memory} {value : α}
  {events more : List Event} {crash : Crash}

lemma crashes_ofExcept {result : Except Crash α} (h : result = .error crash) (memory : Memory) :
    Crashes (ofExcept result) memory crash memory := fun past => by
  rw [h]
  exact ⟨past, rfl⟩

/-- Code that crashes after code that runs. -/
lemma Runs.crashes {code : Execution α} {next : α → Execution β}
    (hcode : Runs code memory value middle events) (hnext : Crashes (next value) middle crash after) :
    Crashes (code >>= next) memory crash after := fun past => by
  obtain ⟨later, hlater⟩ := hnext (past ++ events.toArray)
  exact ⟨later, (run_bind_ok (hcode past)).trans hlater⟩

/-- Nothing runs after a crash. -/
lemma Crashes.bind {code : Execution α} {next : α → Execution β}
    (hcode : Crashes code memory crash after) : Crashes (code >>= next) memory crash after :=
  fun past => by
    obtain ⟨later, hlater⟩ := hcode past
    exact ⟨later, run_bind_error hlater⟩

/-- A loop over some elements and then some more. -/
lemma Runs.forM_append {step : α → Execution PUnit} {front back : List α}
    (hfront : Runs (front.forM step) memory () middle events)
    (hback : Runs (back.forM step) middle () after more) :
    Runs ((front ++ back).forM step) memory () after (events ++ more) := by
  rw [List.forM_eq_forM, List.forM_append]
  exact hfront.bind hback

/-- A loop that crashes at an element after some others. -/
lemma Runs.crashes_forM {step : α → Execution PUnit} {front rest : List α} {last : α}
    (hfront : Runs (front.forM step) memory () middle events)
    (hlast : Crashes (step last) middle crash after) :
    Crashes ((front ++ last :: rest).forM step) memory crash after := by
  rw [List.forM_eq_forM, List.forM_append]
  exact hfront.crashes hlast.bind

/-- Code that crashes has its crash for an outcome, and leaves its memory. -/
lemma Crashes.outcome_eq {code : Execution Unit} {machine : Machine}
    (h : Crashes code machine.memory crash after) : outcome code machine = (some crash, after) := by
  obtain ⟨memory, past⟩ := machine
  obtain ⟨later, hlater⟩ := h past
  rw [outcome, hlater]

end

end Execution

open Execution

/-! ### Single elements -/

variable {op : ArithOp} {type : ElementType} {live : type.reserved = false} {operands : Operands}
  {memory : Memory}

/-- The value of an operation on two elements, zero where there is none. -/
def ElementType.value (type : ElementType) (live : type.reserved = false) (op : ArithOp)
    (x y : BitVec type.bits) : BitVec type.bits :=
  (type.combine live op x y).toOption.getD 0

/-- At an index an integer is to be divided by zero. -/
def DividesByZero (op : ArithOp) (type : ElementType) (operands : Operands) (memory : Memory)
    (index : ℕ) : Prop :=
  op = .div ∧ type.isFloat = false ∧ memory.element type operands.b index = 0

instance (index : ℕ) : Decidable (DividesByZero op type operands memory index) :=
  inferInstanceAs (Decidable (_ ∧ _ ∧ _))

lemma integer_eq_ok {width : ℕ} {signed : Bool} {x y : BitVec width} (h : op = .div → y ≠ 0) :
    ∃ value, integer signed op x y = .ok value := by
  cases op with
  | add | sub | mul => exact ⟨_, rfl⟩
  | div => exact ⟨_, if_neg (h rfl)⟩

/-- An operation has a value unless it divides an integer by zero. -/
lemma combine_eq_ok {x y : BitVec type.bits} (h : ¬(op = .div ∧ type.isFloat = false ∧ y = 0)) :
    type.combine live op x y = .ok (type.value live op x y) := by
  have hvalue : ∃ value, type.combine live op x y = .ok value := by
    cases type with
    | float16 | float128 => exact absurd live (by decide)
    | float32 | float64 => exact ⟨_, rfl⟩
    | _ => exact integer_eq_ok fun hop hy => h ⟨hop, rfl, hy⟩
  obtain ⟨value, hvalue⟩ := hvalue
  rw [ElementType.value, hvalue]
  rfl

/-- An integer divided by zero has no value. -/
lemma combine_eq_error {x y : BitVec type.bits} (h : op = .div ∧ type.isFloat = false ∧ y = 0) :
    type.combine live op x y = .error .divisionByZero := by
  obtain ⟨rfl, hint, rfl⟩ := h
  cases type with
  | float16 | float32 | float64 | float128 => exact absurd hint (by decide)
  | _ => rfl

/-- The smallest signed number divided by minus one is itself. -/
lemma combine_intMin_div_neg_one (hsigned : type.kind = .signed) :
    type.combine live .div (BitVec.intMin _) (-1) = .ok (BitVec.intMin _) := by
  have hwidth := type.bits_pos
  cases type with
  | int8 | int16 | int32 | int64 | int128 => exact integer_intMin_div_neg_one hwidth
  | _ => exact absurd hsigned (by decide)

lemma crashes_combineElement {index : ℕ} (h : DividesByZero op type operands memory index) :
    Crashes (combineElement op type live operands index) memory .divisionByZero memory := by
  refine (runs_load memory type.bytes _).crashes ?_
  refine (runs_load memory type.bytes _).crashes ?_
  exact (crashes_ofExcept (combine_eq_error h) memory).bind

/-! ### The scalar kernel up to an index -/

section

variable (live)

/-- As long as nothing is divided by zero, the scalar kernel combines one element after the other. -/
lemma runs_defaultKernel_before {count : ℕ} (hfit : operands.Fit type memory)
    (hcount : count ≤ operands.len) (h : ∀ index < count, ¬DividesByZero op type operands memory index) :
    Runs ((List.range count).forM (combineElement op type live operands)) memory ()
      (combineRange (type.value live op) operands memory 0 count)
      ((List.range count).flatMap (elementEvents type operands)) := by
  induction count with
  | zero => exact runs_pure memory ()
  | succ count ih =>
      have hfront := ih (by omega) fun index hindex => h index (by omega)
      rw [List.range_succ, List.flatMap_append, combineRange_succ, Nat.zero_add]
      refine hfront.forM_append ((runs_combineElement (combine_eq_ok ?_)).bind (runs_pure _ ()))
      -- only elements of the output were written, so the divisor is as it was
      rw [element_combineRange_apart _ hfit.b_apart (by omega) (by omega)]
      exact h count (by omega)

/-- At the first division by zero the scalar kernel crashes, with the elements before it combined. -/
lemma crashes_defaultKernel {k : ℕ} (hfit : operands.Fit type memory) (hk : k < operands.len)
    (hzero : DividesByZero op type operands memory k)
    (hfirst : ∀ j < k, ¬DividesByZero op type operands memory j) :
    Crashes (defaultKernel op type live operands) memory .divisionByZero
      (combineRange (type.value live op) operands memory 0 k) := by
  obtain ⟨rest, hlen⟩ := Nat.exists_eq_add_of_lt hk
  have hrange : List.range operands.len = List.range k ++ k :: List.range' (k + 1) rest := by
    rw [hlen, Nat.add_assoc, List.range_eq_range', List.range_eq_range', ← List.range'_append_1,
      Nat.zero_add, List.range'_succ]
  rw [defaultKernel, hrange]
  refine (runs_defaultKernel_before live hfit hk.le hfirst).crashes_forM (crashes_combineElement ?_)
  rw [DividesByZero, element_combineRange_apart _ hfit.b_apart (by omega) hk]
  exact hzero

end

/-! ### The ways into a kernel -/

/-- The calls that combine the arrays of some operands: the scalar kernel, the kernel that the platform
picks, and the entry points, with an output that may be longer where the lengths are checked. -/
inductive EntryPoint.Enters (platform : Platform) (op : ArithOp) (type : ElementType)
    (live : type.reserved = false) (operands : Operands) : Execution Unit → Prop
  | scalar : Enters platform op type live operands (defaultKernel op type live operands)
  | resolved : Enters platform op type live operands (platform.kernel op type live operands)
  | raw : Enters platform op type live operands (EntryPoint.raw platform op type live operands)
  | slice (room : ℕ) (h : operands.len ≤ room) : Enters platform op type live operands
      (EntryPoint.slice platform op type live ⟨operands.a, operands.len⟩ ⟨operands.b, operands.len⟩
        ⟨operands.c, room⟩)
  | array : Enters platform op type live operands
      (EntryPoint.array platform op type live operands.len operands.a operands.b operands.c)
  | expanded (call : Execution Unit) (h : EntryPoint.macroCall? platform op type live
      ⟨operands.a, operands.len⟩ ⟨operands.b, operands.len⟩ ⟨operands.c, operands.len⟩ = some call) :
      Enters platform op type live operands call

section

variable {platform : Platform} {call : Execution Unit} {machine : Machine}

/-- Each of them has the outcome of the scalar kernel. -/
lemma EntryPoint.Enters.outcome_eq (h : Enters platform op type live operands call)
    (hfit : operands.Fit type machine.memory) :
    outcome call machine = outcome (defaultKernel op type live operands) machine := by
  cases h with
  | scalar => rfl
  | resolved | raw | array => exact outcome_kernel platform hfit
  | slice room hroom =>
      have hslice : EntryPoint.slice platform op type live _ _ _ = platform.kernel op type live operands :=
        slice_eq platform ⟨operands.a, operands.len⟩ ⟨operands.b, operands.len⟩ ⟨operands.c, room⟩ rfl
          hroom
      rw [hslice]
      exact outcome_kernel platform hfit
  | expanded call h =>
      rw [macroCall?, if_pos ⟨rfl, rfl⟩] at h
      obtain rfl := Option.some.inj h
      exact outcome_kernel platform hfit

/-- At the first division by zero a call crashes. The elements before it are combined, and nothing else has
changed. -/
lemma EntryPoint.Enters.exists_outcome_crash (h : Enters platform op type live operands call)
    (hfit : operands.Fit type machine.memory) {k : ℕ} (hk : k < operands.len)
    (hzero : DividesByZero op type operands machine.memory k)
    (hfirst : ∀ j < k, ¬DividesByZero op type operands machine.memory j) :
    ∃ after, outcome call machine = (some .divisionByZero, after) ∧
      Combined op type live { operands with len := k } machine.memory after := by
  have hcrash := crashes_defaultKernel live hfit hk hzero hfirst
  refine ⟨_, (h.outcome_eq hfit).trans hcrash.outcome_eq, ?_⟩
  exact combined_before hfit hk.le fun j hj => combine_eq_ok (hfirst j hj)

/-- Without a division by zero a call combines all elements. -/
lemma EntryPoint.Enters.exists_outcome (h : Enters platform op type live operands call)
    (hfit : operands.Fit type machine.memory)
    (hnone : ∀ k < operands.len, ¬DividesByZero op type operands machine.memory k) :
    ∃ after, outcome call machine = (none, after) ∧
      Combined op type live operands machine.memory after := by
  have hruns := runs_defaultKernel_before live hfit le_rfl hnone
  refine ⟨_, (h.outcome_eq hfit).trans hruns.outcome_eq, ?_⟩
  exact combined_before hfit le_rfl fun j hj => combine_eq_ok (hnone j hj)

/-- A call crashes exactly if it comes upon a division by zero. -/
lemma EntryPoint.Enters.crashes_iff (h : Enters platform op type live operands call)
    (hfit : operands.Fit type machine.memory) :
    (outcome call machine).1 ≠ none ↔
      ∃ k < operands.len, DividesByZero op type operands machine.memory k := by
  constructor
  · intro hcrash
    by_contra hnone
    push Not at hnone
    obtain ⟨after, houtcome, -⟩ := h.exists_outcome hfit hnone
    exact hcrash (congrArg Prod.fst houtcome)
  · intro hexists
    obtain ⟨hlt, hzero⟩ := Nat.find_spec hexists
    have hfirst : ∀ j < Nat.find hexists, ¬DividesByZero op type operands machine.memory j :=
      fun j hj hdivides => Nat.find_min hexists hj ⟨hj.trans hlt, hdivides⟩
    obtain ⟨after, houtcome, -⟩ := h.exists_outcome_crash hfit hlt hzero hfirst
    simp [houtcome]

end

/-- Inputs of different lengths end a call through slices, and otherwise an output that is too short does;
both leave memory as it is. Past that, and on every other way into a kernel, a call crashes exactly if it
comes upon an integer to be divided by zero. At the first such index the elements before it are combined,
and nothing else has changed. A call that does not crash combines all elements, and the smallest signed
number divided by minus one is no crash. -/
theorem entry_points_crash (platform : Platform) (op : ArithOp) (type : ElementType)
    (live : type.reserved = false) :
    (∀ (a b c : EntryPoint.Slice) (machine : Machine),
      (a.length ≠ b.length → outcome (EntryPoint.slice platform op type live a b c) machine =
        (some (.lengthsDiffer op a.length b.length), machine.memory)) ∧
      (a.length = b.length → c.length < a.length →
        outcome (EntryPoint.slice platform op type live a b c) machine =
          (some (.outputTooShort op), machine.memory))) ∧
    (∀ (operands : Operands) (machine : Machine), operands.Fit type machine.memory →
      ∀ call, EntryPoint.Enters platform op type live operands call →
        ((outcome call machine).1 ≠ none ↔
          ∃ k < operands.len, DividesByZero op type operands machine.memory k) ∧
        (∀ k < operands.len, DividesByZero op type operands machine.memory k →
          (∀ j < k, ¬DividesByZero op type operands machine.memory j) →
          ∃ after, outcome call machine = (some .divisionByZero, after) ∧
            Combined op type live { operands with len := k } machine.memory after) ∧
        ((∀ k < operands.len, ¬DividesByZero op type operands machine.memory k) →
          ∃ after, outcome call machine = (none, after) ∧
            Combined op type live operands machine.memory after)) ∧
    (type.kind = .signed → type.combine live .div (BitVec.intMin _) (-1) = .ok (BitVec.intMin _)) := by
  refine ⟨fun a b c machine => ⟨fun hlengths => ?_, fun hlengths hroom => ?_⟩,
    fun operands machine hfit call h => ?_, combine_intMin_div_neg_one⟩
  · rw [EntryPoint.slice, if_pos hlengths]
    rfl
  · rw [EntryPoint.slice, if_neg (not_not_intro hlengths), if_pos hroom]
    rfl
  · exact ⟨h.crashes_iff hfit, fun _ => h.exists_outcome_crash hfit, h.exists_outcome hfit⟩

/-- Four bytes divided by four others, of which the third and the fourth are zero: the call through slices
has written two quotients when it crashes. -/
theorem entry_points_crash_third_zero : ∃ after,
    outcome (EntryPoint.slice .full .div .int8 rfl ⟨0, 4⟩ ⟨4, 4⟩ ⟨8, 5⟩)
        ⟨⟨#[12, 128, 5, 9, 4, 255, 0, 0, 7, 7, 7, 7, 7]⟩, #[]⟩ = (some .divisionByZero, after) ∧
      after.element .int8 8 0 = 3 ∧ after.element .int8 8 1 = 128 ∧ after.byte 10 = 7 := by
  obtain ⟨-, hcalls, -⟩ := entry_points_crash .full .div .int8 rfl
  obtain ⟨-, hcrash, -⟩ := hcalls ⟨0, 4, 8, 4⟩ ⟨⟨#[12, 128, 5, 9, 4, 255, 0, 0, 7, 7, 7, 7, 7]⟩, #[]⟩
    ⟨by decide, by decide, by decide, by decide, by decide⟩ _ (.slice 5 (by decide))
  obtain ⟨after, houtcome, hcombined⟩ := hcrash 2 (by decide) (by decide) (by decide)
  refine ⟨after, houtcome, ?_, ?_, ?_⟩
  · exact (Except.ok.inj (hcombined.element 0 (by decide))).symm
  · exact (Except.ok.inj (hcombined.element 1 (by decide))).symm
  · rw [hcombined.byte 10 (by decide)]
    decide

end LaneKernels
