import Mathlib.Tactic
import LaneKernels.Code.Meaning
import LaneKernels.Proofs.Kernels.Acceleration

/-!
The code of the kernels does what the kernels do.

* `perform_defaultBody`: the code of the scalar kernel is the scalar kernel.
* `loopBelow_eq`: a loop whose turns are a step and an advance of the index is the recursion that takes these
  steps. Between two turns the variables are `Locals.between`: the index and the alignment of the arrays.
* `run_registersBody`: with the callables of a routine known, one turn of the loop over whole registers is
  `Routine.combineRegisters`.
* `perform_routineBody`: the code of an accelerated kernel is the accelerated kernel.
-/

namespace LaneKernels.Code

open Evaluation (ofOption ofExecution)

variable {library : Library} {calls : Calls} {operands : Operands}

/-! ### Single elements -/

section

variable {op : ArithOp} {type : ElementType} (live : type.reserved = false)

include live

lemma run_elementBody (locals : Locals) {index : ℕ} (hindex : locals.index = some index) :
    (elementBody op type).run library calls ⟨type, .pointers operands⟩ locals =
      ofExecution (do
        combineElement op type live operands index
        return locals) := by
  have hcombine : combineAt ⟨type, .pointers operands⟩ op locals =
      ofExecution (do
        combineElement op type live operands index
        return locals) := by
    rw [combineAt, dif_pos live, hindex]
    simp only [Given.operands?, Evaluation.ofOption_some, pure_bind, Evaluation.ofExecution_bind,
      Evaluation.ofExecution_pure]
  rw [elementBody, run_line]
  cases hfloat : type.isFloat with
  | true => rw [if_pos rfl, Statement.run, if_pos hfloat, hcombine]
  | false => rw [if_neg (by simp), Statement.run, if_neg (by simp [hfloat]), hcombine]

/-- The code of the scalar kernel is the scalar kernel. -/
theorem perform_defaultBody :
    (defaultBody op type).perform library calls ⟨type, .pointers operands⟩ =
      ofExecution (defaultKernel op type live operands) := by
  have hbody : (fun index => do
        let _ ← (elementBody op type).run library calls ⟨type, .pointers operands⟩
          { Locals.empty with index := some index }) =
      fun index => ofExecution (combineElement op type live operands index) := by
    funext index
    rw [run_elementBody live _ rfl]
    simp only [Evaluation.ofExecution_bind, Evaluation.ofExecution_pure, bind_assoc, pure_bind,
      bind_pure_unit]
  rw [perform, defaultBody, Code.run, Given.operands?, Evaluation.ofOption_some, pure_bind, hbody,
    ← Evaluation.ofExecution_forM]
  simp only [bind_assoc, pure_bind, bind_pure_unit]
  rfl

end

/-! ### Loops -/

namespace Locals

/-- The variables of an accelerated kernel between two turns of a loop. -/
def between (alignment : Alignment) (index : ℕ) : Locals where
  index := some index
  aligned
    | .a => some alignment.a
    | .b => some alignment.b
    | .c => some alignment.c
  vector _ := none
  picked := none

end Locals

section

variable {alignment : Alignment} {value : ℕ → ℕ} {stride : ℕ} {step : ℕ → Execution Unit}
  {loop : ℕ → Execution ℕ}
  (hloop : ∀ index, loop index = (do
    Execution.record (.tested (value index))
    if value index < operands.len then
      step index
      Execution.record (.advanced (index + stride))
      loop (index + stride)
    else return index))
  (hle : ∀ index, index ≤ value index) (hstride : 0 < stride)

include hloop hle hstride

/-- A loop whose turns are a step and an advance of the index is the recursion that takes these steps, if it
may look at the index often enough: once for each element that is left, and once more. -/
lemma loopBelow_eq {value? : Locals → Option ℕ} {turn : Locals → Evaluation Locals}
    (hvalue : ∀ index, value? (.between alignment index) = some (value index))
    (hturn : ∀ index, turn (.between alignment index) =
      ofExecution (do
        step index
        Execution.record (.advanced (index + stride))
        return .between alignment (index + stride)))
    {looks index : ℕ} (hlooks : operands.len - index < looks) :
    loopBelow operands.len value? turn looks (.between alignment index) =
      ofExecution (do
        let last ← loop index
        return .between alignment last) := by
  induction looks generalizing index with
  | zero => exact absurd hlooks (Nat.not_lt_zero _)
  | succ looks ih =>
      rw [loopBelow, hvalue, hloop]
      simp only [Evaluation.ofOption_some, pure_bind, hturn]
      by_cases hfits : value index < operands.len
      · have hnext : operands.len - (index + stride) < looks := by
          have := hle index
          omega
        rw [if_pos hfits, if_pos hfits]
        simp only [Evaluation.ofExecution_bind, Evaluation.ofExecution_pure, bind_assoc, pure_bind]
        refine bind_congr fun _ => bind_congr fun _ => bind_congr fun _ => ?_
        exact (ih hnext).trans (Evaluation.ofExecution_bind _ _)
      · rw [if_neg hfits, if_neg hfits]
        simp only [Evaluation.ofExecution_bind, Evaluation.ofExecution_pure, bind_assoc, pure_bind]

/-- The same of the code of a loop. -/
lemma run_whileBelow {quantity : Quantity} {body : Code} {type : ElementType}
    (hvalue : ∀ index, quantity.value? (.pointers operands) (.between alignment index) =
      some (value index))
    (hbody : ∀ index, (do
        let inner ← body.run library calls ⟨type, .pointers operands⟩ (.between alignment index)
        return (Locals.between alignment index).leave inner) =
      ofExecution (do
        step index
        Execution.record (.advanced (index + stride))
        return .between alignment (index + stride)))
    (index : ℕ) :
    (Code.whileBelow quantity body).run library calls ⟨type, .pointers operands⟩
        (.between alignment index) =
      ofExecution (do
        let last ← loop index
        return .between alignment last) :=
  loopBelow_eq hloop hle hstride hvalue hbody (Nat.lt_succ_of_le (Nat.sub_le _ _))

end

/-! ### Whole registers -/

/-- The transfer of a binding, if it moves the tier's registers. -/
lemma transferNamed_eq {routine : Routine} {direction : Direction} {callable : Binding} {aligned : Bool}
    (h : routine.transfer? direction callable = some aligned) :
    transferNamed direction callable.path = some ⟨direction, routine.tier.registerBytes, aligned⟩ := by
  obtain ⟨transfer, hnamed, hfits⟩ := Option.bind_eq_some_iff.mp h
  split at hfits
  · next hsame =>
      obtain ⟨rfl, hbytes⟩ := hsame
      rw [transferNamed, hnamed, ← hbytes, ← Option.some.inj hfits]
      simp
  · cases hfits

/-- A computation on registers of some bytes. -/
lemma register_apply {computation : Computation} {bytes : ℕ} (h : computation.registerBytes = bytes)
    (x y : BitVec (8 * bytes)) :
    Register.mk computation.registerBytes (computation.apply (x.setWidth _) (y.setWidth _)) =
      ⟨bytes, computation.apply x y⟩ := by
  subst h
  rw [BitVec.setWidth_eq, BitVec.setWidth_eq]

section

variable {routine : Routine} {code : RegisterCode} (hcode : routine.code? = some code)
  (hstride : routine.stride = routine.tier.lanes routine.type)

include hcode

/-- The callables of a routine are those of its code. -/
lemma transfer?_eq_some :
    routine.transfer? .load routine.alignedLoad = some code.alignedLoad ∧
      routine.transfer? .load routine.unalignedLoad = some code.unalignedLoad ∧
      routine.transfer? .store routine.alignedStore = some code.alignedStore ∧
      routine.transfer? .store routine.unalignedStore = some code.unalignedStore := by
  simp only [Routine.code?, Option.bind_eq_bind, Option.bind_eq_some_iff] at hcode
  obtain ⟨_, halignedLoad, _, hunalignedLoad, _, -, _, halignedStore, _, hunalignedStore, heq⟩ := hcode
  cases heq
  exact ⟨halignedLoad, hunalignedLoad, halignedStore, hunalignedStore⟩

lemma named?_eq_some : Computation.named? routine.compute.path = some code.compute ∧
    code.compute.registerBytes = routine.tier.registerBytes := by
  simp only [Routine.code?, Option.bind_eq_bind, Option.bind_eq_some_iff] at hcode
  obtain ⟨_, -, _, -, compute, hcompute, _, -, _, -, heq⟩ := hcode
  cases heq
  obtain ⟨found, hfound, hfits⟩ := Option.bind_eq_some_iff.mp hcompute
  split at hfits
  · next hbytes =>
      cases hfits
      exact ⟨hfound, hbytes⟩
  · cases hfits

lemma transferNamed_load (aligned : Bool) :
    transferNamed .load (if aligned then routine.alignedLoad else routine.unalignedLoad).path =
      some ⟨.load, routine.tier.registerBytes,
        if aligned then code.alignedLoad else code.unalignedLoad⟩ := by
  obtain ⟨haligned, hunaligned, -, -⟩ := transfer?_eq_some hcode
  cases aligned with
  | true => exact transferNamed_eq haligned
  | false => exact transferNamed_eq hunaligned

include hstride

/-- Loading a register loads the lanes at the index. -/
lemma run_load (locals : Locals) {operand : Operand} {index : ℕ} {aligned : Bool}
    (hindex : locals.index = some index) (haligned : locals.aligned operand = some aligned) :
    (Statement.load operand routine.register routine.alignedLoad routine.unalignedLoad).run library
        ⟨routine.type, .pointers operands⟩ locals =
      ofExecution (do
        let word ← Execution.load routine.tier.registerBytes (accessAt routine.type operands .load operand
          index routine.stride (if aligned then code.alignedLoad else code.unalignedLoad))
        return locals.setVector operand ⟨routine.tier.registerBytes, word⟩) := by
  rw [Statement.run, hindex, haligned]
  simp only [Given.operands?, Evaluation.ofOption_some, pure_bind, transferNamed_load hcode,
    Evaluation.ofExecution_bind, Evaluation.ofExecution_pure, registerAccess, hstride, Tier.lanes_eq]

omit hcode in
/-- Storing a register stores the lanes at the index. -/
lemma run_store {callable : Binding} {asks : Bool} {locals : Locals} {index : ℕ}
    {word : BitVec (8 * routine.tier.registerBytes)}
    (hcallable : routine.transfer? .store callable = some asks) (hindex : locals.index = some index)
    (hword : locals.vector .c = some ⟨routine.tier.registerBytes, word⟩) :
    (Statement.store routine.register callable).run library ⟨routine.type, .pointers operands⟩ locals =
      ofExecution (do
        Execution.store routine.tier.registerBytes
          (accessAt routine.type operands .store .c index routine.stride asks) word
        return locals) := by
  rw [Statement.run, hindex, hword]
  simp only [Given.operands?, Evaluation.ofOption_some, pure_bind, transferNamed_eq hcallable, if_true,
    BitVec.setWidth_eq, Evaluation.ofExecution_bind, Evaluation.ofExecution_pure, registerAccess, hstride,
    Tier.lanes_eq]

/-- So does storing it by the alignment of the output. -/
lemma run_branch (locals : Locals) {index : ℕ} {aligned : Bool}
    {word : BitVec (8 * routine.tier.registerBytes)} (hindex : locals.index = some index)
    (haligned : locals.aligned .c = some aligned)
    (hword : locals.vector .c = some ⟨routine.tier.registerBytes, word⟩) :
    (Code.branch (.line (.store routine.register routine.alignedStore))
        (.line (.store routine.register routine.unalignedStore))).run library calls
        ⟨routine.type, .pointers operands⟩ locals =
      ofExecution (do
        Execution.store routine.tier.registerBytes (accessAt routine.type operands .store .c index
          routine.stride (if aligned then code.alignedStore else code.unalignedStore)) word
        return locals) := by
  obtain ⟨-, -, halignedStore, hunalignedStore⟩ := transfer?_eq_some hcode
  have hleave : locals.leave locals = locals := rfl
  rw [Code.run, haligned, Evaluation.ofOption_some, pure_bind]
  cases aligned with
  | true =>
      rw [if_pos rfl, run_line, run_store hstride halignedStore hindex hword]
      simp only [Evaluation.ofExecution_bind, Evaluation.ofExecution_pure, bind_assoc, pure_bind, hleave,
        if_true]
  | false =>
      rw [if_neg (by simp), run_line, run_store hstride hunalignedStore hindex hword]
      simp only [Evaluation.ofExecution_bind, Evaluation.ofExecution_pure, bind_assoc, pure_bind, hleave,
        Bool.false_eq_true, if_false]

/-- Combining registers combines the lanes at the index, and moves the index behind them. -/
lemma run_registersBody (alignment : Alignment) (index : ℕ) :
    (do
      let inner ← (registersBody routine).run library calls ⟨routine.type, .pointers operands⟩
        (.between alignment index)
      return (Locals.between alignment index).leave inner) =
    ofExecution (do
      routine.combineRegisters code operands alignment index
      Execution.record (.advanced (index + routine.stride))
      return .between alignment (index + routine.stride)) := by
  obtain ⟨hnamed, hbytes⟩ := named?_eq_some hcode
  have hcompute : ∀ {locals : Locals} {x y : BitVec (8 * routine.tier.registerBytes)},
      locals.vector .a = some ⟨routine.tier.registerBytes, x⟩ →
      locals.vector .b = some ⟨routine.tier.registerBytes, y⟩ →
      (Statement.compute routine.register routine.compute).run library
          ⟨routine.type, .pointers operands⟩ locals =
        pure (locals.setVector .c ⟨routine.tier.registerBytes, code.compute.apply x y⟩) := by
    intro locals x y hx hy
    rw [Statement.run, hnamed, hx, hy]
    simp only [Evaluation.ofOption_some, pure_bind, hbytes, and_self, if_true, register_apply hbytes]
  rw [registersBody, run_inOrder_cons, run_line, run_load hcode hstride (.between alignment index) rfl rfl,
    Routine.combineRegisters]
  simp only [Evaluation.ofExecution_bind, Evaluation.ofExecution_pure, bind_assoc, pure_bind]
  refine bind_congr fun x => ?_
  rw [run_inOrder_cons, run_line,
    run_load hcode hstride ((Locals.between alignment index).setVector .a ⟨_, x⟩) rfl rfl]
  simp only [Evaluation.ofExecution_bind, Evaluation.ofExecution_pure, bind_assoc, pure_bind]
  refine bind_congr fun y => ?_
  rw [run_inOrder_cons, run_line, hcompute rfl rfl, pure_bind, run_inOrder_cons,
    run_branch hcode hstride _ rfl rfl rfl]
  simp only [Evaluation.ofExecution_bind, Evaluation.ofExecution_pure, bind_assoc, pure_bind]
  refine bind_congr fun _ => ?_
  rw [run_inOrder_cons, run_line, Statement.run]
  simp only [Locals.setVector, Locals.between, Evaluation.ofOption_some, bind_assoc, pure_bind,
    run_inOrder_nil]
  rfl

/-- The loop over whole registers is that of the kernel. -/
lemma run_mainLoop (alignment : Alignment) (index : ℕ) :
    (mainLoop routine).run library calls ⟨routine.type, .pointers operands⟩ (.between alignment index) =
      ofExecution (do
        let last ← routine.mainLoop code operands alignment index
        return .between alignment last) := by
  have hforward : 0 < routine.stride := Nat.succ_pos _
  refine run_whileBelow (fun index => ?_) (fun index => Nat.le_add_right index _) hforward
    (fun _ => rfl) (run_registersBody hcode hstride alignment) index
  conv_lhs => rw [Routine.mainLoop]

end

/-- The loop over single elements is that of the kernel. -/
lemma run_tailLoop {routine : Routine} (live : routine.type.reserved = false) (alignment : Alignment)
    (index : ℕ) :
    (tailLoop routine.op routine.type).run library calls ⟨routine.type, .pointers operands⟩
        (.between alignment index) =
      ofExecution (do
        let last ← routine.tailLoop live operands index
        return .between alignment last) := by
  have hturn : ∀ index, (do
        let inner ← (inOrder [elementBody routine.op routine.type, .line (.advance 1)]).run library calls
          ⟨routine.type, .pointers operands⟩ (.between alignment index)
        return (Locals.between alignment index).leave inner) =
      ofExecution (do
        combineElement routine.op routine.type live operands index
        Execution.record (.advanced (index + 1))
        return .between alignment (index + 1)) := by
    intro index
    rw [run_inOrder_cons, run_elementBody live (.between alignment index) rfl]
    simp only [Evaluation.ofExecution_bind, Evaluation.ofExecution_pure, bind_assoc, pure_bind]
    refine bind_congr fun _ => ?_
    rw [run_inOrder_cons, run_line, Statement.run]
    simp only [Locals.between, Evaluation.ofOption_some, bind_assoc, pure_bind, run_inOrder_nil]
    rfl
  refine run_whileBelow (fun index => ?_) le_refl one_pos (fun _ => rfl) hturn index
  conv_lhs => rw [Routine.tailLoop]

/-! ### The accelerated kernel -/

/-- Probing an array keeps what its address tells. -/
lemma run_probe {routine : Routine} (locals : Locals) (operand : Operand) :
    (Statement.probe operand routine.tier.alignment).run library ⟨routine.type, .pointers operands⟩
        locals =
      ofExecution (do
        let aligned ← Execution.ofExcept (isAligned (operands.base operand) routine.tier.alignment)
        return locals.setAligned operand aligned) := by
  rw [Statement.run]
  simp only [Given.operands?, Evaluation.ofOption_some, pure_bind, Evaluation.ofExecution_bind,
    Evaluation.ofExecution_pure]

/-- The registers are released where their tier asks for it. -/
lemma run_releaseBody {frame : Frame} (tier : Tier) (locals : Locals) :
    (releaseBody tier).run library calls frame locals = (do
      ofExecution (if tier.release?.isSome then Execution.record .released else pure ())
      return locals) := by
  cases tier with
  | mmx =>
      show (Code.line (.release "crate::mm64::empty()")).run library calls frame locals = _
      rw [run_line, Statement.run, if_pos rfl]
      rfl
  | sse | sse2 | avx | avx2 => rfl

/-- The code of an accelerated kernel is the accelerated kernel. -/
theorem perform_routineBody {routine : Routine} {code : RegisterCode}
    (hcode : routine.code? = some code) (hstride : routine.stride = routine.tier.lanes routine.type)
    (live : routine.type.reserved = false) :
    (routineBody routine).perform library calls ⟨routine.type, .pointers operands⟩ =
      ofExecution (routine.kernel live code operands) := by
  have hprobed : ∀ a b c, { ((Locals.empty.setAligned .a a).setAligned .b b).setAligned .c c with
      index := some 0 } = Locals.between ⟨a, b, c⟩ 0 := by
    intro a b c
    simp only [Locals.setAligned, Locals.empty, Locals.between, Locals.mk.injEq, true_and, and_true]
    funext operand
    cases operand <;> rfl
  rw [perform, routineBody, Routine.kernel, Routine.probe]
  simp only [run_inOrder_cons, run_line, run_probe, Evaluation.ofExecution_bind,
    Evaluation.ofExecution_pure, bind_assoc, pure_bind]
  refine bind_congr fun a => bind_congr fun b => bind_congr fun c => ?_
  rw [Statement.run, pure_bind, hprobed, run_mainLoop hcode hstride]
  simp only [Evaluation.ofExecution_bind, Evaluation.ofExecution_pure, bind_assoc, pure_bind]
  refine bind_congr fun index => ?_
  rw [run_tailLoop live]
  simp only [Evaluation.ofExecution_bind, Evaluation.ofExecution_pure, bind_assoc, pure_bind]
  refine bind_congr fun last => ?_
  simp only [run_releaseBody, bind_assoc, pure_bind, run_inOrder_nil, bind_pure_unit]

end LaneKernels.Code
