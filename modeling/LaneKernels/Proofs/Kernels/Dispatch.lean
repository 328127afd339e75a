import Mathlib.Tactic
import LaneKernels.EntryPoint
import LaneKernels.Proofs.Kernels.Acceleration

/-!
Whichever way a kernel is entered, and whichever kernel runs, the outcome is the same.

* `outcome` is what can be seen of a run: the crash if there was one, and the memory that is left.
* `outcome_variant`: a kernel that is compiled in has the outcome of the scalar kernel. Where the scalar
  kernel can crash there is no other kernel, since no tier divides integers.
* `outcome_kernel`: so has the kernel that a platform picks, whatever it picks.
* `entry_points_agree`: so has every way into a kernel.
-/

namespace LaneKernels

open Execution

/-- The crash if there was one, and the memory that is left. -/
def outcome (code : Execution Unit) (machine : Machine) : Option Crash × Memory :=
  match code machine with
  | .ok _ after => (none, after.memory)
  | .error crash after => (some crash, after.memory)

/-- Code that succeeds leaves its memory without a crash. -/
lemma Execution.Runs.outcome_eq {code : Execution Unit} {machine : Machine} {after : Memory}
    {events : List Event} (h : Runs code machine.memory () after events) :
    outcome code machine = (none, after) := by
  obtain ⟨memory, past⟩ := machine
  rw [outcome, h past]

/-- What is picked is the default or one of the variants. -/
lemma choose_mem {κ : Type} (available : TierSet) (name type : String) (default : κ)
    (variants : List (Variant κ)) :
    (choose available name type default variants).1 = default ∨
      ∃ variant ∈ variants, available.contains variant.tier = true ∧
        (choose available name type default variants).1 = variant.kernel := by
  rw [choose]
  cases hfind : variants.reverse.find? fun variant => available.contains variant.tier with
  | none => exact .inl rfl
  | some variant =>
      have hmem : variant ∈ variants := List.mem_reverse.mp (List.mem_of_find?_eq_some hfind)
      have havailable := List.find?_some hfind
      exact .inr ⟨variant, hmem, havailable, rfl⟩

variable {op : ArithOp} {type : ElementType} {live : type.reserved = false} {operands : Operands}
  {machine : Machine}

lemma outcome_variant {compiled : TierSet} {variant : Variant Kernel}
    (hmem : variant ∈ compiledVariants compiled op type) (hfit : operands.Fit type machine.memory) :
    outcome (variant.kernel operands) machine =
      outcome (defaultKernel op type live operands) machine := by
  obtain ⟨tier, kernel⟩ := variant
  obtain ⟨code, f, rfl, hsound⟩ := exists_sound hmem live
  have hcombine : ∀ x y, type.combine live op x y = .ok (f x y) := hsound.implements.combine
  have hscalar := runs_defaultKernel hcombine operands machine.memory
  exact (hsound.runs_kernel hfit).outcome_eq.trans hscalar.outcome_eq.symm

lemma outcome_kernel (platform : Platform) (hfit : operands.Fit type machine.memory) :
    outcome (platform.kernel op type live operands) machine =
      outcome (defaultKernel op type live operands) machine := by
  rw [Platform.kernel]
  obtain hdefault | ⟨variant, hmem, -, hvariant⟩ := choose_mem platform.available op.name
    type.shortName (defaultKernel op type live) (compiledVariants platform.compiled op type)
  · rw [hdefault]
  · rw [hvariant, outcome_variant hmem hfit]

/-- A slice call whose checks pass is the kernel's run. -/
lemma slice_eq (platform : Platform) (a b c : EntryPoint.Slice) (hlengths : a.length = b.length)
    (hroom : a.length ≤ c.length) :
    EntryPoint.slice platform op type live a b c =
      platform.kernel op type live ⟨a.address, b.address, c.address, a.length⟩ := by
  rw [EntryPoint.slice, if_neg (not_not_intro hlengths), if_neg (Nat.not_lt.mpr hroom)]
  rfl

/-- All ways into a kernel, the scalar kernel and each kernel that is compiled in have one outcome
on the same arrays: the same memory, and the same crash or none. -/
theorem entry_points_agree (platform : Platform) (op : ArithOp) (type : ElementType)
    (live : type.reserved = false) (operands : Operands) (machine : Machine)
    (hfit : operands.Fit type machine.memory) :
    let a : EntryPoint.Slice := ⟨operands.a, operands.len⟩
    let b : EntryPoint.Slice := ⟨operands.b, operands.len⟩
    let scalar := outcome (defaultKernel op type live operands) machine
    outcome (platform.kernel op type live operands) machine = scalar ∧
      outcome (EntryPoint.raw platform op type live operands) machine = scalar ∧
      (∀ room, operands.len ≤ room →
        outcome (EntryPoint.slice platform op type live a b ⟨operands.c, room⟩) machine = scalar) ∧
      outcome (EntryPoint.array platform op type live operands.len operands.a operands.b operands.c)
        machine = scalar ∧
      (∃ call, EntryPoint.macroCall? platform op type live a b ⟨operands.c, operands.len⟩ = some call ∧
        outcome call machine = scalar) ∧
      ∀ variant ∈ compiledVariants platform.compiled op type,
        outcome (variant.kernel operands) machine = scalar := by
  intro a b scalar
  have hkernel : outcome (platform.kernel op type live operands) machine = scalar :=
    outcome_kernel platform hfit
  refine ⟨hkernel, hkernel, fun room hroom => ?_, hkernel, ?_, fun variant hmem => ?_⟩
  · have hslice : EntryPoint.slice platform op type live a b ⟨operands.c, room⟩ =
        platform.kernel op type live operands := slice_eq platform a b ⟨operands.c, room⟩ rfl hroom
    rw [hslice]
    exact hkernel
  · rw [EntryPoint.macroCall?, if_pos ⟨rfl, rfl⟩]
    exact ⟨_, rfl, hkernel⟩
  · exact outcome_variant hmem hfit

/-- Bytes divided by zero: the call through slices crashes as the scalar kernel does. -/
theorem entry_points_agree_division_by_zero :
    outcome (EntryPoint.slice .full .div .int8 rfl ⟨0, 4⟩ ⟨4, 4⟩ ⟨8, 5⟩) ⟨.zeros 16, #[]⟩ =
      (some .divisionByZero, .zeros 16) := by
  have hslice := (entry_points_agree .full .div .int8 rfl ⟨0, 4, 8, 4⟩ ⟨.zeros 16, #[]⟩
    ⟨by decide, by decide, by decide, by decide, by decide⟩).2.2.1 5 (by decide)
  rw [hslice]
  decide

end LaneKernels
