import LaneKernels.ArithOp

/-!
The slots that an accelerated kernel fills with callables: an aligned and an unaligned load, one
computation per operation, an aligned and an unaligned store. `memory` lists the four slots that
every accelerated kernel needs whatever it computes, and `all` every slot (`mem_all`).
-/

namespace LaneKernels

/-- What a callable does for an accelerated kernel. -/
inductive Slot where
  | alignedLoad
  | unalignedLoad
  | compute (op : ArithOp)
  | alignedStore
  | unalignedStore
  deriving DecidableEq, Repr

namespace Slot

/-- The memory slots, in the order in which they are checked. -/
def memory : List Slot :=
  [alignedLoad, unalignedLoad, alignedStore, unalignedStore]

/-- Every slot. -/
def all : List Slot :=
  memory ++ ArithOp.all.map compute

@[simp] theorem mem_all (slot : Slot) : slot ∈ all := by
  cases slot with
  | compute op => simp [all]
  | _ => decide

/-- The name used in messages. -/
def name : Slot → String
  | alignedLoad => "aligned-load"
  | unalignedLoad => "unaligned-load"
  | compute op => s!"compute({op.name})"
  | alignedStore => "aligned-store"
  | unalignedStore => "unaligned-store"

end Slot

end LaneKernels
