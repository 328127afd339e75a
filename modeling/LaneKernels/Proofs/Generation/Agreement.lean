import Mathlib.Tactic
import LaneKernels.Proofs.Generation.Planning

/-!
What a plan takes from a table.

* `BindingTable.Agrees`: two tables have the same register type and the same callables for one kernel.
  Such tables describe the same kernel (`Agrees.routine_eq`).
* `Recipe.cell_eq`: recipes that select the same tiers for an operation on a type, and whose tables agree
  for these tiers, plan the same kernels for it. Nothing else of a recipe reaches them.
* `Recipe.chapters_eq`: recipes that plan the same kernels everywhere have the same plan.
-/

namespace LaneKernels

namespace BindingTable

/-- The tables have the same for the kernel of a tier for an operation on a type. -/
structure Agrees (table other : BindingTable) (tier : Tier) (op : ArithOp) (type : ElementType) :
    Prop where
  register : table.register? tier type = other.register? tier type
  slots : ∀ slot ∈ .compute op :: Slot.memory,
    table.binding? tier slot type = other.binding? tier slot type

variable {table other : BindingTable} {tier : Tier} {op : ArithOp} {type : ElementType}

lemma Agrees.callable_eq (h : table.Agrees other tier op type) {slot : Slot}
    (hslot : slot ∈ .compute op :: Slot.memory) :
    table.callable tier slot type = other.callable tier slot type := by
  rw [callable, callable, h.slots slot hslot]

/-- Tables that agree describe the same kernel. -/
lemma Agrees.routine_eq (h : table.Agrees other tier op type) :
    table.routine op type tier = other.routine op type tier := by
  have hregister : table.registerName tier type = other.registerName tier type := by
    rw [registerName, registerName, h.register]
  have hmemory : ∀ slot ∈ Slot.memory, table.callable tier slot type = other.callable tier slot type :=
    fun slot hslot => h.callable_eq (List.mem_cons_of_mem _ hslot)
  rw [routine, routine, hregister, h.callable_eq List.mem_cons_self,
    hmemory .alignedLoad (by decide), hmemory .unalignedLoad (by decide),
    hmemory .alignedStore (by decide), hmemory .unalignedStore (by decide)]

end BindingTable

namespace Recipe

variable {recipe other : Recipe} {op : ArithOp} {type : ElementType}

/-- The kernels of an operation on a type come from the selected tiers and what the table has for them. -/
lemma cell_eq (htiers : recipe.acceleratedTiers op type = other.acceleratedTiers op type)
    (h : ∀ tier ∈ recipe.acceleratedTiers op type, recipe.table.Agrees other.table tier op type) :
    recipe.cell op type = other.cell op type := by
  rw [cell, cell, ← htiers]
  exact congrArg (Cell.mk op type) (List.map_congr_left fun tier htier => (h tier htier).routine_eq)

lemma chapters_eq (h : ∀ op type, recipe.cell op type = other.cell op type) :
    recipe.chapters = other.chapters := by
  have hcell : recipe.cell = other.cell := funext fun op => funext fun type => h op type
  have hchapter : recipe.chapter = other.chapter := funext fun op => by
    rw [chapter, chapter, hcell]
  rw [chapters, chapters, hchapter]

end Recipe

end LaneKernels
