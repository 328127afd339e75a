import LaneKernels.Generation
import LaneKernels.Kernel

/-!
Which kernel runs on a platform.

* A `Variant` is a kernel with the tier that it needs. `choose` picks the last variant whose tier is
  available, or the default, and says what it picked.
* A `Platform` says which tiers are compiled in and which the machine has. `compiledVariants` lists the
  accelerated kernels of the shipped tables that are compiled in, narrowest first, and `Platform.kernel`
  is the one that runs.
-/

namespace LaneKernels

/-- A kernel and the tier that it needs. -/
structure Variant (κ : Type) where
  tier : Tier
  kernel : κ

/-- Picks the last available variant, or the default, with the record of the choice. -/
def choose {κ : Type} (available : TierSet) (name type : String) (default : κ)
    (variants : List (Variant κ)) : κ × Log.Record :=
  let record (choice : String) : Log.Record :=
    ⟨.debug, "lanewise::dispatch", s!"{name}/{type}: {choice}"⟩
  match variants.reverse.find? fun variant => available.contains variant.tier with
  | some variant => (variant.kernel, record s!"using the {variant.tier.name} variant")
  | none => (default, record "no accelerated variant available, using the default")

/-- The tiers that are compiled in, and those that the machine has. -/
structure Platform where
  compiled : TierSet
  available : TierSet

/-- The routines of a recipe for an operation on a type, if they can be planned. -/
def Recipe.routines (recipe : Recipe) (op : ArithOp) (type : ElementType) : List Routine :=
  match recipe.planCell op type #[] with
  | .ok cell _ => cell.routines
  | .error _ _ => []

/-- The accelerated kernels that are compiled in for an operation on a type, narrowest tier first. -/
def compiledVariants (compiled : TierSet) (op : ArithOp) (type : ElementType) :
    List (Variant Kernel) :=
  ((Recipe.shipped compiled).routines op type).filterMap fun routine =>
    routine.kernel?.map fun kernel => ⟨routine.tier, kernel⟩

namespace Platform

/-- The platform that has every tier. -/
def full : Platform :=
  ⟨.full, .full⟩

/-- The kernel that runs for an operation on a type. -/
def kernel (platform : Platform) (op : ArithOp) (type : ElementType)
    (live : type.reserved = false) : Kernel :=
  (choose platform.available op.name type.shortName (defaultKernel op type live)
    (compiledVariants platform.compiled op type)).1

end Platform

end LaneKernels
