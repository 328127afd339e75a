import LaneKernels.Layout
import LaneKernels.Plan
import LaneKernels.Source.Prelude

/-!
The kernel text of a cell, item by item.

* An `Item` defines one function: the scalar kernel, an accelerated kernel, the list of the accelerated
  kernels, or the kernel that picks among them. `Item.name` is what it defines.
* `cellItems` lists the items of a cell, and `Item.steps` lays one out.
-/

namespace LaneKernels.Source

open Layout (Step)

/-- The signature that kernels share. -/
def signature (name : String) (type : ElementType) : String :=
  s!"pub unsafe fn {name}(a: *const {type.shortName}, b: *const {type.shortName}, c: *mut {type.shortName}, len: usize)"

/-- The statement that combines the elements at the index. -/
def elementStatement (op : ArithOp) (type : ElementType) : String :=
  let value := op.elementExpression type "*a.add(i)" "*b.add(i)"
  s!"*c.add(i) = {value};"

/-! ### The scalar kernel -/

/-- The scalar kernel: one element after the other. -/
def defaultSteps (op : ArithOp) (type : ElementType) : List Step :=
  [.line s!"/// Scalar `{op.name}` over `{type.shortName}`.",
    .line "///",
    .line "/// # Safety",
    .line "///",
    .line "/// `a` and `b` must be valid for `len` reads and `c` for `len` writes.",
    .block (signature (defaultName op type) type) "\x7d"
      [.block "for i in 0..len" "\x7d" [.line (elementStatement op type)]],
    .blank]

/-! ### The accelerated kernel -/

/-- The statement that loads an operand's register from the index. -/
def loadStatement (routine : Routine) (operand : String) : String :=
  let pointer := s!"{operand}.add(i)"
  let aligned := routine.alignedLoad.loadCall pointer routine.register
  let unaligned := routine.unalignedLoad.loadCall pointer routine.register
  s!"let vec_{operand}: {routine.register} = if aligned_{operand} \x7b {aligned} \x7d else \x7b {unaligned} \x7d;"

/-- The statement that stores the result's register to the index. -/
def storeStatement (routine : Routine) (binding : Binding) : String :=
  let call := binding.storeCall "c.add(i)" routine.register "vec_c"
  s!"{call};"

/-- The statement that combines the loaded registers. -/
def computeStatement (routine : Routine) : String :=
  let call := routine.compute.computeCall "vec_a" "vec_b"
  s!"let vec_c: {routine.register} = {call};"

/-- The loop over whole registers. -/
def mainLoop (routine : Routine) : Step :=
  .block s!"while i + {routine.lastLane} < len" "\x7d"
    [.line (loadStatement routine "a"),
      .line (loadStatement routine "b"),
      .line (computeStatement routine),
      .block "if aligned_c" "\x7d else \x7b" [.line (storeStatement routine routine.alignedStore)],
      .indent [.line (storeStatement routine routine.unalignedStore)],
      .line "\x7d",
      .line s!"i += {routine.stride};"]

/-- The loop over the elements that fill no register. -/
def tailLoop (routine : Routine) : Step :=
  .block "while i < len" "\x7d"
    [.line (elementStatement routine.op routine.type),
      .line "i += 1;"]

/-- The statement that probes the alignment of a pointer. -/
def probeStatement (tier : Tier) (pointer : String) : String :=
  s!"let aligned_{pointer} = is_aligned({pointer}, {tier.alignment});"

/-- An accelerated kernel: whole registers first, then the rest element by element. -/
def routineSteps (routine : Routine) : List Step :=
  [.line s!"/// `{routine.op.name}` over `{routine.type.shortName}`, {routine.stride} lanes per step on the {routine.tier.name} tier.",
    .line (guardLine routine.tier)] ++
  (routine.tier.targetFeature?.map fun feature =>
    Step.line s!"#[target_feature(enable = \"{feature}\")]").toList ++
  [.block (signature routine.name routine.type) "\x7d"
    ((["a", "b", "c"].map fun pointer => Step.line (probeStatement routine.tier pointer)) ++
      [.line "let mut i = 0;", mainLoop routine, tailLoop routine] ++
      (routine.tier.release?.map fun release => Step.line s!"{release};").toList),
    .blank]

/-! ### The list of accelerated kernels -/

/-- The entry of a tier in the list. -/
def variantEntry (op : ArithOp) (type : ElementType) (tier : Tier) : List Step :=
  [.line (guardLine tier),
    .line s!"variants.push(Variant::new({tierPath tier}, {routineName op type tier}));"]

/-- The function that lists the accelerated kernels. -/
def variantsSteps (op : ArithOp) (type : ElementType) (tiers : List Tier) : List Step :=
  [.line s!"/// Compiled accelerated variants of `{op.name}` over `{type.shortName}`, narrowest first.",
    .line "#[allow(unused_mut)]",
    .block s!"pub fn {variantsName op type}() -> Vec<Variant<{type.shortName}>>" "\x7d"
      ([.line "let mut variants = Vec::new();"] ++ tiers.flatMap (variantEntry op type) ++
        [.line "variants"]),
    .blank]

/-! ### The kernel that picks -/

/-- The kernel that picks the widest usable kernel once and runs it. -/
def dispatcherSteps (op : ArithOp) (type : ElementType) : List Step :=
  [.line s!"/// `{op.name}` over `{type.shortName}` through the widest variant the CPU supports.",
    .line "///",
    .line "/// # Safety",
    .line "///",
    .line s!"/// Same contract as [`{defaultName op type}`].",
    .block (signature (kernelName op type) type) "\x7d"
      [.line s!"static RESOLVED: OnceLock<Kernel<{type.shortName}>> = OnceLock::new();",
        .line s!"let kernel = *RESOLVED.get_or_init(|| resolve(\"{op.name}\", \"{type.shortName}\", {defaultName op type}, &{variantsName op type}()));",
        .line "kernel(a, b, c, len)"],
    .blank]

/-! ### Items -/

/-- A function of the kernel text. -/
inductive Item where
  | default (op : ArithOp) (type : ElementType)
  | routine (routine : Routine)
  | variants (op : ArithOp) (type : ElementType) (tiers : List Tier)
  | dispatcher (op : ArithOp) (type : ElementType)
  deriving DecidableEq, Repr

namespace Item

/-- The name of the function. -/
def name : Item → String
  | default op type => defaultName op type
  | routine r => r.name
  | variants op type _ => variantsName op type
  | dispatcher op type => kernelName op type

/-- The lines of the function. -/
def steps : Item → List Step
  | default op type => defaultSteps op type
  | routine r => routineSteps r
  | variants op type tiers => variantsSteps op type tiers
  | dispatcher op type => dispatcherSteps op type

end Item

/-- The functions of a cell, in the order of the text. -/
def cellItems (cell : Cell) : List Item :=
  [.default cell.op cell.type] ++ cell.routines.map .routine ++
    [.variants cell.op cell.type (cell.routines.map (·.tier)), .dispatcher cell.op cell.type]

end LaneKernels.Source
