import LaneKernels.Code.Syntax
import LaneKernels.Platform

/-!
The functions of a generated library.

* There is one definition for the body of each kind of function: the scalar and the accelerated kernels,
  the kernel that picks, and the ways into it.
* A `Library` is what code can refer to. `Library.ofCells` has the functions of some cells: those that the
  items of the kernel text define, those of the array text, and the methods of the traits.
* `Platform.library` is the library that the shipped tables make on a platform.
-/

namespace LaneKernels.Code

open Source (Item)

/-! ### Kernels -/

/-- Combines the elements at the index: floats by an operator, integers by a wrapping method. -/
def elementBody (op : ArithOp) (type : ElementType) : Code :=
  .line (if type.isFloat then .operator op else .wrapping op)

/-- The body of the scalar kernel. -/
def defaultBody (op : ArithOp) (type : ElementType) : Code :=
  .forEach (elementBody op type)

/-- Combines whole registers at the index. -/
def registersBody (routine : Routine) : Code :=
  inOrder
    [.line (.load .a routine.register routine.alignedLoad routine.unalignedLoad),
      .line (.load .b routine.register routine.alignedLoad routine.unalignedLoad),
      .line (.compute routine.register routine.compute),
      .branch (.line (.store routine.register routine.alignedStore))
        (.line (.store routine.register routine.unalignedStore)),
      .line (.advance routine.stride)]

/-- The loop over whole registers. -/
def mainLoop (routine : Routine) : Code :=
  .whileBelow (.ahead routine.lastLane) (registersBody routine)

/-- The loop over the elements that fill no register. -/
def tailLoop (op : ArithOp) (type : ElementType) : Code :=
  .whileBelow .index (inOrder [elementBody op type, .line (.advance 1)])

/-- Releases the registers of a tier, where that is due. -/
def releaseBody (tier : Tier) : Code :=
  match tier.release? with
  | some callable => .line (.release callable)
  | none => .skip

/-- The body of an accelerated kernel. -/
def routineBody (routine : Routine) : Code :=
  inOrder
    [.line (.probe .a routine.tier.alignment), .line (.probe .b routine.tier.alignment),
      .line (.probe .c routine.tier.alignment), .line .start, mainLoop routine,
      tailLoop routine.op routine.type, releaseBody routine.tier]

/-- The entry of a tier in a list of accelerated kernels. -/
def tierEntry (op : ArithOp) (type : ElementType) (tier : Tier) : Entry :=
  ⟨tier.buildGuard, tier, routineName op type tier⟩

/-- The body of the kernel that picks. -/
def dispatcherBody (op : ArithOp) (type : ElementType) : Code :=
  inOrder
    [.line (.declare type.shortName),
      .line (.resolve op.name type.shortName (defaultName op type) (variantsName op type)),
      .callPicked [.parameter .a, .parameter .b, .parameter .c, .quantity .len]]

/-! ### Ways into a kernel -/

/-- The name of the method that takes pointers. -/
def rawMethod (op : ArithOp) : String :=
  s!"{op.name}_raw"

/-- The name of the method that takes slices. -/
def sliceMethod (op : ArithOp) : String :=
  s!"{op.name}_slice"

/-- The name of the method that takes arrays. -/
def arrayMethod (op : ArithOp) : String :=
  s!"{op.name}_array"

/-- The body of the method that takes pointers. -/
def rawBody (op : ArithOp) (type : ElementType) : Code :=
  .call false (.kernel (kernelName op type))
    [.parameter .a, .parameter .b, .parameter .c, .quantity .len]

/-- The body of the method that takes slices. -/
def sliceBody (op : ArithOp) : Code :=
  inOrder
    [.line (.requireSame op (.lengthOf .a) (.lengthOf .b)),
      .line (.requireRoom op (.lengthOf .c) (.lengthOf .a)),
      .line (.comment "SAFETY: lengths checked above; `c` is an exclusive borrow."),
      .call true (.own (rawMethod op)) [.pointer .a, .pointer .b, .pointer .c, .quantity (.lengthOf .a)]]

/-- The body of the method that takes arrays. -/
def arrayMethodBody (op : ArithOp) (type : ElementType) : Code :=
  .call false (.array (arrayName op type)) [.parameter .a, .parameter .b, .parameter .c]

/-- The body of the function of the array text. -/
def arrayBody (op : ArithOp) (type : ElementType) : Code :=
  inOrder
    [.line (.comment "SAFETY: all three arrays hold N elements and `c` is an exclusive borrow."),
      .call true (.kernel (kernelName op type)) [.pointer .a, .pointer .b, .pointer .c, .quantity .size]]

/-- What the macro of an operation expands to. -/
def macroBody (op : ArithOp) : Code :=
  .call false (.method op.traitName (arrayMethod op)) [.borrow .a, .borrow .b, .borrow .c]

/-! ### Functions -/

/-- The function that an item of the kernel text defines, by the build symbols that are defined. -/
def itemFunction? (defined : String → Bool) : Item → Option Function
  | .default op type => some ⟨.pointers, type, defaultBody op type⟩
  | .routine r => if defined r.tier.buildGuard then some ⟨.pointers, r.type, routineBody r⟩ else none
  | .variants _ _ _ => none
  | .dispatcher op type => some ⟨.pointers, type, dispatcherBody op type⟩

/-- The entries of the list that an item of the kernel text defines. -/
def itemEntries? : Item → Option (List Entry)
  | .variants op type tiers => some (tiers.map (tierEntry op type))
  | _ => none

/-- The method of a name in the trait of an operation, for a type that it is implemented for. -/
def method? (op : ArithOp) (type : ElementType) (name : String) : Option Function :=
  if name = rawMethod op then some ⟨.pointers, type, rawBody op type⟩
  else if name = sliceMethod op then some ⟨.slices, type, sliceBody op⟩
  else if name = arrayMethod op then some ⟨.arrays, type, arrayMethodBody op type⟩
  else none

/-- What code can refer to. -/
structure Library where
  /-- The function at a path, in code for elements of a type. -/
  function? : ElementType → Path → Option Function
  /-- The entries of the list of accelerated kernels with a name. -/
  entries? : String → Option (List Entry)
  /-- Whether a build symbol is defined. -/
  defined : String → Bool
  /-- The tiers that the machine has. -/
  available : TierSet

/-- The function at a path, in code for elements of a type. -/
def function? (cells : List Cell) (defined : String → Bool) (type : ElementType) :
    Path → Option Function
  | .kernel name =>
    ((cells.flatMap Source.cellItems).find? (·.name = name)).bind (itemFunction? defined)
  | .array name =>
    (cells.find? fun cell => arrayName cell.op cell.type = name).map fun cell =>
      ⟨.arrays, cell.type, arrayBody cell.op cell.type⟩
  | .own name => (cells.filter (·.type = type)).findSome? fun cell => method? cell.op type name
  | .method trait name =>
    ((cells.filter (·.type = type)).find? (·.op.traitName = trait)).bind fun cell =>
      method? cell.op type name

/-- The library of some cells. -/
def Library.ofCells (cells : List Cell) (defined : String → Bool) (available : TierSet) : Library where
  function? := Code.function? cells defined
  entries? name := ((cells.flatMap Source.cellItems).find? (·.name = name)).bind itemEntries?
  defined := defined
  available := available

end LaneKernels.Code

namespace LaneKernels

/-- Whether a build symbol is defined when the tiers of the set are compiled in. -/
def TierSet.defines (set : TierSet) (symbol : String) : Bool :=
  set.toList.any (·.buildGuard = symbol)

/-- The library of the shipped tables on a platform. -/
def Platform.library (platform : Platform) : Code.Library :=
  let cells := match (Recipe.shipped platform.compiled).plan #[] with
    | .ok chapters _ => plannedCells chapters
    | .error _ _ => []
  .ofCells cells platform.compiled.defines platform.available

end LaneKernels
