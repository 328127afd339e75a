import LaneKernels.Execution
import LaneKernels.Source.Prelude

/-!
The code of the generated functions.

* A `Statement` is one line of a body, and `Code` is made of statements, branches, loops and calls.
* A `Function` is code with its parameters and the type of its elements.
* `Code.steps` and `Function.step` lay them out as source text.
-/

namespace LaneKernels

/-- The name of the parameter for an array. -/
def Operand.name : Operand → String
  | a => "a"
  | b => "b"
  | c => "c"

namespace Code

/-! ### Expressions -/

/-- A number of elements, or the index of one. -/
inductive Quantity where
  /-- The index of a loop. -/
  | index
  /-- The index some elements further on. -/
  | ahead (count : Nat)
  /-- The number of elements that a function with pointers is given. -/
  | len
  /-- The size that three arrays have in common. -/
  | size
  | lengthOf (operand : Operand)
  deriving DecidableEq, Repr

/-- The spelling of a quantity. -/
def Quantity.text : Quantity → String
  | index => "i"
  | ahead count => s!"i + {count}"
  | len => "len"
  | size => "N"
  | lengthOf operand => s!"{operand.name}.len()"

/-- What is handed to a function. -/
inductive Argument where
  | parameter (operand : Operand)
  /-- The address of the first element of an array. -/
  | pointer (operand : Operand)
  /-- A borrow of what a macro was given. -/
  | borrow (operand : Operand)
  | quantity (amount : Quantity)
  deriving DecidableEq, Repr

/-- The spelling of an argument; the output is borrowed to be written. -/
def Argument.text : Argument → String
  | parameter operand => operand.name
  | pointer .c => "c.as_mut_ptr()"
  | pointer operand => s!"{operand.name}.as_ptr()"
  | borrow .c => "&mut $c"
  | borrow operand => s!"&${operand.name}"
  | quantity amount => amount.text

/-- Where a function is found. -/
inductive Path where
  /-- In the kernel text. -/
  | kernel (name : String)
  /-- In the array text. -/
  | array (name : String)
  /-- Among the methods of the type that a trait is implemented for. -/
  | own (name : String)
  /-- Among the methods of a trait, for the type of the arguments. -/
  | method (trait name : String)
  deriving DecidableEq, Repr

/-- The spelling of a path. -/
def Path.text : Path → String
  | kernel name => s!"crate::kernels::{name}"
  | array name => s!"crate::arrays::{name}"
  | own name => s!"Self::{name}"
  | method trait name => s!"$crate::{trait}::{name}"

/-- The spelling of the arguments of a call. -/
def argumentsText (arguments : List Argument) : String :=
  let list := ", ".intercalate (arguments.map Argument.text)
  s!"({list})"

/-! ### Statements -/

/-- One line of a body. -/
inductive Statement where
  | comment (text : String)
  /-- Asks whether an array starts at a multiple of an alignment. -/
  | probe (operand : Operand) (alignment : Nat)
  /-- Sets the index to zero. -/
  | start
  /-- Loads a register from the index of an input, by the callable for its alignment. -/
  | load (operand : Operand) (register : String) (aligned unaligned : Binding)
  /-- Combines the two loaded registers. -/
  | compute (register : String) (callable : Binding)
  /-- Stores the combined register to the index of the output. -/
  | store (register : String) (callable : Binding)
  /-- Combines the elements at the index by an operator. -/
  | operator (op : ArithOp)
  /-- Combines the elements at the index by a wrapping method. -/
  | wrapping (op : ArithOp)
  | advance (count : Nat)
  /-- Releases the register file. -/
  | release (callable : String)
  /-- Panics if two quantities of an operation's inputs are not the same. -/
  | requireSame (op : ArithOp) (left right : Quantity)
  /-- Panics if an operation's output has less room than it needs. -/
  | requireRoom (op : ArithOp) (room needed : Quantity)
  /-- Declares the place that keeps a kernel for elements of a type once it is picked. -/
  | declare (element : String)
  /-- Picks a kernel, if none was picked yet. -/
  | resolve (op element default variants : String)
  deriving DecidableEq, Repr

/-- The element of an array at the index. -/
def elementText (operand : Operand) : String :=
  s!"*{operand.name}.add(i)"

/-- The line that sets the element of the output at the index. -/
def assignText (value : String) : String :=
  s!"{elementText .c} = {value};"

/-- The line that loads a register by one of two calls. -/
def loadText (operand : Operand) (register aligned unaligned : String) : String :=
  s!"let vec_{operand.name}: {register} = if aligned_{operand.name} \x7b {aligned} \x7d else \x7b {unaligned} \x7d;"

/-- The line that picks a kernel. -/
def resolveText (op element default variants : String) : String :=
  s!"let kernel = *RESOLVED.get_or_init(|| resolve(\"{op}\", \"{element}\", {default}, &{variants}()));"

/-- The line of a statement. -/
def Statement.text : Statement → String
  | comment text => s!"// {text}"
  | probe operand alignment =>
    s!"let aligned_{operand.name} = is_aligned({operand.name}, {alignment});"
  | start => "let mut i = 0;"
  | load operand register aligned unaligned =>
    let pointer := s!"{operand.name}.add(i)"
    loadText operand register (aligned.loadCall pointer register) (unaligned.loadCall pointer register)
  | compute register callable =>
    let call := callable.computeCall "vec_a" "vec_b"
    s!"let vec_c: {register} = {call};"
  | store register callable =>
    let call := callable.storeCall "c.add(i)" register "vec_c"
    s!"{call};"
  | operator op => assignText s!"{elementText .a} {op.symbol} {elementText .b}"
  | wrapping op => assignText s!"({elementText .a}).{op.wrappingMethod}({elementText .b})"
  | advance count => s!"i += {count};"
  | release callable => s!"{callable};"
  | requireSame op left right =>
    s!"assert_eq!({left.text}, {right.text}, \"{op.name}: input lengths differ\");"
  | requireRoom op room needed =>
    s!"assert!({room.text} >= {needed.text}, \"{op.name}: output shorter than inputs\");"
  | declare element => s!"static RESOLVED: OnceLock<Kernel<{element}>> = OnceLock::new();"
  | resolve op element default variants => resolveText op element default variants

end Code

/-! ### Bodies -/

/-- The code of a body. -/
inductive Code where
  | skip
  | seq (first rest : Code)
  | line (statement : Code.Statement)
  /-- One of two ways, by the alignment of the output. -/
  | branch (aligned unaligned : Code)
  /-- A loop as long as a quantity is below the number of elements. -/
  | whileBelow (quantity : Code.Quantity) (body : Code)
  /-- A loop over all indices. -/
  | forEach (body : Code)
  | call (isUnsafe : Bool) (path : Code.Path) (arguments : List Code.Argument)
  /-- A call of the kernel that was picked. -/
  | callPicked (arguments : List Code.Argument)
  deriving Repr

namespace Code

open Layout (Step)

/-- One code after the other. -/
def inOrder (codes : List Code) : Code :=
  codes.foldr seq skip

/-- The lines of a body. -/
def steps : Code → List Step
  | skip => []
  | seq first rest => first.steps ++ rest.steps
  | line statement => [.line statement.text]
  | branch aligned unaligned =>
    [.block "if aligned_c" "\x7d else \x7b" aligned.steps, .indent unaligned.steps, .line "\x7d"]
  | whileBelow quantity body => [.block s!"while {quantity.text} < len" "\x7d" body.steps]
  | forEach body => [.block "for i in 0..len" "\x7d" body.steps]
  | call false path arguments => [.line (path.text ++ argumentsText arguments)]
  | call true path arguments => [.line s!"unsafe \x7b {path.text ++ argumentsText arguments} \x7d"]
  | callPicked arguments => [.line ("kernel" ++ argumentsText arguments)]

/-! ### Functions -/

/-- What parameters a function has. -/
inductive Form where
  /-- Three pointers and a number of elements. -/
  | pointers
  /-- Three arrays with their numbers of elements. -/
  | slices
  /-- Three arrays of one size. -/
  | arrays
  deriving DecidableEq, Repr

/-- The spelling of three pointers and a number of elements. -/
def pointersText (element : String) : String :=
  s!"(a: *const {element}, b: *const {element}, c: *mut {element}, len: usize)"

/-- The spelling of three arrays with their numbers of elements. -/
def slicesText (element : String) : String :=
  s!"(a: &[{element}], b: &[{element}], c: &mut [{element}])"

/-- The spelling of three arrays of one size. -/
def arraysText (element : String) : String :=
  s!"<const N: usize>(a: &[{element}; N], b: &[{element}; N], c: &mut [{element}; N])"

/-- The spelling of parameters, for elements of a type. -/
def Form.text (element : String) : Form → String
  | pointers => pointersText element
  | slices => slicesText element
  | arrays => arraysText element

/-- A function on elements of a type. -/
structure Function where
  form : Form
  type : ElementType
  body : Code
  deriving Repr

/-- The text of a function behind a head, with the spelling of its type. -/
def Function.step (function : Function) (head element : String) : Step :=
  .block (head ++ function.form.text element) "\x7d" function.body.steps

/-- An entry of a list of accelerated kernels. -/
structure Entry where
  /-- The build symbol that the entry depends on. -/
  guard : String
  tier : Tier
  kernel : String
  deriving DecidableEq, Repr

/-- The lines of an entry. -/
def Entry.steps (entry : Entry) : List Step :=
  let path := Source.tierPath entry.tier
  [.line s!"#[cfg({entry.guard})]", .line s!"variants.push(Variant::new({path}, {entry.kernel}));"]

end Code

end LaneKernels
