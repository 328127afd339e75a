import LaneKernels.Code.Library
import LaneKernels.EntryPoint

/-!
What code does on a machine.

* `Evaluation` is execution that may also get nowhere: a name that nothing was given to, a callable that is
  not known, a loop with more turns than there are elements, and calls inside calls beyond some depth have no
  outcome.
* A `Frame` is what a function is given, and `Locals` are its variables.
* `Statement.run` is what one line does, and `Code.run` what a body does, by what the calls in it do. A loop
  records what it compares.
* `Library.call` calls the function that a path leads to, with the calls in its body one level deeper.
-/

namespace LaneKernels

/-- Execution that may get nowhere. -/
abbrev Evaluation := ExceptT Crash (StateT Machine Option)

namespace Evaluation

variable {α : Type}

/-- Gets nowhere. -/
def stuck : Evaluation α :=
  fun _ => none

/-- Goes on with a value, or gets nowhere. -/
def ofOption : Option α → Evaluation α
  | some value => pure value
  | none => stuck

/-- Executes. -/
def ofExecution (execution : Execution α) : Evaluation α :=
  fun machine =>
    match execution machine with
    | .ok value after => some (.ok value, after)
    | .error crash after => some (.error crash, after)

@[simp] theorem ofOption_some (value : α) : ofOption (some value) = pure value := rfl

@[simp] theorem ofExecution_pure (value : α) : ofExecution (pure value) = pure value := rfl

@[simp] theorem ofExecution_throw (crash : Crash) :
    ofExecution (throw crash : Execution α) = throw crash := rfl

/-- Executing in order is the same as evaluating in order. -/
@[simp] theorem ofExecution_bind {β : Type} (first : Execution α) (next : α → Execution β) :
    ofExecution (first >>= next) = ofExecution first >>= fun value => ofExecution (next value) := by
  funext machine
  show ofExecution (EStateM.bind first next) machine = _
  simp only [ofExecution, EStateM.bind, bind, ExceptT.bind, ExceptT.mk, StateT.bind]
  cases first machine <;> rfl

/-- Executing along a list is the same as evaluating along it. -/
theorem ofExecution_forM {β : Type} (execute : β → Execution Unit) (values : List β) :
    ofExecution (values.forM execute) = values.forM fun value => ofExecution (execute value) := by
  induction values with
  | nil => rfl
  | cons value rest ih =>
    rw [List.forM_eq_forM, List.forM_cons, ofExecution_bind, List.forM_eq_forM, List.forM_cons]
    exact congrArg (ofExecution (execute value) >>= ·) (funext fun _ => ih)

end Evaluation

namespace Code

open EntryPoint (Slice)
open Evaluation (ofOption ofExecution stuck)

/-! ### What a function is given -/

/-- What can be handed to a function. -/
inductive Value where
  | pointer (address : Nat)
  | array (slice : Slice)
  | number (n : Nat)
  deriving DecidableEq, Repr

/-- What a function is given for its parameters. -/
inductive Given where
  | pointers (operands : Operands)
  | slices (a b c : Slice)
  | arrays (size a b c : Nat)
  deriving DecidableEq, Repr

namespace Given

/-- What the parameter for an array stands for. -/
def value : Given → Operand → Value
  | pointers operands, operand => .pointer (operands.base operand)
  | slices a _ _, .a => .array a
  | slices _ b _, .b => .array b
  | slices _ _ c, .c => .array c
  | arrays size a _ _, .a => .array ⟨a, size⟩
  | arrays size _ b _, .b => .array ⟨b, size⟩
  | arrays size _ _ c, .c => .array ⟨c, size⟩

/-- Three pointers and a number of elements. -/
def operands? : Given → Option Operands
  | pointers operands => some operands
  | _ => none

/-- The size that three arrays have in common. -/
def size? : Given → Option Nat
  | arrays size _ _ _ => some size
  | _ => none

end Given

/-- What parameters of a form are given by some values, if they are of that form. -/
def Form.given? : Form → List Value → Option Given
  | pointers, [.pointer a, .pointer b, .pointer c, .number len] => some (.pointers ⟨a, b, c, len⟩)
  | slices, [.array a, .array b, .array c] => some (.slices a b c)
  | arrays, [.array a, .array b, .array c] =>
    if a.length = b.length ∧ b.length = c.length then
      some (.arrays a.length a.address b.address c.address)
    else none
  | _, _ => none

/-- What a function runs on. -/
structure Frame where
  type : ElementType
  given : Given

/-! ### Variables -/

/-- A word of some bytes. -/
structure Register where
  bytes : Nat
  word : BitVec (8 * bytes)

/-- The variables of a function, as far as they were set. -/
structure Locals where
  index : Option Nat
  /-- Whether an array starts at a multiple of the alignment that it was probed for. -/
  aligned : Operand → Option Bool
  vector : Operand → Option Register
  /-- The name of the kernel that was picked. -/
  picked : Option String

namespace Locals

/-- The variables before any is set. -/
def empty : Locals :=
  ⟨none, fun _ => none, fun _ => none, none⟩

def setAligned (locals : Locals) (operand : Operand) (aligned : Bool) : Locals :=
  { locals with
    aligned := fun other => if other = operand then some aligned else locals.aligned other }

def setVector (locals : Locals) (operand : Operand) (register : Register) : Locals :=
  { locals with
    vector := fun other => if other = operand then some register else locals.vector other }

/-- The variables behind a body that left some; what was set in it is gone, except for the index. -/
def leave (locals inner : Locals) : Locals :=
  { locals with index := inner.index }

end Locals

/-- The number that a quantity stands for. -/
def Quantity.value? (given : Given) (locals : Locals) : Quantity → Option Nat
  | index => locals.index
  | ahead count => locals.index.map (· + count)
  | len => given.operands?.map (·.len)
  | size => given.size?
  | lengthOf operand =>
    match given.value operand with
    | .array slice => some slice.length
    | _ => none

/-- The value of an argument. -/
def Argument.value? (given : Given) (locals : Locals) : Argument → Option Value
  | parameter operand => some (given.value operand)
  | pointer operand =>
    match given.value operand with
    | .array slice => some (.pointer slice.address)
    | _ => none
  | borrow operand =>
    match given.value operand with
    | .array slice => some (.array slice)
    | _ => none
  | quantity amount => (amount.value? given locals).map .number

/-! ### Statements -/

/-- Combines the elements at the index. -/
def combineAt (frame : Frame) (op : ArithOp) (locals : Locals) : Evaluation Locals :=
  if live : frame.type.reserved = false then do
    let operands ← ofOption frame.given.operands?
    let index ← ofOption locals.index
    ofExecution (combineElement op frame.type live operands index)
    return locals
  else stuck

/-- The callable at a path that moves registers in a direction. -/
def transferNamed (direction : Direction) (path : String) : Option Transfer :=
  (Transfer.named? path).filter (·.direction = direction)

/-- The access by which a callable moves a register to or from the index. -/
def registerAccess (frame : Frame) (operands : Operands) (operand : Operand) (index : Nat)
    (transfer : Transfer) : Access :=
  accessAt frame.type operands transfer.direction operand index
    (transfer.registerBytes / frame.type.bytes) transfer.aligned

/-- What a statement does. -/
def Statement.run (library : Library) (frame : Frame) (locals : Locals) :
    Statement → Evaluation Locals
  | comment _ | declare _ => return locals
  | probe operand alignment => do
    let operands ← ofOption frame.given.operands?
    let aligned ← ofExecution (.ofExcept (isAligned (operands.base operand) alignment))
    return locals.setAligned operand aligned
  | start => return { locals with index := some 0 }
  | load operand _ aligned unaligned => do
    let operands ← ofOption frame.given.operands?
    let index ← ofOption locals.index
    let isAligned ← ofOption (locals.aligned operand)
    let transfer ← ofOption (transferNamed .load (if isAligned then aligned else unaligned).path)
    let word ← ofExecution
      (Execution.load transfer.registerBytes (registerAccess frame operands operand index transfer))
    return locals.setVector operand ⟨transfer.registerBytes, word⟩
  | compute _ callable => do
    let computation ← ofOption (Computation.named? callable.path)
    let x ← ofOption (locals.vector .a)
    let y ← ofOption (locals.vector .b)
    if x.bytes = computation.registerBytes ∧ y.bytes = computation.registerBytes then
      let word := computation.apply (x.word.setWidth _) (y.word.setWidth _)
      return locals.setVector .c ⟨computation.registerBytes, word⟩
    else stuck
  | store _ callable => do
    let operands ← ofOption frame.given.operands?
    let index ← ofOption locals.index
    let transfer ← ofOption (transferNamed .store callable.path)
    let register ← ofOption (locals.vector .c)
    if register.bytes = transfer.registerBytes then
      ofExecution (Execution.store transfer.registerBytes
        (registerAccess frame operands .c index transfer) (register.word.setWidth _))
      return locals
    else stuck
  | operator op => if frame.type.isFloat then combineAt frame op locals else stuck
  | wrapping op => if frame.type.isFloat then stuck else combineAt frame op locals
  | advance count => do
    let index ← ofOption locals.index
    ofExecution (Execution.record (.advanced (index + count)))
    return { locals with index := some (index + count) }
  | release callable =>
    if callable = "crate::mm64::empty()" then do
      ofExecution (Execution.record .released)
      return locals
    else stuck
  | requireSame op left right => do
    let left ← ofOption (left.value? frame.given locals)
    let right ← ofOption (right.value? frame.given locals)
    if left ≠ right then
      throw (.lengthsDiffer op left right)
    return locals
  | requireRoom op room needed => do
    let room ← ofOption (room.value? frame.given locals)
    let needed ← ofOption (needed.value? frame.given locals)
    if room < needed then
      throw (.outputTooShort op)
    return locals
  | resolve op element default variants => do
    let entries ← ofOption (library.entries? variants)
    let compiled := entries.filter (library.defined ·.guard)
    let kernels := compiled.map fun entry => Variant.mk entry.tier entry.kernel
    return { locals with picked := some (choose library.available op element default kernels).1 }

/-! ### Bodies -/

/-- A loop as long as a value is below a limit; the value is looked at no more than some times. -/
def loopBelow (limit : Nat) (value? : Locals → Option Nat) (turn : Locals → Evaluation Locals) :
    Nat → Locals → Evaluation Locals
  | 0, _ => stuck
  | looks + 1, locals => do
    let value ← ofOption (value? locals)
    ofExecution (Execution.record (.tested value))
    if value < limit then
      loopBelow limit value? turn looks (← turn locals)
    else
      return locals

/-- What the calls in a body do. -/
abbrev Calls := Path → List Value → Evaluation Unit

end Code

open Evaluation (ofOption ofExecution stuck)

/-- What code does. -/
def Code.run (library : Code.Library) (calls : Code.Calls) (frame : Code.Frame) :
    Code → Code.Locals → Evaluation Code.Locals
  | skip, locals => return locals
  | seq first rest, locals => do
    rest.run library calls frame (← first.run library calls frame locals)
  | line statement, locals => statement.run library frame locals
  | branch aligned unaligned, locals => do
    let isAligned ← ofOption (locals.aligned .c)
    let inner ←
      if isAligned then aligned.run library calls frame locals
      else unaligned.run library calls frame locals
    return locals.leave inner
  | whileBelow quantity body, locals => do
    let operands ← ofOption frame.given.operands?
    let turn (locals : Code.Locals) : Evaluation Code.Locals := do
      return locals.leave (← body.run library calls frame locals)
    loopBelow operands.len (quantity.value? frame.given) turn (operands.len + 1) locals
  | forEach body, locals => do
    let operands ← ofOption frame.given.operands?
    (List.range operands.len).forM fun index => do
      let _ ← body.run library calls frame { locals with index := some index }
    return locals
  | call _ path arguments, locals => do
    calls path (← ofOption (arguments.mapM (·.value? frame.given locals)))
    return locals
  | callPicked arguments, locals => do
    let name ← ofOption locals.picked
    calls (.kernel name) (← ofOption (arguments.mapM (·.value? frame.given locals)))
    return locals

namespace Code

section

variable (library : Library) (calls : Calls) (frame : Frame) (locals : Locals)

@[simp] theorem run_skip : skip.run library calls frame locals = pure locals := rfl

@[simp] theorem run_line (statement : Statement) :
    (line statement).run library calls frame locals = statement.run library frame locals := rfl

@[simp] theorem run_inOrder_nil : (inOrder []).run library calls frame locals = pure locals := rfl

@[simp] theorem run_inOrder_cons (first : Code) (rest : List Code) :
    (inOrder (first :: rest)).run library calls frame locals =
      first.run library calls frame locals >>= (inOrder rest).run library calls frame := rfl

end

/-- Runs a body without variables. -/
def perform (library : Library) (calls : Calls) (frame : Frame) (code : Code) : Evaluation Unit := do
  let _ ← code.run library calls frame .empty

/-- The function that a path leads to, and what it runs on. -/
def Library.enter (library : Library) (type : ElementType) (path : Path) (values : List Value) :
    Option (Frame × Code) := do
  let function ← library.function? type path
  let given ← function.form.given? values
  return (⟨function.type, given⟩, function.body)

/-- A call of the function that a path leads to, with calls inside calls down to some depth. -/
def Library.call (library : Library) : Nat → ElementType → Path → List Value → Evaluation Unit
  | 0, _, _, _ => stuck
  | depth + 1, type, path, values => do
    let (callee, body) ← ofOption (library.enter type path values)
    body.perform library (library.call depth callee.type) callee

end Code

end LaneKernels
