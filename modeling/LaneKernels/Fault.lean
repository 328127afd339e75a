import LaneKernels.Slot
import LaneKernels.Tier

/-!
Why a run ends early.

* `Fault` is a defect that is reported: a gap in the tables, an unknown tier, a file that cannot be
  opened or written. `Fault.message` is its text and `Fault.cause?` the trouble with the file below
  it.
* `Crash` is a broken promise of the code itself, such as a division by zero, and ends the run on
  the spot.
* `Stop` is either of them.
-/

namespace LaneKernels

/-- What went wrong with a file. -/
inductive FileFault where
  | notFound
  | notDirectory
  | isDirectory
  | nameTooLong
  | noSpace
  | nulInName
  | other (text : String)
  deriving DecidableEq, Repr

/-- The system's words for the trouble. -/
def FileFault.message : FileFault → String
  | notFound => "No such file or directory (os error 2)"
  | notDirectory => "Not a directory (os error 20)"
  | isDirectory => "Is a directory (os error 21)"
  | nameTooLong => "File name too long (os error 36)"
  | noSpace => "No space left on device (os error 28)"
  | nulInName => "file name contained an unexpected NUL byte"
  | other text => text

/-- The defects that a run reports. -/
inductive Fault where
  | missingRow (tier : Tier) (op : ArithOp)
  | missingBinding (tier : Tier) (slot : Slot) (type : ElementType)
  | typeTooWide (tier : Tier) (type : ElementType)
  | missingRegister (tier : Tier) (type : ElementType)
  | unknownTier (name : String)
  | cannotOpen (path : String) (cause : FileFault)
  | cannotWrite (path : String) (cause : FileFault)
  deriving DecidableEq, Repr

namespace Fault

/-- The text of a defect, which names its place in the tables or its file. -/
def message : Fault → String
  | missingRow tier op => s!"capability matrix has no row for `{op.name}` on the {tier.name} tier"
  | missingBinding tier slot type =>
    s!"no {slot.name} binding for `{type.shortName}` on the {tier.name} tier"
  | typeTooWide tier type => s!"`{type.shortName}` is wider than the {tier.name} register"
  | missingRegister tier type =>
    s!"no register type for `{type.shortName}` on the {tier.name} tier"
  | unknownTier name => s!"unknown tier `{name}`"
  | cannotOpen path _ => s!"failed to open output {path}"
  | cannotWrite path _ => s!"failed to write output {path}"

/-- The trouble with a file that a defect stems from. -/
def cause? : Fault → Option FileFault
  | cannotOpen _ cause | cannotWrite _ cause => some cause
  | _ => none

end Fault

/-- The broken promises that end a run on the spot. -/
inductive Crash where
  | lengthsDiffer (op : ArithOp) (left right : Nat)
  | outputTooShort (op : ArithOp)
  | divisionByZero
  | remainderByZero
  | subtractionOverflow
  | indentUnderflow
  deriving DecidableEq, Repr

/-- The text of a crash. -/
def Crash.message : Crash → String
  | lengthsDiffer op left right =>
    s!"assertion `left == right` failed: {op.name}: input lengths differ\n  left: {left}\n right: {right}"
  | outputTooShort op => s!"{op.name}: output shorter than inputs"
  | divisionByZero => "attempt to divide by zero"
  | remainderByZero => "attempt to calculate the remainder with a divisor of zero"
  | subtractionOverflow => "attempt to subtract with overflow"
  | indentUnderflow => "indent underflow"

/-- Why a run ended early: a reported defect or a crash. -/
inductive Stop where
  | fault (fault : Fault)
  | crash (crash : Crash)
  deriving DecidableEq, Repr

/-- The text of either. -/
def Stop.message : Stop → String
  | fault f => f.message
  | crash c => c.message

end LaneKernels
