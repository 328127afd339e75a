import LaneKernels.Pattern.Grammar
import LaneKernels.Pattern.Meaning
import LaneKernels.Pattern.Search
import LaneKernels.Pattern.Size

/-!
Patterns that a text is searched for.

`Pattern.compile` reads a pattern. It is rejected when it is not well written (`Rejection.flawed`), when it
would take too much memory, or when it asks for word edges in Unicode mode, for which there are no tables.
`Pattern.isIn` searches a text.
-/

namespace LaneKernels.Pattern

/-- Why a pattern is rejected. -/
inductive Rejection where
  | flawed (finding : Finding)
  | tooLarge
  | wordsUnavailable
  deriving DecidableEq, Repr

/-- The text of a rejection of a pattern. -/
def Rejection.message (pattern : String) : Rejection → String
  | flawed finding => finding.render pattern
  | tooLarge => s!"Compiled regex exceeds size limit of {sizeLimit} bytes."
  | wordsUnavailable => "error building NFA"

/-- The meaning of a pattern that is well written. -/
def meaningOf (pattern : String) : Except Finding Pattern := do
  let tree ← Tree.read pattern
  let (meaning, _) ← tree.meaning.run Mode.start
  return meaning

/-- Reads a pattern. -/
def compile (pattern : String) : Except Rejection Pattern :=
  match meaningOf pattern with
  | .error finding => .error (.flawed finding)
  | .ok meaning =>
    if sizeLimit < meaning.forwardSize then .error .tooLarge
    else if meaning.usesUnicodeWord then .error .wordsUnavailable
    else if sizeLimit < meaning.backwardSize then .error .tooLarge
    else .ok meaning.condensed

end LaneKernels.Pattern
