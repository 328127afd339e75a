import LaneKernels.Pattern.Scan

/-!
Repetition signs.

A sign repeats the item before it: a question mark, a star, a plus, or a count between braces with a least
number, a greatest one, or both. A question mark behind it asks for short matches first. Flags and nothing
at all cannot be repeated.
-/

namespace LaneKernels.Pattern

open Parsing

/-- The greatest number that a count can have. -/
def countLimit : Nat :=
  4294967295

/-- The number that decimal digits stand for. -/
def decimalNumber (digits : List Char) : Nat :=
  digits.foldl (fun value c => 10 * value + (c.toNat - 0x30)) 0

/-- Reads a number with blanks around it, or says what is wrong with it. -/
def decimal : Parsing (Except Finding Nat) := do
  let _ ← bumpWhile Text.isBlank
  let start ← here
  let digits ← gather (·.isDigit)
  let span ← since start
  let _ ← gather Text.isBlank
  if digits.isEmpty then return .error ⟨.countEmpty, span, none⟩
  else if countLimit < decimalNumber digits then return .error ⟨.decimalInvalid, span, none⟩
  else return .ok (decimalNumber digits)

/-- Ends with the finding if there is one. -/
def sound {α : Type} : Except Finding α → Parsing α
  | .ok value => pure value
  | .error finding => throw finding

/-- Reads the count behind an opening brace, up to what should be the closing one. -/
def countBody (start : Position) : Parsing Count := do
  let min ← decimal
  match ← current? with
  | none => fail .countUnclosed (← since start)
  | some ',' =>
    let more ← bumpSpace
    if !more then
      fail .countUnclosed (← since start)
    if (← current?) = some '\x7d' then return ⟨← sound min, none⟩
    let min ← sound min
    let max ← sound (← decimal)
    return ⟨min, some max⟩
  | some _ =>
    let min ← sound min
    return ⟨min, some min⟩

/-- Goes over a sign that makes a repetition short rather than long, which changes no answer here. -/
def skipLazy : Parsing Unit := do
  if (← current?) = some '?' then
    let _ ← bump

/-- Reads a count between braces; the opening brace is next. -/
def bracedCount : Parsing Count := do
  let start ← here
  let more ← bumpSpace
  if !more then
    fail .countUnclosed (← since start)
  let count ← countBody start
  if (← current?) ≠ some '\x7d' then
    fail .countUnclosed (← since start)
  let _ ← bumpSpace
  skipLazy
  if !count.isValid then
    fail .countRangeInvalid (← since start)
  return count

/-- The count of a repetition sign. -/
def countOf? : Char → Option Count
  | '?' => some ⟨0, some 1⟩
  | '*' => some ⟨0, none⟩
  | '+' => some ⟨1, none⟩
  | _ => none

/-- Reads the repetition sign that is next. -/
def repetitionCount (sign : Char) : Parsing Count := do
  match countOf? sign with
  | some count =>
    let _ ← bump
    skipLazy
    return count
  | none => bracedCount

/-- Reads a repetition sign for the last of some items, which come with the last one first. -/
def repetition (sign : Char) (items : List Tree) : Parsing (List Tree) := do
  match items with
  | item :: before =>
    if !item.isRepeatable then
      fail .repetitionMissing (← spanHere)
    let count ← repetitionCount sign
    return .repetition ⟨item.span.start, ← here⟩ count item :: before
  | [] => fail .repetitionMissing (← spanHere)

end LaneKernels.Pattern
