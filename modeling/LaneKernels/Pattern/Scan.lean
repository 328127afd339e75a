import LaneKernels.Pattern.Flaw
import LaneKernels.Pattern.Tree
import LaneKernels.Text.Blank

/-!
Reading the text of a pattern from left to right.

* A `Scan` is the place that was reached with the rest of the text. In verbose mode blanks and comments
  between the parts of a pattern are skipped (`Scan.skipSpace`); a comment lasts to the end of its line.
* `Parsing` reads and moves on, and ends with a finding. `bump` goes one character on, and `bumpSpace`
  skips space behind that; both tell whether there is more to read.
-/

namespace LaneKernels.Pattern

/-- What is left to read, and how it is read. -/
structure Scan where
  position : Position
  rest : List Char
  /-- Whether blanks and comments are skipped. -/
  verbose : Bool
  /-- The names of groups so far. -/
  names : List (String × Span)

namespace Scan

/-- Before the first character of a pattern. -/
def start (pattern : String) : Scan :=
  ⟨Position.start, pattern.toList, false, []⟩

/-- Behind the next character. -/
def forward (scan : Scan) : Scan :=
  match scan.rest with
  | [] => scan
  | c :: rest => { scan with position := scan.position.after c, rest }

/-- What is left of a text behind blanks and comments, from inside a comment or from outside. -/
def dropSpace : Bool → Position → List Char → Position × List Char
  | _, position, [] => (position, [])
  | true, position, c :: rest => dropSpace (c ≠ '\n') (position.after c) rest
  | false, position, c :: rest =>
    if Text.isBlank c then dropSpace false (position.after c) rest
    else if c = '#' then dropSpace true (position.after c) rest
    else (position, c :: rest)

/-- Behind the blanks and comments here, in verbose mode. -/
def skipSpace (scan : Scan) : Scan :=
  if scan.verbose then
    let (position, rest) := dropSpace false scan.position scan.rest
    { scan with position, rest }
  else scan

/-- The character behind blanks and the sign of one comment, or the first where there is no other. -/
def firstVisible? (text : List Char) : Option Char :=
  match text.dropWhile Text.isBlank with
  | [] => text.head?
  | '#' :: rest =>
    match rest.dropWhile Text.isBlank with
    | [] => text.head?
    | c :: _ => some c
  | c :: _ => some c

/-- The character behind the next one; in verbose mode, behind the space there. -/
def afterNext? (scan : Scan) : Option Char :=
  if scan.verbose then firstVisible? scan.rest.tail else scan.rest.tail.head?

end Scan

/-- Reading a pattern, which may end with a finding. -/
abbrev Parsing := EStateM Finding Scan

namespace Parsing

/-- Ends with a flaw. -/
def fail {α : Type} (flaw : Flaw) (span : Span) : Parsing α :=
  throw ⟨flaw, span, none⟩

/-- Ends with a flaw that conflicts with an earlier place. -/
def failAgainst {α : Type} (flaw : Flaw) (span other : Span) : Parsing α :=
  throw ⟨flaw, span, some other⟩

/-- The next character. -/
def current? : Parsing (Option Char) := do
  return (← get).rest.head?

/-- The character behind the next one. -/
def following? : Parsing (Option Char) := do
  return (← get).rest.tail.head?

/-- The place that was reached. -/
def here : Parsing Position := do
  return (← get).position

/-- Whether there is more to read. -/
def hasMore : Parsing Bool := do
  return !(← get).rest.isEmpty

/-- What was read since a place. -/
def since (start : Position) : Parsing Span := do
  return ⟨start, ← here⟩

/-- The empty span at the place that was reached. -/
def spanHere : Parsing Span := do
  return Span.point (← here)

/-- The span of the next character. -/
def spanNext : Parsing Span := do
  return ⟨← here, (← get).forward.position⟩

/-- Skips space in verbose mode. -/
def skipSpace : Parsing Unit :=
  modify Scan.skipSpace

/-- Goes one character on. -/
def bump : Parsing Bool := do
  modify Scan.forward
  hasMore

/-- Goes one character on and skips space. -/
def bumpSpace : Parsing Bool := do
  modify fun scan => scan.forward.skipSpace
  hasMore

/-- Goes some characters on. -/
def bumpMany : Nat → Parsing Unit
  | 0 => pure ()
  | count + 1 => do
    modify Scan.forward
    bumpMany count

/-- Goes behind a text if it is next. -/
def bumpOver (text : String) : Parsing Bool := do
  if text.toList.isPrefixOf (← get).rest then
    bumpMany text.length
    return true
  else
    return false

/-- Reads at most so many characters, as long as they are accepted, skipping space behind each. -/
def gatherUpTo (accepts : Char → Bool) : Nat → Parsing (List Char)
  | 0 => return []
  | count + 1 => do
    match (← current?).filter accepts with
    | none => return []
    | some c =>
      let _ ← bumpSpace
      return c :: (← gatherUpTo accepts count)

/-- Reads the accepted characters that are next, skipping space behind each. -/
def gather (accepts : Char → Bool) : Parsing (List Char) := do
  gatherUpTo accepts (← get).rest.length

/-- Goes over the characters that are next and accepted. -/
def bumpWhile (accepts : Char → Bool) : Parsing (List Char) := do
  let accepted := (← get).rest.takeWhile accepts
  bumpMany accepted.length
  return accepted

end Parsing

end LaneKernels.Pattern
