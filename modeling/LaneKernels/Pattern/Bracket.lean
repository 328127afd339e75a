import LaneKernels.Pattern.Escape

/-!
Classes in brackets.

* Items stand one after the other; a dash between two characters makes a range, and a dash at either end is
  an ordinary character, as is a closing bracket right behind the opening. Brackets and named classes nest.
* Two ampersands, dashes or tildes are operations on all that stands before and behind them; operations are
  read from the left (`OpenClass.body`).
-/

namespace LaneKernels.Pattern

open Parsing

/-- A bracket that was opened and not yet closed. -/
structure OpenClass where
  /-- Where it was opened. -/
  opening : Span
  negated : Bool
  /-- What stands before the last operation, and the operation. -/
  left : Option (ClassTree × ClassOp)
  /-- The place behind the opening or the last operation. -/
  start : Position
  /-- The items since then, the last one first. -/
  items : List ClassTree

namespace OpenClass

/-- The bracket with one item more. -/
def push (bracket : OpenClass) (item : ClassTree) : OpenClass :=
  { bracket with items := item :: bracket.items }

/-- The items since the opening or the last operation as one tree. -/
def union (bracket : OpenClass) : ClassTree :=
  match bracket.items with
  | [] => .empty (Span.point bracket.start)
  | [item] => item
  | last :: before =>
    let first := before.getLast?.getD last
    .union ⟨first.span.start, last.span.stop⟩ bracket.items.reverse

/-- All that the bracket holds as one tree. -/
def body (bracket : OpenClass) : ClassTree :=
  match bracket.left with
  | none => bracket.union
  | some (lhs, op) =>
    let rhs := bracket.union
    .operation ⟨lhs.span.start, rhs.span.stop⟩ op lhs rhs

/-- The bracket behind an operation that was read up to a place. -/
def operate (bracket : OpenClass) (op : ClassOp) (position : Position) : OpenClass :=
  { bracket with left := some (bracket.body, op), start := position, items := [] }

end OpenClass

/-- A named class at the start of a text, whether it is negated, and how many characters it takes. -/
def namedClass? (text : List Char) : Option (NamedClass × Bool × Nat) :=
  match text with
  | '[' :: ':' :: rest =>
    let (negated, rest) :=
      match rest with
      | '^' :: rest => (true, rest)
      | rest => (false, rest)
    let name := rest.takeWhile (· ≠ ':')
    match rest.drop name.length with
    | ':' :: ']' :: _ =>
      (NamedClass.named? (String.ofList name)).map fun kind =>
        (kind, negated, name.length + if negated then 5 else 4)
    | _ => none
  | _ => none

/-- Reads a named class if one is next. -/
def readNamedClass? : Parsing (Option ClassTree) := do
  match namedClass? (← get).rest with
  | none => return none
  | some (kind, negated, length) =>
    let start ← here
    bumpMany length
    return some (.named (← since start) kind negated)

/-- A dash that stands for itself. -/
def leadingDashes (start : Position) : Nat → Parsing (List ClassTree)
  | 0 => return []
  | count + 1 => do
    if (← current?) ≠ some '-' then return []
    let dash := ClassTree.literal ⟨← spanNext, '-', false⟩
    let more ← bumpSpace
    if !more then
      fail .classUnclosed (Span.point start)
    return dash :: (← leadingDashes start count)

/-- Reads a closing bracket that stands for itself. -/
def leadingBracket (start : Position) : Parsing (List ClassTree) := do
  if (← current?) ≠ some ']' then return []
  let bracket := ClassTree.literal ⟨← spanNext, ']', false⟩
  let more ← bumpSpace
  if !more then
    fail .classUnclosed (← since start)
  return [bracket]

/-- Reads the opening of a class, with what stands for itself only there. -/
def openClass : Parsing OpenClass := do
  let start ← here
  let more ← bumpSpace
  if !more then
    fail .classUnclosed (← since start)
  let negated := (← current?) = some '^'
  if negated then
    let more ← bumpSpace
    if !more then
      fail .classUnclosed (← since start)
  let first ← here
  let dashes ← leadingDashes start (← get).rest.length
  let leading ← if dashes.isEmpty then leadingBracket start else pure dashes
  return ⟨← since start, negated, none, first, leading.reverse⟩

/-- Reads an escape sequence or a character that stands for itself. -/
def classPart : Parsing Tree := do
  match ← current? with
  | some '\\' => escape
  | next =>
    let span ← spanNext
    let _ ← bump
    return .literal ⟨span, next.getD '\x00', false⟩

/-- The item that a part is on its own. -/
def classItem (part : Tree) : Parsing ClassTree :=
  match part.asClass? with
  | some item => pure item
  | none => fail .classEscapeInvalid part.span

/-- The end of a range that a part is. -/
def rangeEnd (part : Tree) : Parsing Literal :=
  match part.asLiteral? with
  | some literal => pure literal
  | none => fail .classRangeLiteral part.span

/-- Reads an item or a range of the bracket that was opened last. -/
def classRange (bracket : OpenClass) : Parsing ClassTree := do
  let first ← classPart
  skipSpace
  if !(← hasMore) then
    fail .classUnclosed bracket.opening
  let afterNext := (← get).afterNext?
  if (← current?) ≠ some '-' || afterNext = some ']' || afterNext = some '-' then
    return ← classItem first
  let more ← bumpSpace
  if !more then
    fail .classUnclosed bracket.opening
  let last ← classPart
  let span : Span := ⟨first.span.start, last.span.stop⟩
  let low ← rangeEnd first
  let high ← rangeEnd last
  if high.char < low.char then
    fail .classRangeInvalid span
  return .range span low high

/-- The operation that is next, which is written with one character twice. -/
def operation? : Parsing (Option ClassOp) := do
  let next ← current?
  let following ← following?
  return ClassOp.all.find? fun op => next = some op.char && following = some op.char

/-- Reads the rest of the brackets that are open, the one opened last first. -/
def classFrom : Nat → OpenClass → List OpenClass → Parsing Tree
  | 0, bracket, _ => fail .classUnclosed bracket.opening
  | fuel + 1, bracket, outer => do
    skipSpace
    match ← current? with
    | none => fail .classUnclosed bracket.opening
    | some '[' =>
      match ← readNamedClass? with
      | some item => classFrom fuel (bracket.push item) outer
      | none =>
        let inner ← openClass
        classFrom fuel inner (bracket :: outer)
    | some ']' =>
      let _ ← bump
      let span ← since bracket.opening.start
      match outer with
      | [] => return .bracketed span bracket.negated bracket.body
      | parent :: outer =>
        classFrom fuel (parent.push (.bracketed span bracket.negated bracket.body)) outer
    | some _ =>
      match ← operation? with
      | some op =>
        bumpMany 2
        let position ← here
        classFrom fuel (bracket.operate op position) outer
      | none =>
        let item ← classRange bracket
        classFrom fuel (bracket.push item) outer

/-- Reads a class; its opening bracket is next. -/
def bracketClass : Parsing Tree := do
  let length := (← get).rest.length
  let bracket ← openClass
  classFrom (length + 1) bracket []

end LaneKernels.Pattern
