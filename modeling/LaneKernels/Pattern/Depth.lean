import LaneKernels.Pattern.Tree

/-!
How deeply the parts of a pattern are nested.

Groups, repetitions, brackets, operations, and whatever has more than one item or branch are one level deeper
inside. `Tree.tooDeep?` finds the first part beyond a limit.
-/

namespace LaneKernels.Pattern

/-- How deeply parts can be nested. -/
def depthLimit : Nat :=
  250

mutual

/-- The first part of a class that is nested more deeply than allowed, at some depth. -/
def ClassTree.tooDeep? (limit : Nat) : Nat → ClassTree → Option Span
  | depth, .bracketed span _ body =>
    if limit ≤ depth then some span else ClassTree.tooDeep? limit (depth + 1) body
  | depth, .union span items =>
    if limit ≤ depth then some span else ClassTree.anyTooDeep? limit (depth + 1) items
  | depth, .operation span _ lhs rhs =>
    if limit ≤ depth then some span
    else
      match ClassTree.tooDeep? limit (depth + 1) lhs with
      | some span => some span
      | none => ClassTree.tooDeep? limit (depth + 1) rhs
  | _, _ => none

/-- The same for some parts, one after the other. -/
def ClassTree.anyTooDeep? (limit : Nat) : Nat → List ClassTree → Option Span
  | _, [] => none
  | depth, item :: rest =>
    match ClassTree.tooDeep? limit depth item with
    | some span => some span
    | none => ClassTree.anyTooDeep? limit depth rest

end

mutual

/-- The first part of a pattern that is nested more deeply than allowed, at some depth. -/
def Tree.tooDeep? (limit : Nat) : Nat → Tree → Option Span
  | depth, .bracketed span _ body =>
    if limit ≤ depth then some span else body.tooDeep? limit (depth + 1)
  | depth, .repetition span _ body =>
    if limit ≤ depth then some span else Tree.tooDeep? limit (depth + 1) body
  | depth, .group span _ _ body =>
    if limit ≤ depth then some span else Tree.tooDeep? limit (depth + 1) body
  | depth, .alternation span branches =>
    if limit ≤ depth then some span else Tree.anyTooDeep? limit (depth + 1) branches
  | depth, .sequence span items =>
    if limit ≤ depth then some span else Tree.anyTooDeep? limit (depth + 1) items
  | _, _ => none

/-- The same for some parts, one after the other. -/
def Tree.anyTooDeep? (limit : Nat) : Nat → List Tree → Option Span
  | _, [] => none
  | depth, item :: rest =>
    match Tree.tooDeep? limit depth item with
    | some span => some span
    | none => Tree.anyTooDeep? limit depth rest

end

end LaneKernels.Pattern
