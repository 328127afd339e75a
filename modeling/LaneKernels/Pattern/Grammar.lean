import LaneKernels.Pattern.Bracket
import LaneKernels.Pattern.Depth
import LaneKernels.Pattern.Group
import LaneKernels.Pattern.Repetition

/-!
Whole patterns.

A pattern is branches between bars, and a branch is items one after the other; groups hold branches of their
own. `Tree.read` reads a pattern, which must not be nested too deeply.
-/

namespace LaneKernels.Pattern

open Parsing

/-- The branches of a group or of the whole pattern, as far as they are read. -/
structure Level where
  /-- Where the first branch starts. -/
  start : Position
  /-- The branches that are complete, the last one first. -/
  branches : List Tree
  /-- Where the branch that is being read starts. -/
  branchStart : Position
  /-- Its items, the last one first. -/
  items : List Tree

namespace Level

/-- Before the first branch. -/
def startingAt (position : Position) : Level :=
  ⟨position, [], position, []⟩

/-- One item more. -/
def push (level : Level) (item : Tree) : Level :=
  { level with items := item :: level.items }

/-- The branch that is being read. -/
def branch (level : Level) (stop : Position) : Tree :=
  Tree.ofItems ⟨level.branchStart, stop⟩ level.items.reverse

/-- A further branch, behind a bar. -/
def split (level : Level) (stop next : Position) : Level :=
  ⟨level.start, level.branch stop :: level.branches, next, []⟩

/-- All branches as one tree. -/
def tree (level : Level) (stop : Position) : Tree :=
  match level.branches with
  | [] => level.branch stop
  | branches => .alternation ⟨level.start, stop⟩ (branches.reverse ++ [level.branch stop])

end Level

/-- A group that was opened and not yet closed. -/
structure OpenGroup where
  opening : Span
  settings : Settings
  captures : Bool
  /-- Whether space is skipped around the group. -/
  verbose : Bool
  /-- The branches in which the group stands. -/
  outer : Level

/-- Reads an escape sequence, a sign for a place or a class, or a character that stands for itself. -/
def simpleItem (c : Char) : Parsing Tree := do
  if c = '\\' then
    return ← escape
  let span ← spanNext
  let _ ← bump
  match c with
  | '.' => return .dot span
  | '^' => return .assertion span .lineStart
  | '$' => return .assertion span .lineEnd
  | _ => return .literal ⟨span, c, false⟩

/-- Whether space is skipped behind some settings. -/
def verboseAfter (settings : Settings) (verbose : Bool) : Bool :=
  (settings.state? .verbose).getD verbose

/-- Sets whether space is skipped. -/
def setVerbose (verbose : Bool) : Parsing Unit :=
  modify fun scan => { scan with verbose }

/-- Reads the rest of a pattern inside some groups, the one opened last first. -/
def branchesFrom : Nat → List OpenGroup → Level → Parsing Tree
  | 0, _, level => return level.tree (← here)
  | fuel + 1, groups, level => do
    skipSpace
    match ← current? with
    | none =>
      match groups with
      | [] => return level.tree (← here)
      | group :: _ => fail .groupUnclosed group.opening
    | some '(' =>
      let verbose := (← get).verbose
      match ← groupHead with
      | .settings span settings =>
        setVerbose (verboseAfter settings verbose)
        branchesFrom fuel groups (level.push (.flags span settings))
      | .group opening settings captures =>
        setVerbose (verboseAfter settings verbose)
        let position ← here
        branchesFrom fuel (⟨opening, settings, captures, verbose, level⟩ :: groups)
          (Level.startingAt position)
    | some ')' =>
      match groups with
      | [] => fail .groupUnopened (← spanNext)
      | group :: groups =>
        setVerbose group.verbose
        let body := level.tree (← here)
        let _ ← bump
        let span ← since group.opening.start
        branchesFrom fuel groups (group.outer.push (.group span group.settings group.captures body))
    | some '|' =>
      let stop ← here
      let _ ← bump
      let next ← here
      branchesFrom fuel groups (level.split stop next)
    | some '[' =>
      let item ← bracketClass
      branchesFrom fuel groups (level.push item)
    | some c =>
      if (countOf? c).isSome || c = '\x7b' then
        let items ← repetition c level.items
        branchesFrom fuel groups { level with items }
      else
        let item ← simpleItem c
        branchesFrom fuel groups (level.push item)

/-- Reads a pattern. -/
def Tree.read (pattern : String) : Except Finding Tree :=
  let scan := Scan.start pattern
  match branchesFrom (pattern.length + 1) [] (Level.startingAt Position.start) scan with
  | .error finding _ => .error finding
  | .ok tree _ =>
    match tree.tooDeep? depthLimit 0 with
    | some span => .error ⟨.nestedTooDeep depthLimit, span, none⟩
    | none => .ok tree

end LaneKernels.Pattern
