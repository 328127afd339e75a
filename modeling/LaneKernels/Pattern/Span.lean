/-!
Places in the text of a pattern.

A `Position` counts characters from zero, and lines and columns from one. A `Span` is what lies between two
positions. Spans are ordered by where they start, then by where they stop (`Span.isBefore`).
-/

namespace LaneKernels.Pattern

/-- A place before a character, or at the end. -/
structure Position where
  offset : Nat
  line : Nat
  column : Nat
  deriving DecidableEq, Repr

namespace Position

/-- The place before the first character. -/
def start : Position :=
  ⟨0, 1, 1⟩

/-- The place behind a character. -/
def after (position : Position) (c : Char) : Position :=
  if c = '\n' then ⟨position.offset + 1, position.line + 1, 1⟩
  else ⟨position.offset + 1, position.line, position.column + 1⟩

@[simp] theorem offset_after (position : Position) (c : Char) :
    (position.after c).offset = position.offset + 1 := by
  unfold after
  split <;> rfl

end Position

/-- What lies between two places. -/
structure Span where
  start : Position
  stop : Position
  deriving DecidableEq, Repr

namespace Span

/-- The empty span at a place. -/
def point (position : Position) : Span :=
  ⟨position, position⟩

/-- Whether a span lies within one line. -/
def isOneLine (span : Span) : Bool :=
  span.start.line = span.stop.line

/-- Whether a span is not behind another. -/
def isBefore (s t : Span) : Bool :=
  s.start.offset < t.start.offset ||
    (s.start.offset = t.start.offset && s.stop.offset ≤ t.stop.offset)

end Span

end LaneKernels.Pattern
