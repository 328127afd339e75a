import LaneKernels.Pattern.Span

/-!
The text of a pattern as a tree.

* A `ClassTree` is what stands in brackets: characters, ranges, named classes, further brackets, and
  operations between them.
* A `Tree` is a whole pattern. Its parts remember their spans, so that what is wrong with their meaning can
  be shown in its place. `Tree.ofItems` makes one tree of the items of a branch.
-/

namespace LaneKernels.Pattern

/-- The ways in which a pattern can be read. -/
inductive Flag where
  | ignoreCase
  | multiLine
  | dotAll
  | swapGreed
  | unicode
  | carriageReturn
  | verbose
  deriving DecidableEq, Repr

namespace Flag

/-- The flag of a letter. -/
def ofLetter? : Char → Option Flag
  | 'i' => some ignoreCase
  | 'm' => some multiLine
  | 's' => some dotAll
  | 'U' => some swapGreed
  | 'u' => some unicode
  | 'R' => some carriageReturn
  | 'x' => some verbose
  | _ => none

end Flag

/-- Flags that are switched on or off. -/
abbrev Settings := List (Flag × Bool)

/-- What becomes of a flag. -/
def Settings.state? (settings : Settings) (flag : Flag) : Option Bool :=
  settings.lookup flag

/-- A character that stands for itself. -/
structure Literal where
  span : Span
  char : Char
  /-- Whether it is written as one byte in hexadecimal digits. -/
  isByte : Bool
  deriving DecidableEq, Repr

/-- The classes that a letter behind a backslash stands for. -/
inductive Shorthand where
  | digit
  | space
  | word
  deriving DecidableEq, Repr

/-- The classes with a name between brackets and colons. -/
inductive NamedClass where
  | alnum
  | alpha
  | ascii
  | blank
  | cntrl
  | digit
  | graph
  | lower
  | print
  | punct
  | space
  | upper
  | word
  | xdigit
  deriving DecidableEq, Repr

namespace NamedClass

/-- The class of a name. -/
def named? : String → Option NamedClass
  | "alnum" => some alnum
  | "alpha" => some alpha
  | "ascii" => some ascii
  | "blank" => some blank
  | "cntrl" => some cntrl
  | "digit" => some digit
  | "graph" => some graph
  | "lower" => some lower
  | "print" => some print
  | "punct" => some punct
  | "space" => some space
  | "upper" => some upper
  | "word" => some word
  | "xdigit" => some xdigit
  | _ => none

end NamedClass

/-- The operations between classes. -/
inductive ClassOp where
  | intersection
  | difference
  | symmetricDifference
  deriving DecidableEq, Repr

namespace ClassOp

/-- Every operation. -/
def all : List ClassOp :=
  [intersection, difference, symmetricDifference]

/-- The character that is written twice for an operation. -/
def char : ClassOp → Char
  | intersection => '&'
  | difference => '-'
  | symmetricDifference => '~'

end ClassOp

/-- What stands in brackets. -/
inductive ClassTree where
  | empty (span : Span)
  | literal (literal : Literal)
  | range (span : Span) (first last : Literal)
  | named (span : Span) (kind : NamedClass) (negated : Bool)
  | shorthand (span : Span) (kind : Shorthand) (negated : Bool)
  | property (span : Span) (name : String)
  | bracketed (span : Span) (negated : Bool) (body : ClassTree)
  | union (span : Span) (items : List ClassTree)
  | operation (span : Span) (op : ClassOp) (lhs rhs : ClassTree)

/-- Where a part of a class stands. -/
def ClassTree.span : ClassTree → Span
  | empty span => span
  | literal l => l.span
  | range span _ _ => span
  | named span _ _ => span
  | shorthand span _ _ => span
  | property span _ => span
  | bracketed span _ _ => span
  | union span _ => span
  | operation span _ _ _ => span

/-- The kinds of word boundary. -/
inductive WordEdge where
  | boundary
  | noBoundary
  | start
  | stop
  | startHalf
  | stopHalf
  deriving DecidableEq, Repr

/-- What can be asked of a place in a text. -/
inductive Assertion where
  | lineStart
  | lineEnd
  | textStart
  | textEnd
  | word (edge : WordEdge)
  deriving DecidableEq, Repr

/-- How often something is repeated; without a maximum there is no limit. -/
structure Count where
  min : Nat
  max : Option Nat
  deriving DecidableEq, Repr

/-- Whether the least number of a count is no greater than the greatest. -/
def Count.isValid (count : Count) : Bool :=
  count.max.all (count.min ≤ ·)

/-- A pattern as it is written. -/
inductive Tree where
  | empty
  | flags (span : Span) (settings : Settings)
  | literal (literal : Literal)
  | dot (span : Span)
  | assertion (span : Span) (assertion : Assertion)
  | shorthand (span : Span) (kind : Shorthand) (negated : Bool)
  | property (span : Span) (name : String)
  | bracketed (span : Span) (negated : Bool) (body : ClassTree)
  | repetition (span : Span) (count : Count) (body : Tree)
  | group (span : Span) (settings : Settings) (captures : Bool) (body : Tree)
  | alternation (span : Span) (branches : List Tree)
  | sequence (span : Span) (items : List Tree)

namespace Tree

/-- Where a part of a pattern stands. -/
def span : Tree → Span
  | empty => Span.point Position.start
  | flags span _ => span
  | literal l => l.span
  | dot span => span
  | assertion span _ => span
  | shorthand span _ _ => span
  | property span _ => span
  | bracketed span _ _ => span
  | repetition span _ _ => span
  | group span _ _ _ => span
  | alternation span _ => span
  | sequence span _ => span

/-- The tree of the items of a branch. -/
def ofItems (span : Span) : List Tree → Tree
  | [] => empty
  | [item] => item
  | items => sequence span items

/-- Whether something can be repeated. -/
def isRepeatable : Tree → Bool
  | empty | flags _ _ => false
  | _ => true

/-- The part of a class that is written in the same way, if there is one. -/
def asClass? : Tree → Option ClassTree
  | literal l => some (.literal l)
  | shorthand span kind negated => some (.shorthand span kind negated)
  | property span name => some (.property span name)
  | _ => none

/-- The character that a tree is, if it is one. -/
def asLiteral? : Tree → Option Literal
  | literal l => some l
  | _ => none

end Tree

end LaneKernels.Pattern
