import LaneKernels.Pattern.CharSet

/-!
What a pattern matches, without how it is written.

* A `Pattern` is a character of a set, a condition on a place (`Look`), patterns one after the other or side
  by side, a repetition, or a group that is captured.
* `minLength?` is the length of the shortest text that a pattern can match, none where there is no such
  text, and `isWidthless` says that it matches nothing but the empty text.
* `times` repeats a pattern: one without width is as good once as many times, and no times is the empty
  pattern.
-/

namespace LaneKernels

namespace Pattern

/-- A condition on a place in a text. -/
inductive Look where
  | textStart
  | textEnd
  | lineStart (carriageReturn : Bool)
  | lineEnd (carriageReturn : Bool)
  | word (unicode : Bool) (edge : WordEdge)
  deriving DecidableEq, Repr

end Pattern

/-- What a pattern matches. -/
inductive Pattern where
  | empty
  | chars (set : Pattern.CharSet)
  | look (look : Pattern.Look)
  | captured (body : Pattern)
  | sequence (first second : Pattern)
  | either (left right : Pattern)
  | repeated (min : Nat) (max : Option Nat) (body : Pattern)
  deriving DecidableEq, Repr

namespace Pattern

/-- The length of the shortest text that a pattern can match. -/
def minLength? : Pattern → Option Nat
  | empty | look _ => some 0
  | chars set => if set.isEmpty then none else some 1
  | captured body => body.minLength?
  | sequence p q => do return (← p.minLength?) + (← q.minLength?)
  | either p q => do return min (← p.minLength?) (← q.minLength?)
  | repeated least _ body => body.minLength?.map (least * ·)

/-- Whether a pattern matches nothing but the empty text. -/
def isWidthless : Pattern → Bool
  | empty | look _ => true
  | chars _ => false
  | captured body => body.isWidthless
  | sequence p q | either p q => p.isWidthless && q.isWidthless
  | repeated _ max body => max.isSome && body.isWidthless

/-- One pattern behind another. -/
def followedBy (p q : Pattern) : Pattern :=
  match p, q with
  | empty, q => q
  | p, empty => p
  | p, q => sequence p q

/-- Patterns one behind the other. -/
def inOrder (patterns : List Pattern) : Pattern :=
  patterns.foldr followedBy empty

/-- One pattern or the other; of single characters, one set. -/
def orElse (p q : Pattern) : Pattern :=
  match p, q with
  | chars s, chars t => chars (s.union t)
  | p, q => either p q

/-- One pattern of some. -/
def anyOf : List Pattern → Pattern
  | [] => chars .empty
  | [p] => p
  | p :: rest => p.orElse (anyOf rest)

/-- A pattern repeated a number of times. -/
def times (count : Count) (body : Pattern) : Pattern :=
  let least := if body.isWidthless then min count.min 1 else count.min
  let most := if body.isWidthless then some (min (count.max.getD 1) 1) else count.max
  if most = some 0 then empty
  else if least = 1 ∧ most = some 1 then body
  else repeated least most body

/-- Whether a pattern asks for the edge of a word of more than seven-bit characters. -/
def usesUnicodeWord : Pattern → Bool
  | look (.word unicode _) => unicode
  | empty | chars _ | look _ => false
  | captured body | repeated _ _ body => body.usesUnicodeWord
  | sequence p q | either p q => p.usesUnicodeWord || q.usesUnicodeWord

/-- The pattern with repetitions directly inside others joined, where none of them counts beyond one. -/
def condensed : Pattern → Pattern
  | empty => empty
  | chars set => chars set
  | look l => look l
  | captured body => body.condensed
  | sequence p q => sequence p.condensed q.condensed
  | either p q => either p.condensed q.condensed
  | repeated least most body =>
    match body.condensed with
    | repeated least' most' inner =>
      if least ≤ 1 && least' ≤ 1 && most.all (· ≤ 1) && most'.all (· ≤ 1) then
        repeated (least * least') (do return (← most) * (← most')) inner
      else repeated least most (repeated least' most' inner)
    | inner => repeated least most inner

end Pattern

end LaneKernels
