import LaneKernels.Pattern.Basic
import LaneKernels.Pattern.ByteRanges

/-!
The size of a pattern: the memory of a machine that reads a text byte by byte and follows the pattern.

* Counted repetitions are written out, so that a short pattern can be large. States, the byte ranges that
  lead from one state to the next, and links without a byte each take so many bytes.
* A machine reads forward and remembers captures, or reads backward and does not (`Direction`).
* A pattern is too large if either machine takes more than `sizeLimit` (`forwardSize`, `backwardSize`).
-/

namespace LaneKernels.Pattern

/-- Bytes that one state takes. -/
def stateBytes : Nat := 32

/-- Bytes that one byte range of a state takes. -/
def rangeBytes : Nat := 8

/-- Bytes that one link from a state takes. -/
def linkBytes : Nat := 4

/-- The greatest size of a machine. -/
def sizeLimit : Nat := 10 * 1024 * 1024

/-- The way in which a machine reads. -/
inductive ReadDirection where
  | forward
  | backward
  deriving DecidableEq, Repr

/-- What is read of some sequences behind some ranges. -/
def tailsBehind (sequences : List (List (Nat × Nat))) (start : List (Nat × Nat)) :
    List (List (Nat × Nat)) :=
  sequences.filterMap fun ranges =>
    if start.isPrefixOf ranges then some (ranges.drop start.length) else none

/-- The places within some sequences, by what is read up to them. -/
def properStarts (sequences : List (List (Nat × Nat))) : List (List (Nat × Nat)) :=
  (sequences.flatMap fun ranges => (List.range ranges.length).map (ranges.take ·)).eraseDups

/-- The size of the states for some sequences that are read forward; places where the same can follow share
one state. -/
def forwardTails (sequences : List (List (Nat × Nat))) : Nat :=
  let states := ((properStarts sequences).map (tailsBehind sequences)).eraseDups
  states.foldl (fun size tails =>
    size + stateBytes + rangeBytes * (tails.map List.head?).eraseDups.length) stateBytes

/-- The size of the states for some sequences that are read backward; sequences that start alike share
states. -/
def backwardTails (sequences : List (List (Nat × Nat))) : Nat :=
  let starts := (sequences.flatMap fun ranges =>
    (List.range ranges.length).map fun n => ranges.take (n + 1)).eraseDups
  2 * stateBytes + linkBytes * sequences.length + stateBytes * starts.length

/-- The size of the states for one character of a set. -/
def CharSet.size (direction : ReadDirection) (set : CharSet) : Nat :=
  match set.only? with
  | some code => stateBytes * (CodeRange.encoding code).length
  | none =>
    if set.isSevenBit then 2 * stateBytes + rangeBytes * set.ranges.length
    else
      match direction with
      | .forward => forwardTails set.byteSequences
      | .backward => backwardTails set.byteSequences

/-- The size of a repetition, from the size of what is repeated and whether that has width. -/
def repeatedSize (least : Nat) (most : Option Nat) (body : Nat) (hasWidth : Bool) : Nat :=
  match least, most with
  | 0, some 1 => 2 * stateBytes + 2 * linkBytes + body
  | 0, none =>
    if hasWidth then stateBytes + 2 * linkBytes + body else 3 * stateBytes + 4 * linkBytes + body
  | least, none => least * body + stateBytes + 2 * linkBytes
  | least, some most =>
    if least = most then least * body
    else
      (if least = 0 then stateBytes else least * body) + stateBytes +
        (most - least) * (stateBytes + 2 * linkBytes + body)

/-- The size of the states of a pattern. -/
def partSize (direction : ReadDirection) : Pattern → Nat
  | empty | look _ => stateBytes
  | chars set => set.size direction
  | captured body =>
    match direction with
    | .forward => 2 * stateBytes + body.partSize direction
    | .backward => body.partSize direction
  | sequence p q => p.partSize direction + q.partSize direction
  | either p q =>
    let bar :=
      match q with
      | either _ _ => linkBytes
      | _ => 2 * stateBytes + 2 * linkBytes
    p.partSize direction + q.partSize direction + bar
  | repeated least most body =>
    repeatedSize least most (body.partSize direction) (body.minLength?.any (0 < ·))

/-- The size of the machine that reads forward. -/
def forwardSize (pattern : Pattern) : Nat :=
  pattern.partSize .forward + 6 * stateBytes + rangeBytes + 3 * linkBytes

/-- The size of the machine that reads backward. -/
def backwardSize (pattern : Pattern) : Nat :=
  pattern.partSize .backward + 4 * stateBytes + rangeBytes + 3 * linkBytes

end LaneKernels.Pattern
