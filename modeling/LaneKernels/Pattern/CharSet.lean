import LaneKernels.Pattern.Tree

/-!
Sets of characters as ranges of code points.

* A `CharSet` is a list of ranges, which `normal` sorts and joins. A code point is in the set if it lies in
  one of them (`contains`).
* `union`, `intersection`, `difference`, `symmetricDifference` and `complement` are the operations between
  classes; `withOtherCase` adds the other case of seven-bit letters.
-/

namespace LaneKernels.Pattern

/-- The code points from a first to a last one. -/
structure CodeRange where
  first : Nat
  last : Nat
  deriving DecidableEq, Repr

/-- A set of code points. -/
structure CharSet where
  ranges : List CodeRange
  deriving DecidableEq, Repr

namespace CharSet

/-- The greatest code point. -/
def lastCode : Nat :=
  0x10FFFF

/-- The set without characters. -/
def empty : CharSet :=
  ⟨[]⟩

/-- Whether a set has no characters. -/
def isEmpty (set : CharSet) : Bool :=
  set.ranges.isEmpty

/-- Whether a code point is in a set. -/
def contains (set : CharSet) (code : Nat) : Bool :=
  set.ranges.any fun range => range.first ≤ code && code ≤ range.last

/-- The set of one character. -/
def single (c : Char) : CharSet :=
  ⟨[⟨c.toNat, c.toNat⟩]⟩

/-- The set of the characters between two. -/
def between (first last : Char) : CharSet :=
  ⟨[⟨first.toNat, last.toNat⟩]⟩

/-- Puts a range before ascending ranges that start no earlier, and joins it with those that it touches. -/
def join (range : CodeRange) : List CodeRange → List CodeRange
  | [] => [range]
  | next :: rest =>
    if next.first ≤ range.last + 1 then join ⟨range.first, max range.last next.last⟩ rest
    else range :: next :: rest

/-- Puts a range among ranges that are sorted by where they start. -/
def place (range : CodeRange) : List CodeRange → List CodeRange
  | [] => [range]
  | next :: rest => if range.first ≤ next.first then range :: next :: rest else next :: place range rest

/-- The set of some ranges, sorted and joined. -/
def normal (ranges : List CodeRange) : CharSet :=
  ⟨(ranges.foldr place []).foldr join []⟩

/-- The characters in either set. -/
def union (s t : CharSet) : CharSet :=
  normal (s.ranges ++ t.ranges)

/-- What two ranges have in common. -/
def common? (r s : CodeRange) : Option CodeRange :=
  let first := max r.first s.first
  let last := min r.last s.last
  if first ≤ last then some ⟨first, last⟩ else none

/-- The characters in both sets. -/
def intersection (s t : CharSet) : CharSet :=
  normal (s.ranges.flatMap fun r => t.ranges.filterMap (common? r))

/-- The gaps between ascending ranges from a code point on. -/
def gaps : Nat → List CodeRange → List CodeRange
  | start, [] => if start ≤ lastCode then [⟨start, lastCode⟩] else []
  | start, range :: rest =>
    if start < range.first then ⟨start, range.first - 1⟩ :: gaps (range.last + 1) rest
    else gaps (range.last + 1) rest

/-- The characters that are not in a set. -/
def complement (set : CharSet) : CharSet :=
  ⟨gaps 0 (normal set.ranges).ranges⟩

/-- The characters in the first set alone. -/
def difference (s t : CharSet) : CharSet :=
  s.intersection t.complement

/-- The characters in exactly one of the sets. -/
def symmetricDifference (s t : CharSet) : CharSet :=
  (s.union t).difference (s.intersection t)

/-- The result of an operation between classes. -/
def apply (op : ClassOp) (s t : CharSet) : CharSet :=
  match op with
  | .intersection => s.intersection t
  | .difference => s.difference t
  | .symmetricDifference => s.symmetricDifference t

/-- The part of a range within another one, moved by a distance up or down. -/
def moved (within : CodeRange) (up down : Nat) (range : CodeRange) : Option CodeRange :=
  (common? within range).map fun r => ⟨r.first + up - down, r.last + up - down⟩

/-- The set with the other case of each seven-bit letter. -/
def withOtherCase (set : CharSet) : CharSet :=
  normal (set.ranges ++ set.ranges.filterMap (moved ⟨0x41, 0x5A⟩ 32 0) ++
    set.ranges.filterMap (moved ⟨0x61, 0x7A⟩ 0 32))

/-- Whether all characters of a set have seven bits. -/
def isSevenBit (set : CharSet) : Bool :=
  set.ranges.all (·.last < 0x80)

/-- The only character of a set, if it has just one. -/
def only? (set : CharSet) : Option Nat :=
  match set.ranges with
  | [range] => if range.first = range.last then some range.first else none
  | _ => none

end CharSet

namespace NamedClass

/-- The ranges of a class, each as its first and last character. -/
def bounds : NamedClass → List (Char × Char)
  | alnum => [('0', '9'), ('A', 'Z'), ('a', 'z')]
  | alpha => [('A', 'Z'), ('a', 'z')]
  | ascii => [('\x00', '\x7f')]
  | blank => [('\t', '\t'), (' ', ' ')]
  | cntrl => [('\x00', '\x1f'), ('\x7f', '\x7f')]
  | digit => [('0', '9')]
  | graph => [('!', '~')]
  | lower => [('a', 'z')]
  | print => [(' ', '~')]
  | punct => [('!', '/'), (':', '@'), ('[', '\x60'), ('\x7b', '~')]
  | space => [('\t', '\r'), (' ', ' ')]
  | upper => [('A', 'Z')]
  | word => [('0', '9'), ('A', 'Z'), ('_', '_'), ('a', 'z')]
  | xdigit => [('0', '9'), ('A', 'F'), ('a', 'f')]

/-- The characters of a class. -/
def set (kind : NamedClass) : CharSet :=
  ⟨kind.bounds.map fun (first, last) => ⟨first.toNat, last.toNat⟩⟩

end NamedClass

/-- The characters of a shorthand class. -/
def Shorthand.set : Shorthand → CharSet
  | digit => NamedClass.digit.set
  | space => NamedClass.space.set
  | word => NamedClass.word.set

end LaneKernels.Pattern
